import SignOn.Proofs.Text.Trim

/-!
# Values of parameters

The values of a parameter have a kind. A value of a kind means something (`Kind.Means`) or is
faulty, and then the error names what was expected (`Kind.Faulty`). White space around a value does
not count, nor does the letter case of flags and storage methods (`Kind.Respells`).
-/

namespace SignOn.Parameter

/-- The segments of a text that commas separate. -/
structure IsCut (value : String) (segments : List String) : Prop where
  nonempty : segments ≠ []
  closed : ∀ segment ∈ segments, ',' ∉ segment.toList
  join : Text.join "," segments = value

/-- Every text has segments. -/
theorem exists_isCut (value : String) : ∃ segments, IsCut value segments := by
  refine ⟨(Text.splitOn ',' value.toList).map String.ofList, ?_, ?_, ?_⟩
  · exact fun h => Text.splitOn_ne_nil _ _ (List.map_eq_nil_iff.mp h)
  · intro segment hs hm
    obtain ⟨piece, hpiece, rfl⟩ := List.mem_map.mp hs
    rw [String.toList_ofList] at hm
    exact (Text.of_mem_splitOn hpiece _ hm).1 rfl
  · have hid : String.toList ∘ String.ofList = id := funext fun _ => String.toList_ofList
    rw [Text.join, List.map_map, hid, List.map_id]
    exact (congrArg String.ofList (Text.joinWith_splitOn ',' value.toList)).trans
      String.ofList_toList

/-- The parts of a listing are its segments, trimmed and without the blank ones. -/
private theorem listed_of_isCut {value : String} {segments : List String}
    (h : IsCut value segments) :
    listed value = (segments.map Text.trim).filter (· ≠ "") := by
  have hsplit : Text.splitOn ',' value.toList = segments.map String.toList := by
    rw [← h.join, Text.join, String.toList_ofList]
    exact Text.splitOn_joinWith (by simpa using h.nonempty) (by simpa using h.closed)
  rw [listed, hsplit, List.map_map, ← List.filterMap_eq_filter, List.filterMap_map,
    List.filterMap_map]
  apply List.filterMap_congr
  intro segment _
  by_cases hblank : Text.trimBy Text.isBlank segment.toList = []
  · simp [Text.trim, hblank, Option.guard]
  · simp [Text.trim, hblank, Option.guard]

/-- What the values of a parameter are read as. -/
inductive Kind where
  /-- True or false. -/
  | flag
  /-- Any text that is not blank. -/
  | text
  /-- The name of a storage method. -/
  | method
  /-- Texts with commas between them. -/
  | listing

namespace Kind

/-- What a value of a kind becomes. -/
abbrev Value : Kind → Type
  | flag => Bool
  | text => String
  | method => StorageMethod
  | listing => List String

/-- What a value means. White space at its ends never counts, nor does the letter case of flags and
of storage methods. A listing means its segments without the blank ones. -/
def Means : (kind : Kind) → String → kind.Value → Prop
  | flag, value, b => Text.lower (Text.trim value) = if b then "true" else "false"
  | text, value, s => Text.trim value = s ∧ s ≠ ""
  | method, value, m => Text.lower (Text.trim value) = m.text
  | listing, value, texts =>
    ∃ segments, IsCut value segments ∧ texts = (segments.map Text.trim).filter (· ≠ "")

/-- A value is valid if it means something. -/
def Admits (kind : Kind) (value : String) : Prop := ∃ a, kind.Means value a

/-- What is wrong with the value of a parameter. Nothing ever is with a listing. -/
inductive Faulty (name value : String) : Kind → Error → Prop
  | flag (h : ¬ Kind.flag.Admits value) :
      Faulty name value .flag { kind := .config (name ++ ": expected 'true' or 'false'") }
  | text (h : ¬ Kind.text.Admits value) :
      Faulty name value .text { kind := .config (name ++ ": must not be empty") }
  | method (h : ¬ Kind.method.Admits value) :
      Faulty name value .method { kind := .config ("unknown security context storage method '" ++
        Text.lower (Text.trim value) ++ "' (expected 'cookie' or 'session')") }

/-- Two spellings of a value that differ by white space around it or, where this does not count, by
letter case. -/
inductive Respells (kind : Kind) : String → String → Prop
  | surrounded {before after : String} (hbefore : ∀ c ∈ before.toList, Text.isBlank c = true)
      (hafter : ∀ c ∈ after.toList, Text.isBlank c = true) (value : String) :
      Respells kind value (before ++ value ++ after)
  | recased (hkind : kind = .flag ∨ kind = .method) {value value' : String}
      (h : Text.lower value = Text.lower value') : Respells kind value value'

/-- What a value of a parameter is read as. -/
def read (name value : String) : (kind : Kind) → Except Error kind.Value
  | flag => truth name value
  | text => filled name value
  | method => StorageMethod.ofText value
  | listing => .ok (listed value)

private theorem means_listing_iff {value : String} {texts : List String} :
    Kind.listing.Means value texts ↔ listed value = texts := by
  constructor
  · rintro ⟨segments, hcut, rfl⟩
    exact listed_of_isCut hcut
  · rintro rfl
    obtain ⟨segments, hcut⟩ := exists_isCut value
    exact ⟨segments, hcut, listed_of_isCut hcut⟩

/-- A value is read as what it means. -/
theorem read_eq_ok_iff {kind : Kind} {name value : String} {a : kind.Value} :
    kind.read name value = .ok a ↔ kind.Means value a := by
  cases kind with
  | flag =>
    rw [read, truth]
    split
    · next h => cases a <;> simp [Means, h]
    · next htrue =>
      split
      · next h => cases a <;> simp [Means, h]
      · next hfalse => cases a <;> simp [Means, htrue, hfalse]
  | text =>
    rw [read, filled]
    split
    · next h => simp +contextual [Means, h, eq_comm]
    · next h =>
      constructor
      · rintro ⟨⟩
        exact ⟨rfl, h⟩
      · rintro ⟨rfl, -⟩
        rfl
  | method =>
    rw [read, StorageMethod.ofText]
    split
    · next h => cases a <;> simp [Means, StorageMethod.text, h]
    · next hcookie =>
      split
      · next h => cases a <;> simp [Means, StorageMethod.text, h]
      · next hsession => cases a <;> simp [Means, StorageMethod.text, hcookie, hsession]
  | listing => rw [means_listing_iff, read, Except.ok.injEq]

/-- A value means one thing at most. -/
theorem Means.unique {kind : Kind} {value : String} {a b : kind.Value} (ha : kind.Means value a)
    (hb : kind.Means value b) : a = b := by
  have hread : kind.read "" value = .ok a := read_eq_ok_iff.mpr ha
  rw [read_eq_ok_iff.mpr hb] at hread
  exact (Except.ok.inj hread).symm

/-- A value is valid exactly when it can be read. -/
theorem admits_iff {kind : Kind} (name : String) {value : String} :
    kind.Admits value ↔ ∃ a, kind.read name value = .ok a :=
  exists_congr fun _ => read_eq_ok_iff.symm

theorem Faulty.not_admits {kind : Kind} {name value : String} {e : Error}
    (h : kind.Faulty name value e) : ¬ kind.Admits value := by
  cases h <;> assumption

theorem Faulty.unique {kind : Kind} {name value : String} {e e' : Error}
    (h : kind.Faulty name value e) (h' : kind.Faulty name value e') : e = e' := by
  cases h <;> cases h' <;> rfl

private theorem faulty_of_read {kind : Kind} {name value : String} {e : Error}
    (h : kind.read name value = .error e) : kind.Faulty name value e := by
  have hbad : ¬ kind.Admits value := by
    rw [admits_iff name, h]
    rintro ⟨a, ⟨⟩⟩
  cases kind with
  | flag =>
    rw [read, truth] at h
    split at h
    · cases h
    · split at h
      · cases h
      · rw [← Except.error.inj h, invalid, String.append_assoc]
        exact .flag hbad
  | text =>
    rw [read, filled] at h
    split at h
    · rw [← Except.error.inj h, invalid, String.append_assoc]
      exact .text hbad
    · cases h
  | method =>
    rw [read, StorageMethod.ofText] at h
    split at h
    · cases h
    · split at h
      · cases h
      · rw [← Except.error.inj h]
        exact .method hbad
  | listing => cases h

/-- A value that means nothing is faulty, and is refused for this. -/
theorem read_eq_error_iff {kind : Kind} {name value : String} {e : Error} :
    kind.read name value = .error e ↔ kind.Faulty name value e := by
  constructor
  · exact faulty_of_read
  · intro h
    cases hread : kind.read name value with
    | ok a => exact absurd ⟨a, read_eq_ok_iff.mp hread⟩ h.not_admits
    | error e' => rw [(faulty_of_read hread).unique h]

/-- Both spellings of a value are read alike, and refused alike. -/
theorem read_eq_of_respells {kind : Kind} (name : String) {value value' : String}
    (h : kind.Respells value value') : kind.read name value = kind.read name value' := by
  cases h with
  | @surrounded before after hbefore hafter =>
    have htrim := Text.trim_surrounded hbefore hafter value
    cases kind with
    | flag => rw [read, read, truth, truth, htrim]
    | text => rw [read, read, filled, filled, htrim]
    | method => rw [read, read, StorageMethod.ofText, StorageMethod.ofText, htrim]
    | listing =>
      rw [read, read, listed, listed, String.toList_append, String.toList_append,
        Text.map_trimBy_splitOn_surrounded (by decide) hbefore hafter]
  | recased hkind h =>
    have hlower : Text.lower (Text.trim value) = Text.lower (Text.trim value') := by
      rw [← Text.trim_lower, h, Text.trim_lower]
    rcases hkind with rfl | rfl
    · rw [read, read, truth, truth, hlower]
    · rw [read, read, StorageMethod.ofText, StorageMethod.ofText, hlower]

end Kind

end SignOn.Parameter
