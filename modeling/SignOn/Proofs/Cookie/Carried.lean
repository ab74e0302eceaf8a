import SignOn.Cookie.Lookup
import SignOn.Proofs.Cookie.Expiration

/-!
# Cookies that are carried back

Of each `Set-Cookie` field a browser keeps the pair before the first semicolon. It sends what it
keeps in `Cookie` fields, in an order of its own, among pairs of other names and over as many fields
as it likes. A cookie that was set is found all the same (`find?_of_carries`).
-/

namespace SignOn

namespace Text

/-- What stands before a separator decides on a prefix without it. -/
theorem takeWhile_append_cons {drops : Char → Bool} {c : Char} (h : drops c = false)
    (a b : List Char) : (a ++ c :: b).takeWhile drops = a.takeWhile drops := by
  induction a with
  | nil => simp [h]
  | cons d a ih => simp only [List.cons_append, List.takeWhile_cons, ih]

/-- A separator and a blank between pieces, as a separator with the blank at the front of the piece
after it. -/
theorem joinWith_cons_cons (sep : List Char) (c : Char) (piece : List Char)
    (pieces : List (List Char)) :
    joinWith (sep ++ [c]) (piece :: pieces) = joinWith sep (piece :: pieces.map (c :: ·)) := by
  induction pieces generalizing piece with
  | nil => rfl
  | cons next pieces ih =>
    rw [joinWith, ih, List.map_cons, joinWith]
    cases pieces with
    | nil => simp [joinWith]
    | cons other pieces => simp [joinWith]

/-- Texts that are joined by semicolons and blanks come apart again, the first one at its own
semicolons too. -/
theorem splitOn_join {first : String} {rest : List String} (h : ∀ s ∈ rest, ';' ∉ s.toList) :
    splitOn ';' (join "; " (first :: rest)).toList =
      splitOn ';' first.toList ++ rest.map fun s => ' ' :: s.toList := by
  have hpieces : ∀ piece ∈ (rest.map String.toList).map (' ' :: ·), ';' ∉ piece := by
    simp only [List.forall_mem_map, List.mem_cons, not_or]
    exact fun s hs => ⟨by decide, h s hs⟩
  have hmap : (rest.map fun s => ' ' :: s.toList) = (rest.map String.toList).map (' ' :: ·) := by
    rw [List.map_map]
    rfl
  rw [join, String.toList_ofList, List.map_cons, hmap]
  change splitOn ';' (joinWith ([';'] ++ [' ']) _) = _
  rw [joinWith_cons_cons]
  generalize (rest.map String.toList).map (' ' :: ·) = pieces at hpieces
  cases pieces with
  | nil => rw [joinWith, List.append_nil]
  | cons next pieces =>
    rw [joinWith, List.append_assoc, List.singleton_append, splitOn_append,
      splitOn_joinWith (List.cons_ne_nil _ _) hpieces]

/-- Texts without semicolons that are joined by semicolons and blanks come apart again. -/
theorem splitOn_join_cons {first : String} {rest : List String}
    (h : ∀ s ∈ first :: rest, ';' ∉ s.toList) :
    splitOn ';' (join "; " (first :: rest)).toList =
      first.toList :: rest.map fun s => ' ' :: s.toList := by
  rw [splitOn_join fun s hs => h s (List.mem_cons_of_mem _ hs),
    splitOn_of_not_mem (h first List.mem_cons_self), List.singleton_append]

/-- Of joined pieces the first decides what stands before the separator. -/
theorem takeWhile_joinWith {drops : Char → Bool} {c : Char} (h : drops c = false) (sep : List Char)
    (piece : List Char) (pieces : List (List Char)) :
    (joinWith (c :: sep) (piece :: pieces)).takeWhile drops = piece.takeWhile drops := by
  cases pieces with
  | nil => rfl
  | cons next pieces =>
    rw [joinWith, List.append_assoc, List.cons_append, takeWhile_append_cons h]

/-- A blank at the front is trimmed. -/
theorem trimBy_cons {drops : Char → Bool} {c : Char} (h : drops c = true) (cs : List Char) :
    trimBy drops (c :: cs) = trimBy drops cs := by
  rw [trimBy, List.dropWhile_cons_of_pos h, trimBy]

/-- A text is trimmed at its end only, if what stands at its front is kept, and so is what stands
before the end. -/
theorem trimBy_append_cons {drops : Char → Bool} {a : List Char} {c : Char}
    (ha : ∀ d ∈ a.head?, drops d = false) (hc : drops c = false) (b : List Char) :
    trimBy drops (a ++ c :: b) = a ++ c :: trimEndBy drops b := by
  have hfront : (a ++ c :: b).dropWhile drops = a ++ c :: b := by
    cases a with
    | nil => simp [hc]
    | cons d a => simp [ha d rfl]
  rw [trimBy, hfront, trimEndBy, List.reverse_append, List.reverse_cons, List.append_assoc,
    List.dropWhile_append]
  split
  · next h =>
    rw [List.isEmpty_iff.mp h]
    simp [hc]
  · simp

/-- Nothing is trimmed where nothing can be. -/
theorem trimEndBy_of_forall {drops : Char → Bool} {cs : List Char} (h : ∀ c ∈ cs, drops c = false) :
    trimEndBy drops cs = cs := by
  have hkept : ∀ ds : List Char, (∀ c ∈ ds, drops c = false) → ds.dropWhile drops = ds := by
    intro ds hds
    cases ds with
    | nil => rfl
    | cons d ds => simp [hds d List.mem_cons_self]
  rw [trimEndBy, hkept _ fun c hc => h c (List.mem_reverse.mp hc), List.reverse_reverse]

end Text

namespace Cookie

open Http (Headers IsFieldChar IsTextChar)

/-! ## Pairs of a response -/

/-- The part of a value that a browser keeps. -/
def keptValue (value : String) : String := String.ofList (value.toList.takeWhile (· ≠ ';'))

/-- The characters of a value that a browser keeps. -/
theorem toList_keptValue (value : String) :
    (keptValue value).toList = value.toList.takeWhile (· ≠ ';') := String.toList_ofList

/-- What is kept of a value holds no semicolon. -/
theorem not_mem_keptValue (value : String) : ';' ∉ (keptValue value).toList := by
  rw [toList_keptValue]
  intro hm
  exact absurd (List.all_eq_true.mp List.all_takeWhile _ hm) (by decide)

/-- The pair that a `Set-Cookie` field sets. -/
def setPair? (field : Octets) : Option (String × String) := do
  let text ← Octets.text? field
  let (name, value) ← Text.cutAt '=' (text.toList.takeWhile (· ≠ ';'))
  pure (String.ofList name, String.ofList value)

/-- The pairs that a response sets, in order. -/
def setPairs (response : Headers) : List (String × String) :=
  (response.octets setCookieField).filterMap setPair?

/-- A name that ends where the value begins. -/
def IsName (name : String) : Prop := ∀ c ∈ name.toList, c ≠ '=' ∧ c ≠ ';'

instance (name : String) : Decidable (IsName name) :=
  List.decidableBAll (fun c => c ≠ '=' ∧ c ≠ ';') name.toList

/-- A pair before attributes sets its name to its value, up to the first semicolon. -/
theorem setPair?_join {name : String} (hname : IsName name) (value : String)
    (attributes : List String) :
    setPair? (Octets.ofText (Text.join "; " ((name ++ "=" ++ value) :: attributes))) =
      some (name, keptValue value) := by
  have hsep : (decide (';' ≠ ';')) = false := by decide
  have hwhole : (Text.join "; " ((name ++ "=" ++ value) :: attributes)).toList.takeWhile (· ≠ ';') =
      name.toList ++ '=' :: value.toList.takeWhile (· ≠ ';') := by
    rw [Text.join, String.toList_ofList, List.map_cons]
    change (Text.joinWith (';' :: [' ']) _).takeWhile _ = _
    rw [Text.takeWhile_joinWith hsep, String.toList_append, String.toList_append,
      List.append_assoc, List.takeWhile_append_of_pos fun c hc => by simp [(hname c hc).2]]
    rfl
  rw [setPair?, Octets.text?_ofText]
  simp only [Option.bind_eq_bind, Option.bind_some, hwhole]
  rw [Text.cutAt_append_cons fun h => (hname '=' h).1 rfl]
  simp only [Option.bind_some, String.ofList_toList]
  rfl

/-- The text that sets a cookie sets its name to its value, up to the first semicolon. -/
theorem setPair?_setCookie {name : String} (hname : IsName name) (o : Options) (value : String) :
    setPair? (Octets.ofText (o.setCookie name value)) = some (name, keptValue value) :=
  setPair?_join hname value (o.scope ++ o.policy)

/-- The attributes of a cookie but its scope are text. -/
theorem isTextChar_policy (o : Options) : ∀ text ∈ o.policy, ∀ c ∈ text.toList, IsTextChar c := by
  have hage := Http.forall_isTextChar (by decide : "Max-Age=".toList.all (IsTextChar ·) = true)
  have hsite : ∀ policy : SameSite,
      ("SameSite=" ++ policy.text).toList.all (IsTextChar ·) = true := by
    intro policy
    cases policy with
    | strict => decide
    | lax => decide
    | none => decide
  rw [Options.policy, List.forall_mem_append, List.forall_mem_append, List.forall_mem_append,
    List.forall_mem_map, List.forall_mem_singleton]
  refine ⟨⟨⟨fun seconds _ => ?_, ?_⟩, ?_⟩, Http.forall_isTextChar (hsite _)⟩
  · rw [String.toList_append, List.forall_mem_append]
    refine ⟨hage, fun c hc => .inl ?_⟩
    have := Text.asciiFrom_toString_int seconds c hc
    omega
  · split
    · exact List.forall_mem_singleton.mpr (Http.forall_isTextChar (by decide))
    · exact fun _ h => absurd h List.not_mem_nil
  · split
    · exact List.forall_mem_singleton.mpr (Http.forall_isTextChar (by decide))
    · exact fun _ h => absurd h List.not_mem_nil

/-- Of the attributes of a cookie only its scope can keep it from being written. -/
theorem isFieldChar_policy (o : Options) : ∀ text ∈ o.policy, ∀ c ∈ text.toList, IsFieldChar c :=
  fun text ht c hc => (isTextChar_policy o text ht c hc).imp (fun h => ⟨h.1, Nat.ne_of_lt h.2⟩) id

/-- A cookie of a legal name and value can stand in a field exactly when domain and path can. -/
theorem isFieldChar_setCookie_iff {o : Options} {name value : String}
    (hname : ∀ c ∈ name.toList, IsFieldChar c) (hvalue : ∀ c ∈ value.toList, IsFieldChar c) :
    (∀ c ∈ (o.setCookie name value).toList, IsFieldChar c) ↔ o.IsWritable := by
  have hsep := Http.forall_isFieldChar (by decide : "; ".toList.all (IsFieldChar ·) = true)
  have hmark := Http.forall_isFieldChar (by decide : "=".toList.all (IsFieldChar ·) = true)
  have hset : ∀ c ∈ (name ++ "=" ++ value).toList, IsFieldChar c := by
    rw [String.toList_append, String.toList_append, List.forall_mem_append, List.forall_mem_append]
    exact ⟨⟨hname, hmark⟩, hvalue⟩
  rw [Options.setCookie, Text.join, String.toList_ofList, Text.forall_mem_joinWith_iff hsep,
    List.forall_mem_map, List.cons_append, List.forall_mem_cons, List.forall_mem_append,
    and_iff_right hset, and_iff_left (isFieldChar_policy o), isFieldChar_scope_iff]

/-- A cookie whose scope can be written can be set to any value that can be. -/
theorem exists_append {o : Options} (ho : o.IsWritable) {name value : String}
    (hname : ∀ c ∈ name.toList, IsFieldChar c) (hvalue : ∀ c ∈ value.toList, IsFieldChar c)
    (response : Headers) : ∃ written, append response o name value = .ok written := by
  obtain ⟨v, hv, -⟩ :=
    Http.FieldValue.exists_ofText? ((isFieldChar_setCookie_iff hname hvalue).mpr ho)
  exact ⟨response.append setCookieField v, by simp only [append, hv]⟩

/-- What setting a cookie adds to the fields of a response. -/
theorem octets_append {response written : Headers} {o : Options} {name value : String}
    (h : append response o name value = .ok written) (field : String) :
    written.octets field =
      response.octets field ++
        if Text.lower setCookieField = Text.lower field then
          [Octets.ofText (o.setCookie name value)]
        else [] := by
  unfold append at h
  split at h
  · next v hv =>
    obtain rfl := Except.ok.inj h
    simp only [Headers.octets, Headers.values_append, List.map_append]
    split
    · rw [← Http.FieldValue.ofText?_eq_some_iff.mp hv]
      rfl
    · rfl
  · cases h

/-- The pairs that fields set which set cookies. -/
theorem setPairs_of_octets {response : Headers} {o : Options} {cookies : List (String × String)}
    (ho : response.octets setCookieField =
      cookies.map fun cookie => Octets.ofText (o.setCookie cookie.1 cookie.2))
    (hname : ∀ cookie ∈ cookies, IsName cookie.1) :
    setPairs response = cookies.map fun cookie => (cookie.1, keptValue cookie.2) := by
  rw [setPairs, ho]
  clear ho
  induction cookies with
  | nil => rfl
  | cons cookie cookies ih =>
    rw [List.map_cons, List.filterMap_cons, setPair?_setCookie (hname cookie List.mem_cons_self),
      ih fun c hc => hname c (List.mem_cons_of_mem _ hc), List.map_cons]

/-! ## Pairs of a request -/

/-- A pair that can stand in a `Cookie` field: text without separators, the name not after a blank.
-/
structure IsPair (pair : String × String) : Prop where
  name : IsName pair.1
  front : ∀ c ∈ pair.1.toList.head?, Text.isBlank c = false
  nameText : ∀ c ∈ pair.1.toList, IsTextChar c
  value : ';' ∉ pair.2.toList
  valueText : ∀ c ∈ pair.2.toList, IsTextChar c

/-- Visible characters are no blanks. -/
theorem isBlank_of_visible {c : Char} (h : 0x21 ≤ c.toNat ∧ c.toNat ≤ 0x7E) :
    Text.isBlank c = false := by
  simp only [Text.isBlank, Bool.or_eq_false_iff, Bool.and_eq_false_iff, decide_eq_false_iff_not,
    beq_eq_false_iff_ne]
  omega

/-- What a browser keeps of a printable value can stand in a `Cookie` field. -/
theorem isPair_keptValue {name value : String} (hname : IsName name)
    (hvisible : Text.AsciiFrom 0x21 name.toList) (hvalue : Text.AsciiFrom 0x20 value.toList) :
    IsPair (name, keptValue value) where
  name := hname
  front := fun c hc => isBlank_of_visible (hvisible c (List.mem_of_mem_head? hc))
  nameText := by
    intro c hc
    have := hvisible c hc
    exact .inl ⟨by omega, by omega⟩
  value := not_mem_keptValue value
  valueText := by
    intro c hc
    rw [toList_keptValue] at hc
    have := hvalue c (List.takeWhile_subset _ hc)
    exact .inl ⟨this.1, by omega⟩

/-- A value without semicolon is kept whole. -/
theorem keptValue_of_not_mem {value : String} (h : ';' ∉ value.toList) :
    keptValue value = value := by
  have hall : (value.toList ++ []).takeWhile (· ≠ ';') = value.toList ++ [] :=
    List.takeWhile_append_of_pos fun c hc => decide_eq_true (ne_of_mem_of_not_mem hc h)
  rw [List.append_nil] at hall
  rw [keptValue, hall, String.ofList_toList]

/-- No other value is. -/
theorem keptValue_eq_self_iff {value : String} : keptValue value = value ↔ ';' ∉ value.toList :=
  ⟨fun h => h ▸ not_mem_keptValue value, keptValue_of_not_mem⟩

/-- The text of one pair. -/
def pairText (pair : String × String) : String := pair.1 ++ "=" ++ pair.2

/-- The text of a `Cookie` field that holds pairs. -/
def fieldText (pairs : List (String × String)) : String := Text.join "; " (pairs.map pairText)

/-- Whether the `Cookie` fields of a request hold all of some pairs, and otherwise pairs of other
names only. -/
structure Carries (request : Headers) (kept : List (String × String))
    (fields : List (List (String × String))) : Prop where
  sent : request.octets "cookie" = fields.map fun pairs => Octets.ofText (fieldText pairs)
  all : ∀ pair ∈ kept, pair ∈ fields.flatten
  others : ∀ pair ∈ fields.flatten, pair ∈ kept ∨ IsPair pair ∧ pair.1 ∉ kept.map Prod.fst

/-- How a pair is read: blanks at its end do not count. -/
def readPair (pair : String × String) : List Char × List Char :=
  (pair.1.toList, Text.trimEndBy Text.isBlank pair.2.toList)

private theorem pair?_pairText {pair : String × String} (h : IsPair pair) :
    pair? (pairText pair).toList = some (readPair pair) := by
  have hmark : ∀ n v : List Char, n ++ "=".toList ++ v = n ++ '=' :: v := fun n v => by simp
  rw [pair?, pairText, String.toList_append, String.toList_append, hmark,
    Text.trimBy_append_cons h.front (by decide),
    Text.cutAt_append_cons fun hm => (h.name _ hm).1 rfl]
  rfl

/-- A blank before a pair does not count. -/
theorem pair?_cons (cs : List Char) : pair? (' ' :: cs) = pair? cs := by
  rw [pair?, Text.trimBy_cons (by decide), pair?]

private theorem not_mem_pairText {pair : String × String} (h : IsPair pair) :
    ';' ∉ (pairText pair).toList := by
  rw [pairText, String.toList_append, String.toList_append, List.mem_append, List.mem_append]
  rintro ((hm | hm) | hm)
  · exact (h.name _ hm).2 rfl
  · exact absurd hm (by decide)
  · exact h.value hm

private theorem splitOn_fieldText {pair : String × String} {rest : List (String × String)}
    (h : ∀ p ∈ pair :: rest, IsPair p) :
    Text.splitOn ';' (fieldText (pair :: rest)).toList =
      (pairText pair).toList :: rest.map fun p => ' ' :: (pairText p).toList := by
  rw [fieldText, List.map_cons, Text.splitOn_join_cons, List.map_map]
  · rfl
  · rw [← List.map_cons (f := pairText), List.forall_mem_map]
    exact fun p hp => not_mem_pairText (h p hp)

private theorem filterMap_pair? {kept : List (String × String)} (h : ∀ pair ∈ kept, IsPair pair) :
    (kept.map fun pair => ' ' :: (pairText pair).toList).filterMap pair? = kept.map readPair := by
  induction kept with
  | nil => rfl
  | cons pair rest ih =>
    rw [List.map_cons, List.filterMap_cons, pair?_cons, pair?_pairText (h pair List.mem_cons_self),
      ih fun p hp => h p (List.mem_cons_of_mem _ hp), List.map_cons]

/-- The pairs of a field are those that were put in. -/
theorem pairs_fieldText {kept : List (String × String)} (h : ∀ pair ∈ kept, IsPair pair) :
    pairs (fieldText kept) = kept.map readPair := by
  cases kept with
  | nil => rfl
  | cons pair rest =>
    have hrest : ∀ p ∈ rest, IsPair p := fun p hp => h p (List.mem_cons_of_mem _ hp)
    rw [pairs, splitOn_fieldText h, List.filterMap_cons, pair?_pairText (h pair List.mem_cons_self),
      filterMap_pair? hrest, List.map_cons]

/-- A field is text exactly when the names and the values of its pairs are. -/
theorem isTextChar_fieldText_iff {kept : List (String × String)} :
    (∀ c ∈ (fieldText kept).toList, IsTextChar c) ↔
      ∀ pair ∈ kept, (∀ c ∈ pair.1.toList, IsTextChar c) ∧ ∀ c ∈ pair.2.toList, IsTextChar c := by
  have hsep : ∀ c ∈ "; ".toList, IsTextChar c := Http.forall_isTextChar (by decide)
  have hmark : ∀ c ∈ "=".toList, IsTextChar c := Http.forall_isTextChar (by decide)
  rw [fieldText, Text.join, String.toList_ofList, Text.forall_mem_joinWith_iff hsep,
    List.forall_mem_map, List.forall_mem_map]
  refine forall_congr' fun pair => imp_congr_right fun _ => ?_
  rw [pairText, String.toList_append, String.toList_append, List.forall_mem_append,
    List.forall_mem_append, and_iff_left hmark]

private theorem isTextChar_fieldText {kept : List (String × String)}
    (h : ∀ pair ∈ kept, IsPair pair) : ∀ c ∈ (fieldText kept).toList, IsTextChar c :=
  isTextChar_fieldText_iff.mpr fun pair hp => ⟨(h pair hp).nameText, (h pair hp).valueText⟩

variable {request : Headers} {kept : List (String × String)}
  {fields : List (List (String × String))}

/-- The pairs of a request are those that it was sent with. -/
theorem requestPairs_of_carries (h : Carries request kept fields)
    (hkept : ∀ pair ∈ kept, IsPair pair) : requestPairs request = fields.flatten.map readPair := by
  have hpairs : ∀ pairs ∈ fields, ∀ pair ∈ pairs, IsPair pair := by
    intro pairs hp pair hpair
    rcases h.others pair (List.mem_flatten_of_mem hp hpair) with hk | ⟨hother, -⟩
    · exact hkept pair hk
    · exact hother
  have hsent : request.octets "cookie" = (fields.map fieldText).map Octets.ofText := by
    rw [h.sent, List.map_map]
    rfl
  rw [requestPairs, Headers.texts_of_octets hsent, List.flatMap_map, List.map_flatten,
    List.flatMap_def]
  · congr 1
    apply List.map_congr_left
    intro pairs hp
    exact pairs_fieldText (hpairs pairs hp)
  · intro s hs
    obtain ⟨pairs, hp, rfl⟩ := List.mem_map.mp hs
    exact isTextChar_fieldText (hpairs pairs hp)

/-- Whoever sends what was kept, in one field, carries it. -/
theorem carries_single (hkept : ∀ pair ∈ kept, IsPair pair) :
    Carries (.single "cookie" (Http.FieldValue.ofText? (fieldText kept))) kept [kept] where
  sent := by
    have hfield : ∀ c ∈ (fieldText kept).toList, IsFieldChar c := fun c hc =>
      (isTextChar_fieldText hkept c hc).imp (fun h => ⟨h.1, Nat.ne_of_lt h.2⟩) id
    obtain ⟨v, hv, ho⟩ := Http.FieldValue.exists_ofText? hfield
    rw [hv, List.map_singleton, ← ho, Headers.octets, Headers.single, Option.elim_some,
      Headers.values_append, if_pos rfl]
    rfl
  all := by simp
  others := by
    intro pair hp
    exact .inl (by simpa using hp)

/-- A cookie that is carried back is found, if its name is not there with another value. -/
theorem find?_of_carries (h : Carries request kept fields) (hkept : ∀ pair ∈ kept, IsPair pair)
    {name value : String} (hmem : (name, value) ∈ kept)
    (honce : ∀ other, (name, other) ∈ kept → other = value)
    (hvalue : ∀ c ∈ value.toList, Text.isBlank c = false) : find? request name = some value := by
  have hread : readPair (name, value) = (name.toList, value.toList) :=
    congrArg (Prod.mk _) (Text.trimEndBy_of_forall hvalue)
  have hfind : (fields.flatten.map readPair).find? (fun pair => pair.1 = name.toList) =
      some (name.toList, value.toList) := by
    cases hf : (fields.flatten.map readPair).find? (fun pair => pair.1 = name.toList) with
    | none =>
      have hno := List.find?_eq_none.mp hf _ (List.mem_map_of_mem (h.all _ hmem))
      exact absurd (decide_eq_true rfl) hno
    | some found =>
      -- a pair of this name is none of the others, so it is the one that was kept
      obtain ⟨pair, hpair, rfl⟩ := List.mem_map.mp (List.mem_of_find?_eq_some hf)
      have hp := List.find?_some hf
      have hname : pair.1 = name := String.toList_inj.mp (of_decide_eq_true hp)
      rcases h.others pair hpair with hk | ⟨-, hother⟩
      · have hv : pair.2 = value := honce pair.2 (by rwa [← hname])
        rw [← hread, ← hname, ← hv]
      · rw [hname] at hother
        exact absurd (List.mem_map_of_mem hmem) hother
  rw [find?, requestPairs_of_carries h hkept, hfind, Option.map_some, String.ofList_toList]

end Cookie

end SignOn
