import SignOn.Proofs.Json.Members

/-!
# Open records

An open record looks at the members that it knows and passes over the others, whatever they are and
wherever they stand. What that means for a reader is said by `ReadsLeniently`.
-/

namespace SignOn.Json

/-- Whether a member has one of some names. -/
def Member.isNamedIn (names : List String) (member : Member Value) : Bool :=
  (text? member.name).any fun name => name ∈ names

namespace Shape

variable {shape : Shape} {members members' : List (Member Value)}

/-- An open record finds nothing in a member that it does not know. -/
theorem found?_of_unknown (h : shape.closed = false) {member : Member Value} {name : String}
    (hname : text? member.name = some name) (hunknown : name ∉ shape.names) :
    shape.found? member = some [] := by
  have hnone : shape.fields.find? (·.name = name) = none := by
    rw [List.find?_eq_none]
    intro field hf hn
    exact hunknown (of_decide_eq_true hn ▸ List.mem_map_of_mem hf)
  simp only [found?, foundUnder?, Member.label, hname, Option.bind_some, hnone, h,
    Bool.false_eq_true, if_false]

/-- What a record finds in a member with the name of a field. -/
theorem found?_of_field (hd : shape.names.Nodup) {member : Member Value} {field : Field}
    (hf : field ∈ shape.fields) (hname : text? member.name = some field.name) :
    shape.found? member =
      (field.take? member.item.value).map fun value => [(field.name, value)] := by
  have hfield := (find?_name_eq_some_iff hd).mpr ⟨hf, rfl⟩
  simp only [found?, foundUnder?, Member.label, hname, Option.bind_some, hfield]

/-- What a record finds in a member is under the member's name. -/
theorem name_of_mem_found? {member : Member Value} {entry : String × Option String}
    (h : entry ∈ (shape.found? member).getD []) :
    text? member.name = some entry.1 ∧ entry.1 ∈ shape.names := by
  rw [found?, foundUnder?, Member.label] at h
  cases hn : text? member.name with
  | none => simp [hn] at h
  | some name =>
    rw [hn, Option.bind_some] at h
    cases hf : shape.fields.find? (·.name = name) with
    | none =>
      simp only [hf] at h
      split at h
      · cases h
      · cases h
    | some field =>
      have hm := List.mem_of_find?_eq_some hf
      have hname : field.name = name := by simpa using List.find?_some hf
      simp only [hf] at h
      cases ht : field.take? member.item.value with
      | none => simp [ht] at h
      | some value =>
        rw [ht, Option.map_some, Option.getD_some, List.mem_singleton] at h
        exact ⟨by rw [h], by rw [h, ← hname]; exact List.mem_map_of_mem hm⟩

theorem contents_append (members members' : List (Member Value)) :
    shape.contents (members ++ members') = shape.contents members ++ shape.contents members' :=
  List.flatMap_append

/-- A record finds its fields in the members that it knows. -/
theorem contents_filter (shape : Shape) (members : List (Member Value)) :
    shape.contents (members.filter (·.isNamedIn shape.names)) = shape.contents members := by
  induction members with
  | nil => rfl
  | cons member members ih =>
    rw [List.filter_cons]
    split
    · rw [contents, List.flatMap_cons, ← contents, ih]
      rfl
    · next hm =>
      have hnone : (shape.found? member).getD [] = [] := by
        refine List.eq_nil_iff_forall_not_mem.mpr fun entry he => hm ?_
        obtain ⟨hname, hmem⟩ := name_of_mem_found? he
        rw [Member.isNamedIn, hname]
        simpa using hmem
      rw [ih, contents, contents, List.flatMap_cons, hnone, List.nil_append]

/-- Where no field comes twice, a text stands under its name. -/
theorem text?_eq_some_iff {found : Members} (h : (found.map Prod.fst).Nodup) {name text : String} :
    found.text? name = some text ↔ (name, some text) ∈ found := by
  rw [Members.text?, Option.join_eq_some_iff, lookup_eq_some_iff_mem h]

/-- A field is not found where no member has its name. -/
theorem not_mem_contents {name : String}
    (h : ∀ member ∈ members, text? member.name ≠ some name) :
    name ∉ (shape.contents members).map Prod.fst := by
  intro hn
  obtain ⟨entry, he, rfl⟩ := List.mem_map.mp hn
  obtain ⟨member, hm, hfound⟩ := List.mem_flatMap.mp he
  exact h member hm (name_of_mem_found? hfound).1

/-- An open record takes the members that it knows in any order, with others among them. -/
theorem Accepts.of_perm (hopen : shape.closed = false) (h : shape.Accepts members)
    (hnames : ∀ member ∈ members', (text? member.name).isSome = true)
    (hp : ((members.filter (·.isNamedIn shape.names)).map Member.label).Perm
      ((members'.filter (·.isNamedIn shape.names)).map Member.label)) :
    shape.Accepts members' ∧ (shape.contents members).Perm (shape.contents members') := by
  have hcontents : (shape.contents members).Perm (shape.contents members') := by
    have hfound := hp.flatMap_right fun label => (shape.foundUnder? label).getD []
    rw [List.flatMap_map, List.flatMap_map] at hfound
    rw [← contents_filter shape members, ← contents_filter shape members']
    exact hfound
  refine ⟨⟨fun member hm => ?_, ?_, ?_⟩, hcontents⟩
  · obtain ⟨name, hname⟩ := Option.isSome_iff_exists.mp (hnames member hm)
    by_cases hknown : name ∈ shape.names
    · have hnamed : member.isNamedIn shape.names = true := by
        rw [Member.isNamedIn, hname]
        simpa using hknown
      have hlabel := hp.mem_iff.mpr
        (List.mem_map_of_mem (List.mem_filter.mpr ⟨hm, hnamed⟩))
      obtain ⟨earlier, he, hsame⟩ := List.mem_map.mp hlabel
      have hfound := h.readable earlier (List.mem_filter.mp he).1
      rw [found?, hsame] at hfound
      exact hfound
    · rw [found?_of_unknown hopen hname hknown]
      rfl
  · exact (hcontents.map Prod.fst).nodup_iff.mp h.distinct
  · have hcovered := isCovered_iff.mp h.covered
    exact isCovered_iff.mpr fun field hf ho =>
      (hcontents.map Prod.fst).mem_iff.mp (hcovered field hf ho)

/-- An open record takes a null for a field that was missing. -/
theorem Accepts.insert_null {before after : List (Member Value)} {member : Member Value}
    {field : Field} (hd : shape.names.Nodup) (h : shape.Accepts (before ++ after))
    (hf : field ∈ shape.fields) (hnullable : field.nullable = true)
    (hname : text? member.name = some field.name) (hnull : member.item.value = .null)
    (habsent : ∀ other ∈ before ++ after, text? other.name ≠ some field.name) :
    shape.Accepts (before ++ member :: after) ∧
      shape.contents (before ++ member :: after) =
        shape.contents before ++ (field.name, none) :: shape.contents after := by
  have hfound : shape.found? member = some [(field.name, none)] := by
    rw [found?_of_field hd hf hname, hnull, Field.take?, if_pos hnullable]
    rfl
  have hcontents : shape.contents (before ++ member :: after) =
      shape.contents before ++ (field.name, none) :: shape.contents after := by
    rw [contents_append, contents_cons hfound]
    rfl
  have hdistinct := h.distinct
  have hcovered := isCovered_iff.mp h.covered
  have hnot : field.name ∉ (shape.contents (before ++ after)).map Prod.fst :=
    not_mem_contents habsent
  rw [contents_append, List.map_append] at hdistinct hcovered hnot
  refine ⟨⟨fun other hm => ?_, ?_, ?_⟩, hcontents⟩
  · rcases List.mem_append.mp hm with hb | ha
    · exact h.readable other (List.mem_append_left after hb)
    rcases List.mem_cons.mp ha with rfl | ha
    · rw [hfound]
      rfl
    · exact h.readable other (List.mem_append_right before ha)
  · rw [hcontents, List.map_append, List.map_cons, List.nodup_middle]
    exact List.nodup_cons.mpr ⟨hnot, hdistinct⟩
  · rw [hcontents, isCovered_iff]
    intro field hf ho
    rw [List.map_append, List.map_cons]
    exact List.mem_append.mpr ((List.mem_append.mp (hcovered field hf ho)).imp_right
      (List.mem_cons_of_mem _))

/-- A record takes no members among which a field is missing that is not optional. -/
theorem not_accepts_of_missing {field : Field} (hf : field ∈ shape.fields)
    (ho : field.optional = false)
    (hm : ∀ member ∈ members, text? member.name ≠ some field.name) : ¬ shape.Accepts members :=
  fun h => not_mem_contents hm (isCovered_iff.mp h.covered field hf ho)

/-- A record takes no members of which one has a value that its field does not take. -/
theorem not_accepts_of_mistyped (hd : shape.names.Nodup) {member : Member Value} {field : Field}
    (hm : member ∈ members) (hf : field ∈ shape.fields)
    (hname : text? member.name = some field.name) (ht : field.take? member.item.value = none) :
    ¬ shape.Accepts members := by
  intro h
  have hread := h.readable member hm
  rw [found?_of_field hd hf hname, ht] at hread
  cases hread

/-- A record takes no members of which two have the name of a field. -/
theorem not_accepts_of_repeated (hd : shape.names.Nodup) {l₁ l₂ l₃ : List (Member Value)}
    {first second : Member Value} {field : Field} (hf : field ∈ shape.fields)
    (hfirst : text? first.name = some field.name) (hsecond : text? second.name = some field.name) :
    ¬ shape.Accepts (l₁ ++ first :: (l₂ ++ second :: l₃)) := by
  intro h
  have hmem : ∀ member, text? member.name = some field.name →
      member ∈ l₁ ++ first :: (l₂ ++ second :: l₃) →
        ∃ value, shape.found? member = some [(field.name, value)] := by
    intro member hname hm
    have hread := h.readable member hm
    rw [found?_of_field hd hf hname] at hread ⊢
    obtain ⟨value, hvalue⟩ := Option.isSome_iff_exists.mp (Option.isSome_map.symm.trans hread)
    exact ⟨value, by rw [hvalue]; rfl⟩
  obtain ⟨v₁, h₁⟩ := hmem first hfirst (by simp)
  obtain ⟨v₂, h₂⟩ := hmem second hsecond (by simp)
  have hdistinct := h.distinct
  rw [contents_append, contents_cons h₁, contents_append, contents_cons h₂, List.map_append,
    List.nodup_append] at hdistinct
  exact (List.nodup_cons.mp hdistinct.2.1).1 (by simp)

end Shape

/-- The names of the fields that may not be missing. -/
def Shape.required (shape : Shape) : List String :=
  (shape.fields.filter (!·.optional)).map Field.name

/-- The names of the fields that may be missing and hold a text otherwise. -/
def Shape.defaulted (shape : Shape) : List String :=
  (shape.fields.filter fun field => field.optional && !field.nullable).map Field.name

/-- The names of the fields that may be missing or `null`. -/
def Shape.absentable (shape : Shape) : List String :=
  (shape.fields.filter fun field => field.optional && field.nullable).map Field.name

/-- How an open record is written and read, given the names of its fields: those that may not be
missing, those that are empty then and those that may be missing or `null`. What is written is read
back. Members with other names may be put in, taken out and moved, and a field that is missing may
be `null` instead. A field is refused if it is missing but required, comes twice or has a value of
another type; and so is a member whose name is no text. -/
structure ReadsLeniently {α : Type} (required defaulted absentable : List String)
    (json : α → String) (ofJson : Octets → Except Fault α) : Prop where
  lossless : ∀ a, ofJson (Octets.ofText (json a)) = .ok a
  rearranged : ∀ (d d' : Document) (inner inner' : List Blank)
      (members members' : List (Member Value)) (a : α),
    d.value = .object inner members → d'.value = .object inner' members' →
      ofJson d.octets = .ok a → (∀ member ∈ members', (text? member.name).isSome = true) →
        ((members.filter (·.isNamedIn (required ++ defaulted ++ absentable))).map Member.label).Perm
          ((members'.filter (·.isNamedIn (required ++ defaulted ++ absentable))).map
            Member.label) → ofJson d'.octets = .ok a
  nulled : ∀ (d d' : Document) (inner inner' : List Blank) (before after : List (Member Value))
      (member : Member Value) (name : String) (a : α),
    d.value = .object inner (before ++ after) →
      d'.value = .object inner' (before ++ member :: after) → ofJson d.octets = .ok a →
        name ∈ absentable → text? member.name = some name → member.item.value = .null →
          (∀ other ∈ before ++ after, text? other.name ≠ some name) → ofJson d'.octets = .ok a
  missing : ∀ (d : Document) (inner : List Blank) (members : List (Member Value)) (name : String),
    d.value = .object inner members → name ∈ required →
      (∀ member ∈ members, text? member.name ≠ some name) → ∃ fault, ofJson d.octets = .error fault
  repeated : ∀ (d : Document) (inner : List Blank) (l₁ l₂ l₃ : List (Member Value))
      (first second : Member Value) (name : String),
    d.value = .object inner (l₁ ++ first :: (l₂ ++ second :: l₃)) →
      name ∈ required ++ defaulted ++ absentable → text? first.name = some name →
        text? second.name = some name → ∃ fault, ofJson d.octets = .error fault
  mistyped : ∀ (d : Document) (inner : List Blank) (members : List (Member Value))
      (member : Member Value) (name : String),
    d.value = .object inner members → member ∈ members → text? member.name = some name →
      name ∈ required ++ defaulted ++ absentable →
        (∀ glyphs, member.item.value ≠ .string glyphs) → member.item.value ≠ .null →
          ∃ fault, ofJson d.octets = .error fault
  notNull : ∀ (d : Document) (inner : List Blank) (members : List (Member Value))
      (member : Member Value) (name : String),
    d.value = .object inner members → member ∈ members → text? member.name = some name →
      name ∈ required ++ defaulted → member.item.value = .null →
        ∃ fault, ofJson d.octets = .error fault
  nameless : ∀ (d : Document) (inner : List Blank) (members : List (Member Value))
      (member : Member Value),
    d.value = .object inner members → member ∈ members → text? member.name = none →
      ∃ fault, ofJson d.octets = .error fault

section

variable {shape : Shape}

private theorem mem_names_iff {name : String} :
    name ∈ shape.required ++ shape.defaulted ++ shape.absentable ↔ name ∈ shape.names := by
  simp only [Shape.required, Shape.defaulted, Shape.absentable, Shape.names, List.mem_append,
    List.mem_map, List.mem_filter]
  constructor
  · rintro ((⟨field, ⟨hf, -⟩, hn⟩ | ⟨field, ⟨hf, -⟩, hn⟩) | ⟨field, ⟨hf, -⟩, hn⟩)
    · exact ⟨field, hf, hn⟩
    · exact ⟨field, hf, hn⟩
    · exact ⟨field, hf, hn⟩
  · rintro ⟨field, hf, hn⟩
    cases ho : field.optional with
    | false => exact .inl (.inl ⟨field, ⟨hf, by simp [ho]⟩, hn⟩)
    | true =>
      cases hnull : field.nullable with
      | false => exact .inl (.inr ⟨field, ⟨hf, by simp [ho, hnull]⟩, hn⟩)
      | true => exact .inr ⟨field, ⟨hf, by simp [ho, hnull]⟩, hn⟩

variable {α : Type} {build : Members → α} {d : Document} {inner : List Blank}
  {members : List (Member Value)}

/-- What is made of an object that a record is read off. -/
theorem map_read_eq_ok_iff {a : α} (hv : d.value = .object inner members) :
    (shape.read d.octets).map build = .ok a ↔
      shape.Accepts members ∧ build (shape.contents members) = a := by
  cases hs : shape.read d.octets with
  | error fault =>
    have hnot : ¬ shape.Accepts members := by
      intro ha
      cases hs.symm.trans ((Shape.read_object_eq_ok_iff hv).mpr ⟨ha, rfl⟩)
    simp [Except.map, hnot]
  | ok found =>
    obtain ⟨ha, rfl⟩ := (Shape.read_object_eq_ok_iff hv).mp hs
    simp [Except.map, ha]

private theorem exists_error_of_not_accepts (hv : d.value = .object inner members)
    (h : ¬ shape.Accepts members) : ∃ fault, (shape.read d.octets).map build = .error fault := by
  cases hs : (shape.read d.octets).map build with
  | error fault => exact ⟨fault, rfl⟩
  | ok a => exact absurd ((map_read_eq_ok_iff hv).mp hs).1 h

/-- An open record is read leniently, whatever is made of the texts of its fields. -/
theorem Shape.readsLeniently {json : α → String} (hopen : shape.closed = false)
    (hd : shape.names.Nodup)
    (hkinds : ∀ field ∈ shape.fields, field.nullable = true → field.optional = true)
    (hbuild : ∀ found found' : Members, (∀ name, found.text? name = found'.text? name) →
      build found = build found')
    (hlossless : ∀ a, (shape.read (Octets.ofText (json a))).map build = .ok a) :
    ReadsLeniently shape.required shape.defaulted shape.absentable json
      fun bs => (shape.read bs).map build where
  lossless := hlossless
  rearranged := by
    intro d d' inner inner' members members' a hv hv' hr hnames hp
    have hnamed : ∀ member : Member Value,
        member.isNamedIn (shape.required ++ shape.defaulted ++ shape.absentable) =
          member.isNamedIn shape.names := by
      intro member
      simp only [Member.isNamedIn, mem_names_iff]
    simp only [hnamed] at hp
    obtain ⟨ha, rfl⟩ := (map_read_eq_ok_iff hv).mp hr
    obtain ⟨ha', hsame⟩ := ha.of_perm hopen hnames hp
    refine (map_read_eq_ok_iff hv').mpr ⟨ha', hbuild _ _ fun name => ?_⟩
    rw [Members.text?, Members.text?, lookup_eq_of_perm ha.distinct hsame]
  nulled := by
    intro d d' inner inner' before after member name a hv hv' hr hn hname hnull habsent
    obtain ⟨field, hf, rfl⟩ := List.mem_map.mp hn
    obtain ⟨hf, hk⟩ := List.mem_filter.mp hf
    have hnullable : field.nullable = true := (Bool.and_eq_true_iff.mp hk).2
    obtain ⟨ha, rfl⟩ := (map_read_eq_ok_iff hv).mp hr
    obtain ⟨ha', hcontents⟩ := ha.insert_null hd hf hnullable hname hnull habsent
    refine (map_read_eq_ok_iff hv').mpr ⟨ha', hbuild _ _ fun name => Option.ext fun text => ?_⟩
    rw [Shape.text?_eq_some_iff ha'.distinct, Shape.text?_eq_some_iff ha.distinct, hcontents,
      Shape.contents_append]
    simp
  missing := by
    intro d inner members name hv hn habsent
    obtain ⟨field, hf, rfl⟩ := List.mem_map.mp hn
    obtain ⟨hf, hk⟩ := List.mem_filter.mp hf
    have ho : field.optional = false := by simpa using hk
    exact exists_error_of_not_accepts hv (Shape.not_accepts_of_missing hf ho habsent)
  repeated := by
    intro d inner l₁ l₂ l₃ first second name hv hn hfirst hsecond
    obtain ⟨field, hf, rfl⟩ := List.mem_map.mp (mem_names_iff.mp hn)
    exact exists_error_of_not_accepts hv (Shape.not_accepts_of_repeated hd hf hfirst hsecond)
  mistyped := by
    intro d inner members member name hv hm hname hn hstring hnull
    obtain ⟨field, hf, rfl⟩ := List.mem_map.mp (mem_names_iff.mp hn)
    refine exists_error_of_not_accepts hv (Shape.not_accepts_of_mistyped hd hm hf hname ?_)
    cases hvalue : member.item.value with
    | null => exact absurd hvalue hnull
    | string glyphs => exact absurd hvalue (hstring glyphs)
    | _ => rfl
  notNull := by
    intro d inner members member name hv hm hname hn hnull
    have hplain : ∃ field ∈ shape.fields, field.name = name ∧ field.nullable = false := by
      rcases List.mem_append.mp hn with hn | hn
      · obtain ⟨field, hf, rfl⟩ := List.mem_map.mp hn
        obtain ⟨hf, hk⟩ := List.mem_filter.mp hf
        have ho : field.optional = false := by simpa using hk
        refine ⟨field, hf, rfl, Bool.eq_false_iff.mpr fun hnullable => ?_⟩
        exact Bool.false_ne_true (ho.symm.trans (hkinds field hf hnullable))
      · obtain ⟨field, hf, rfl⟩ := List.mem_map.mp hn
        obtain ⟨hf, hk⟩ := List.mem_filter.mp hf
        exact ⟨field, hf, rfl, by simpa using (Bool.and_eq_true_iff.mp hk).2⟩
    obtain ⟨field, hf, rfl, hplain⟩ := hplain
    refine exists_error_of_not_accepts hv (Shape.not_accepts_of_mistyped hd hm hf hname ?_)
    rw [hnull, Field.take?, hplain]
    rfl
  nameless := by
    intro d inner members member hv hm hname
    refine exists_error_of_not_accepts hv fun h => ?_
    have hreadable := h.readable member hm
    simp [Shape.found?, Shape.foundUnder?, Member.label, hname] at hreadable

end

end SignOn.Json
