import SignOn.Proofs.Json.Leniency

/-!
# Plain records

The fields of a plain record hold texts, whatever these are, and no `null`. An open record of this
kind is read off an object in which no two members have the name of a field
(`Shape.IsPlain.accepts_iff`), and finds what the members tell under that name
(`Shape.IsPlain.text?_contents`).
-/

namespace SignOn.Json

/-- The values of the members with a name. -/
def valuesNamed (name : String) (members : List (Member Value)) : List Value :=
  (members.filter fun member => text? member.name = some name).map fun member => member.item.value

/-- What members tell under a name: nothing if none has it, and the text of the one that has it. -/
inductive Tells (name : String) (members : List (Member Value)) : Option String → Prop
  | nothing (h : valuesNamed name members = []) : Tells name members none
  | once {value : Value} {text : String} (h : valuesNamed name members = [value])
      (htext : value.text? = some text) : Tells name members (some text)

/-- Fields with different names that hold texts, whatever they are, and not `null`. -/
structure Shape.IsPlain (shape : Shape) : Prop where
  distinct : shape.names.Nodup
  text : ∀ field ∈ shape.fields, field.nullable = false ∧ ∀ text, field.accepts text = true

namespace Shape

variable {shape : Shape} {members : List (Member Value)} {field : Field}

/-- A plain field takes the values that are strings, as their texts. -/
theorem IsPlain.take?_eq (h : shape.IsPlain) (hf : field ∈ shape.fields) (v : Value) :
    field.take? v = v.text?.map some := by
  obtain ⟨hnull, haccepts⟩ := h.text field hf
  ext value
  rw [take?_eq_some_iff hnull, Option.map_eq_some_iff]
  exact exists_congr fun text => by simp [haccepts, eq_comm]

/-- What a record finds under the name of a plain field. -/
theorem IsPlain.filter_contents (h : shape.IsPlain) (hf : field ∈ shape.fields)
    (members : List (Member Value)) :
    (shape.contents members).filter (·.1 = field.name) =
      ((valuesNamed field.name members).filterMap Value.text?).map
        fun text => (field.name, some text) := by
  induction members with
  | nil => rfl
  | cons member members ih =>
    rw [contents, List.flatMap_cons, List.filter_append, ← contents, ih, valuesNamed, valuesNamed,
      List.filter_cons]
    by_cases hname : text? member.name = some field.name
    · rw [if_pos (decide_eq_true hname), found?_of_field h.distinct hf hname, h.take?_eq hf,
        List.map_cons, List.filterMap_cons]
      cases member.item.value.text? with
      | none => rfl
      | some text => simp
    · have hnone : ((shape.found? member).getD []).filter (·.1 = field.name) = [] := by
        refine List.filter_eq_nil_iff.mpr fun entry he hentry => hname ?_
        rw [(name_of_mem_found? he).1, of_decide_eq_true hentry]
      rw [if_neg (by simpa using hname), hnone, List.nil_append]

/-- A record that takes members finds one text at most under the name of a plain field. -/
theorem IsPlain.tells_of_accepts (h : shape.IsPlain) (ha : shape.Accepts members)
    (hf : field ∈ shape.fields) :
    ∃ told, Tells field.name members told ∧ (field.optional = false → told.isSome = true) := by
  cases hvalues : valuesNamed field.name members with
  | nil =>
    refine ⟨none, .nothing hvalues, fun ho => ?_⟩
    obtain ⟨entry, he, hname⟩ := List.mem_map.mp (isCovered_iff.mp ha.covered field hf ho)
    have hfound : entry ∈ (shape.contents members).filter (·.1 = field.name) :=
      List.mem_filter.mpr ⟨he, decide_eq_true hname⟩
    rw [h.filter_contents hf, hvalues] at hfound
    cases hfound
  | cons value values =>
    obtain ⟨first, more, hnamed, rfl, hmore⟩ := List.map_eq_cons_iff.mp hvalues
    obtain ⟨l₁, rest, rfl, -, hfirst, hrest⟩ := List.filter_eq_cons_iff.mp hnamed
    cases values with
    | nil =>
      have hread := ha.readable first (by simp)
      rw [found?_of_field h.distinct hf (of_decide_eq_true hfirst), h.take?_eq hf,
        Option.isSome_map, Option.isSome_map] at hread
      obtain ⟨text, htext⟩ := Option.isSome_iff_exists.mp hread
      exact ⟨some text, .once hvalues htext, fun _ => rfl⟩
    | cons value values =>
      obtain ⟨second, more, rfl, rfl, -⟩ := List.map_eq_cons_iff.mp hmore
      obtain ⟨l₂, l₃, rfl, -, hsecond, -⟩ := List.filter_eq_cons_iff.mp hrest
      exact absurd ha (not_accepts_of_repeated h.distinct hf (of_decide_eq_true hfirst)
        (of_decide_eq_true hsecond))

/-- What members tell under the name of a plain field is what a record finds. -/
theorem IsPlain.text?_contents (h : shape.IsPlain) (ha : shape.Accepts members)
    (hf : field ∈ shape.fields) {told : Option String} (ht : Tells field.name members told) :
    (shape.contents members).text? field.name = told := by
  have hmem : ∀ text, (field.name, some text) ∈ shape.contents members ↔
      text ∈ (valuesNamed field.name members).filterMap Value.text? := by
    intro text
    have hfilter := congrArg ((field.name, some text) ∈ ·) (h.filter_contents hf members)
    simpa using hfilter
  ext text
  rw [text?_eq_some_iff ha.distinct, hmem]
  cases ht with
  | nothing hvalues => simp [hvalues]
  | once hvalues htext => simp [hvalues, htext, eq_comm]

/-- Under the name of a plain field a record finds one text at most if members tell one at most. -/
private theorem IsPlain.length_filter_contents_le (h : shape.IsPlain) (hf : field ∈ shape.fields)
    {told : Option String} (ht : Tells field.name members told) :
    ((shape.contents members).filter (·.1 = field.name)).length ≤ 1 := by
  rw [h.filter_contents hf, List.length_map]
  cases ht with
  | nothing hvalues => simp [hvalues]
  | once hvalues htext => simp [hvalues, htext]

/-- Where members tell something under the name of a plain field, a record finds it. -/
private theorem IsPlain.name_mem_contents (h : shape.IsPlain) (hf : field ∈ shape.fields)
    {text : String} (ht : Tells field.name members (some text)) :
    field.name ∈ (shape.contents members).map Prod.fst := by
  cases ht with
  | once hvalues htext =>
    have hfound : (field.name, some text) ∈
        (shape.contents members).filter (·.1 = field.name) := by
      rw [h.filter_contents hf, hvalues]
      simp [htext]
    exact List.mem_map.mpr ⟨_, (List.mem_filter.mp hfound).1, rfl⟩

/-- A member with the name of a plain field is read if members tell one text at most there. -/
private theorem IsPlain.isSome_found? (h : shape.IsPlain) (hf : field ∈ shape.fields)
    {told : Option String} (ht : Tells field.name members told) {member : Member Value}
    (hm : member ∈ members) (hname : text? member.name = some field.name) :
    (shape.found? member).isSome = true := by
  have hvalue : member.item.value ∈ valuesNamed field.name members :=
    List.mem_map_of_mem (List.mem_filter.mpr ⟨hm, decide_eq_true hname⟩)
  rw [found?_of_field h.distinct hf hname, h.take?_eq hf]
  cases ht with
  | nothing hvalues =>
    rw [hvalues] at hvalue
    cases hvalue
  | once hvalues htext =>
    rw [hvalues, List.mem_singleton] at hvalue
    rw [hvalue, htext]
    rfl

/-- A record finds each name once at most if it does so for the names of its fields. -/
private theorem nodup_contents
    (h : ∀ field ∈ shape.fields,
      ((shape.contents members).filter (·.1 = field.name)).length ≤ 1) :
    ((shape.contents members).map Prod.fst).Nodup := by
  refine List.nodup_iff_count_le_one.mpr fun name => ?_
  by_cases hfound : name ∈ (shape.contents members).map Prod.fst
  · obtain ⟨entry, he, rfl⟩ := List.mem_map.mp hfound
    obtain ⟨member, -, hentry⟩ := List.mem_flatMap.mp he
    obtain ⟨field, hf, hname⟩ := List.mem_map.mp (name_of_mem_found? hentry).2
    rw [← hname, List.count, List.countP_map, List.countP_eq_length_filter]
    exact h field hf
  · rw [List.count_eq_zero_of_not_mem hfound]
    exact Nat.zero_le 1

/-- An open record of plain fields takes members whose names are texts and that tell one text at
most under the name of each field, and one for each that may not be missing. -/
theorem IsPlain.accepts_iff (h : shape.IsPlain) (hopen : shape.closed = false) :
    shape.Accepts members ↔ (∀ member ∈ members, (text? member.name).isSome = true) ∧
      ∀ field ∈ shape.fields, ∃ told, Tells field.name members told ∧
        (field.optional = false → told.isSome = true) := by
  constructor
  · intro ha
    refine ⟨fun member hm => ?_, fun field hf => h.tells_of_accepts ha hf⟩
    have hread := ha.readable member hm
    rw [found?, foundUnder?, Member.label] at hread
    cases hname : text? member.name with
    | none => simp [hname] at hread
    | some name => rfl
  · rintro ⟨hnames, htold⟩
    refine ⟨fun member hm => ?_, nodup_contents fun field hf => ?_,
      isCovered_iff.mpr fun field hf ho => ?_⟩
    · obtain ⟨name, hname⟩ := Option.isSome_iff_exists.mp (hnames member hm)
      by_cases hknown : name ∈ shape.names
      · obtain ⟨field, hf, rfl⟩ := List.mem_map.mp hknown
        obtain ⟨told, ht, -⟩ := htold field hf
        exact h.isSome_found? hf ht hm hname
      · rw [found?_of_unknown hopen hname hknown]
        rfl
    · obtain ⟨told, ht, -⟩ := htold field hf
      exact h.length_filter_contents_le hf ht
    · obtain ⟨told, ht, hsome⟩ := htold field hf
      obtain ⟨text, rfl⟩ := Option.isSome_iff_exists.mp (hsome ho)
      exact h.name_mem_contents hf ht

end Shape

end SignOn.Json
