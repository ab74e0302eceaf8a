import Mathlib.Data.List.Nodup
import SignOn.Proofs.Json.Reading

/-!
# Strict records

A strict record has texts that may not be missing and refuses what it does not know. It is read off
an object if the members are its fields, each once in any order, and off an array if there is one
text for each field (`Shape.IsStrict.read_eq_ok_iff`).
-/

namespace SignOn.Json

/-! ## Names without repetition -/

section

variable {κ α : Type} [BEq κ] [LawfulBEq κ] {entries entries' : List (κ × α)}

/-- Where no name comes twice, a name stands for what comes with it. -/
theorem lookup_eq_some_iff_mem (h : (entries.map Prod.fst).Nodup) {name : κ} {value : α} :
    entries.lookup name = some value ↔ (name, value) ∈ entries := by
  constructor
  · intro hl
    obtain ⟨before, after, rfl, -⟩ := List.lookup_eq_some_iff.mp hl
    exact List.mem_append_right before List.mem_cons_self
  · intro hm
    induction entries with
    | nil => cases hm
    | cons entry entries ih =>
      obtain ⟨hnew, hrest⟩ := List.nodup_cons.mp h
      rcases List.mem_cons.mp hm with rfl | hm
      · exact List.lookup_cons_self
      · have hname : (name == entry.1) = false := by
          rw [beq_eq_false_iff_ne]
          rintro rfl
          exact hnew (List.mem_map.mpr ⟨_, hm, rfl⟩)
        rw [List.lookup_cons, hname]
        exact ih hrest hm

/-- Where no name comes twice, the order does not matter. -/
theorem lookup_eq_of_perm (h : (entries.map Prod.fst).Nodup) (hp : entries.Perm entries')
    (name : κ) : entries.lookup name = entries'.lookup name := by
  have h' : (entries'.map Prod.fst).Nodup := (hp.map Prod.fst).nodup_iff.mp h
  ext value
  rw [lookup_eq_some_iff_mem h, lookup_eq_some_iff_mem h', hp.mem_iff]

end

/-! ## Strict records -/

/-- The text of a value that is a string. -/
def Value.text? : Value → Option String
  | .string glyphs => Json.text? glyphs
  | _ => none

/-- The name and the text of a member whose value is a string. -/
def Member.entry? (member : Member Value) : Option (String × String) :=
  (text? member.name).bind fun name => member.item.value.text?.map (name, ·)

/-- The names of the fields. -/
def Shape.names (shape : Shape) : List String := shape.fields.map Field.name

/-- Named texts that a value lists: an object by its members, and an array by position. -/
inductive Value.Lists (names : List String) : Value → List (String × String) → Prop
  | object {inner : List Blank} {members : List (Member Value)} {entries : List (String × String)}
      (h : members.map Member.entry? = entries.map some) :
      Lists names (.object inner members) entries
  | array {inner : List Blank} {items : List (Item Value)} {texts : List String}
      (h : items.map (fun item => item.value.text?) = texts.map some)
      (hlength : texts.length = names.length) :
      Lists names (.array inner items) (names.zip texts)

/-- The fields of a strict record have different names and hold texts that may neither be missing
nor `null`, and there is no other member. -/
structure Shape.IsStrict (shape : Shape) : Prop where
  closed : shape.closed = true
  distinct : shape.names.Nodup
  plain : ∀ field ∈ shape.fields, field.nullable = false ∧ field.optional = false

namespace Shape

variable {shape : Shape}

/-- Whether a record takes a text under a name. -/
def TakesText (shape : Shape) (entry : String × String) : Prop :=
  ∃ field ∈ shape.fields, field.name = entry.1 ∧ field.accepts entry.2 = true

/-- Where field names are different, the field of a name says what is taken. -/
theorem takesText_iff (h : shape.names.Nodup) {field : Field} (hf : field ∈ shape.fields)
    {text : String} : shape.TakesText (field.name, text) ↔ field.accepts text = true := by
  constructor
  · rintro ⟨other, ho, hname, ha⟩
    have hfield := (find?_name_eq_some_iff h).mpr ⟨hf, rfl⟩
    have hother := (find?_name_eq_some_iff h).mpr ⟨ho, hname⟩
    obtain rfl := Option.some.inj (hfield.symm.trans hother)
    exact ha
  · exact fun ha => ⟨field, hf, rfl, ha⟩

theorem take?_eq_some_iff {field : Field} (h : field.nullable = false) {v : Value}
    {value : Option String} : field.take? v = some value ↔
      ∃ text, v.text? = some text ∧ field.accepts text = true ∧ value = some text := by
  cases v with
  | string glyphs =>
    rw [Field.take?, Value.text?, Option.map_eq_some_iff]
    constructor
    · rintro ⟨text, hf, rfl⟩
      obtain ⟨ht, ha⟩ := Option.filter_eq_some_iff.mp hf
      exact ⟨text, ht, ha, rfl⟩
    · rintro ⟨text, ht, ha, rfl⟩
      exact ⟨text, Option.filter_eq_some_iff.mpr ⟨ht, ha⟩, rfl⟩
  | null => simp [Field.take?, Value.text?, h]
  | boolean b => simp [Field.take?, Value.text?]
  | number n => simp [Field.take?, Value.text?]
  | array inner items => simp [Field.take?, Value.text?]
  | object inner members => simp [Field.take?, Value.text?]

/-- What a strict record reads off a member. -/
theorem IsStrict.found?_eq_some_iff (h : shape.IsStrict) {member : Member Value} {found : Members} :
    shape.found? member = some found ↔ ∃ entry, member.entry? = some entry ∧
      shape.TakesText entry ∧ found = [(entry.1, some entry.2)] := by
  rw [found?, foundUnder?, Member.label, Member.entry?]
  cases Json.text? member.name with
  | none => simp
  | some name =>
    rw [Option.bind_some, Option.bind_some]
    cases hf : shape.fields.find? (·.name = name) with
    | none =>
      simp only [h.closed, if_true, reduceCtorEq, false_iff, Option.map_eq_some_iff]
      rintro ⟨entry, ⟨text, -, rfl⟩, ⟨field, hm, hname, -⟩, -⟩
      have hnot := List.find?_eq_none.mp hf field hm
      exact hnot (decide_eq_true hname)
    | some field =>
      obtain ⟨hm, rfl⟩ := (find?_name_eq_some_iff h.distinct).mp hf
      simp only [Option.map_eq_some_iff, take?_eq_some_iff (h.plain field hm).1]
      constructor
      · rintro ⟨value, ⟨text, ht, ha, rfl⟩, rfl⟩
        exact ⟨_, ⟨text, ht, rfl⟩, (takesText_iff h.distinct hm).mpr ha, rfl⟩
      · rintro ⟨entry, ⟨text, ht, rfl⟩, htakes, rfl⟩
        exact ⟨_, ⟨text, ht, (takesText_iff h.distinct hm).mp htakes, rfl⟩, rfl⟩

/-- The members that a strict record can read, each on its own. -/
private theorem IsStrict.readable_iff (h : shape.IsStrict) {members : List (Member Value)} :
    (∀ member ∈ members, (shape.found? member).isSome = true) ↔
      ∃ entries : List (String × String), members.map Member.entry? = entries.map some ∧
        ∀ entry ∈ entries, shape.TakesText entry := by
  induction members with
  | nil => exact ⟨fun _ => ⟨[], rfl, by simp⟩, by simp⟩
  | cons member members ih =>
    rw [List.forall_mem_cons, ih]
    constructor
    · rintro ⟨hm, entries, he, ht⟩
      obtain ⟨found, hf⟩ := Option.isSome_iff_exists.mp hm
      obtain ⟨entry, hentry, htakes, -⟩ := h.found?_eq_some_iff.mp hf
      exact ⟨entry :: entries, by rw [List.map_cons, he, hentry, List.map_cons],
        List.forall_mem_cons.mpr ⟨htakes, ht⟩⟩
    · rintro ⟨_ | ⟨entry, entries⟩, he, ht⟩
      · cases he
      · obtain ⟨hentry, he⟩ := List.cons.inj he
        obtain ⟨htakes, ht⟩ := List.forall_mem_cons.mp ht
        have hf := h.found?_eq_some_iff.mpr ⟨entry, hentry, htakes, rfl⟩
        exact ⟨Option.isSome_iff_exists.mpr ⟨_, hf⟩, entries, he, ht⟩

private theorem IsStrict.contents_eq (h : shape.IsStrict) {members : List (Member Value)}
    {entries : List (String × String)} (he : members.map Member.entry? = entries.map some)
    (ht : ∀ entry ∈ entries, shape.TakesText entry) :
    shape.contents members = entries.map fun entry => (entry.1, some entry.2) := by
  induction members generalizing entries with
  | nil =>
    obtain rfl := List.map_eq_nil_iff.mp he.symm
    rfl
  | cons member members ih =>
    cases entries with
    | nil => cases he
    | cons entry entries =>
      obtain ⟨hentry, he⟩ := List.cons.inj he
      obtain ⟨htakes, ht⟩ := List.forall_mem_cons.mp ht
      rw [contents_cons (h.found?_eq_some_iff.mpr ⟨entry, hentry, htakes, rfl⟩), ih he ht]
      rfl

/-- A record is covered if it has all fields that are not optional. -/
theorem isCovered_iff {found : Members} : shape.isCovered found = true ↔
    ∀ field ∈ shape.fields, field.optional = false → field.name ∈ found.map Prod.fst := by
  rw [isCovered, List.all_eq_true]
  refine forall₂_congr fun field hf => ?_
  cases field.optional with
  | true => simp
  | false =>
    rw [Bool.false_or, List.lookup_isSome_iff, List.mem_map]
    simp only [beq_iff_eq, true_implies]
    exact exists_congr fun entry => and_congr_right fun _ => eq_comm

/-- Texts under names that a strict record takes cover it, each name once, if they are in some order
those of the fields. -/
private theorem IsStrict.covers_iff (h : shape.IsStrict) {entries : List (String × String)}
    (ht : ∀ entry ∈ entries, shape.TakesText entry) :
    (entries.map Prod.fst).Perm shape.names ↔ (entries.map Prod.fst).Nodup ∧
      shape.isCovered (entries.map fun entry => (entry.1, some entry.2)) = true := by
  have hcovered : shape.isCovered (entries.map fun entry => (entry.1, some entry.2)) = true ↔
      ∀ name ∈ shape.names, name ∈ entries.map Prod.fst := by
    rw [isCovered_iff, List.map_map, names, List.forall_mem_map]
    refine forall₂_congr fun field hf => ?_
    rw [(h.plain field hf).2]
    exact ⟨fun hm => hm rfl, fun hm _ => hm⟩
  rw [hcovered]
  constructor
  · intro hp
    exact ⟨hp.nodup_iff.mpr h.distinct, fun name hn => hp.mem_iff.mpr hn⟩
  · rintro ⟨hd, hc⟩
    refine (List.perm_ext_iff_of_nodup hd h.distinct).mpr fun name => ⟨fun hn => ?_, hc name⟩
    obtain ⟨entry, he, rfl⟩ := List.mem_map.mp hn
    obtain ⟨field, hf, hname, -⟩ := ht entry he
    exact hname ▸ List.mem_map_of_mem hf

private theorem elements?_eq_some_iff {fields : List Field}
    (h : ∀ field ∈ fields, field.nullable = false ∧ field.optional = false)
    {items : List (Item Value)} {found : Members} :
    elements? fields items = some found ↔ ∃ texts : List String,
      items.map (fun item => item.value.text?) = texts.map some ∧ texts.length = fields.length ∧
        (∀ pair ∈ fields.zip texts, pair.1.accepts pair.2 = true) ∧
          found = ((fields.map Field.name).zip texts).map fun entry => (entry.1, some entry.2) := by
  induction fields generalizing items found with
  | nil =>
    cases items with
    | nil =>
      constructor
      · rintro ⟨⟩
        exact ⟨[], rfl, rfl, by simp, rfl⟩
      · rintro ⟨texts, -, hlength, -, rfl⟩
        rw [List.length_eq_zero_iff.mp hlength]
        rfl
    | cons item items =>
      simp only [elements?, reduceCtorEq, false_iff]
      rintro ⟨_ | ⟨text, texts⟩, ht, hlength, -⟩
      · cases ht
      · cases hlength
  | cons field fields ih =>
    obtain ⟨⟨hn, ho⟩, hfields⟩ := List.forall_mem_cons.mp h
    cases items with
    | nil =>
      simp only [elements?, List.all_cons, ho, Bool.false_and, Bool.false_eq_true, if_false,
        reduceCtorEq, false_iff]
      rintro ⟨_ | ⟨text, texts⟩, ht, hlength, -⟩
      · cases hlength
      · cases ht
    | cons item items =>
      simp only [elements?, Option.bind_eq_some_iff, take?_eq_some_iff hn, Option.map_eq_some_iff,
        ih hfields]
      constructor
      · rintro ⟨value, ⟨text, htext, ha, rfl⟩, found, ⟨texts, ht, hlength, hall, rfl⟩, rfl⟩
        refine ⟨text :: texts, ?_, ?_, ?_, rfl⟩
        · rw [List.map_cons, htext, ht, List.map_cons]
        · rw [List.length_cons, hlength, List.length_cons]
        · exact List.forall_mem_cons.mpr ⟨ha, hall⟩
      · rintro ⟨_ | ⟨text, texts⟩, ht, hlength, hall, rfl⟩
        · cases ht
        · obtain ⟨htext, ht⟩ := List.cons.inj ht
          obtain ⟨ha, hall⟩ := List.forall_mem_cons.mp hall
          exact ⟨_, ⟨text, htext, ha, rfl⟩, _, ⟨texts, ht, Nat.succ.inj hlength, hall, rfl⟩, rfl⟩

/-- A strict record is read off a value that lists texts for the fields, each once. -/
theorem IsStrict.read_eq_ok_iff (h : shape.IsStrict) {d : Document} {found : Members} :
    shape.read d.octets = .ok found ↔ ∃ entries, d.value.Lists shape.names entries ∧
      (entries.map Prod.fst).Perm shape.names ∧ (∀ entry ∈ entries, shape.TakesText entry) ∧
        found = entries.map fun entry => (entry.1, some entry.2) := by
  cases hd : d.value with
  | object inner members =>
    rw [read_object_eq_ok_iff hd]
    constructor
    · rintro ⟨ha, rfl⟩
      obtain ⟨entries, he, ht⟩ := h.readable_iff.mp ha.readable
      have hcontents := h.contents_eq he ht
      have hdistinct := ha.distinct
      have hcovered := ha.covered
      rw [hcontents] at hdistinct hcovered
      rw [List.map_map] at hdistinct
      exact ⟨entries, .object he, (h.covers_iff ht).mpr ⟨hdistinct, hcovered⟩, ht, hcontents⟩
    · rintro ⟨entries, ⟨he⟩, hp, ht, rfl⟩
      have hcontents := h.contents_eq he ht
      obtain ⟨hdistinct, hcovered⟩ := (h.covers_iff ht).mp hp
      refine ⟨⟨h.readable_iff.mpr ⟨entries, he, ht⟩, ?_, ?_⟩, hcontents⟩
      · rw [hcontents, List.map_map]
        exact hdistinct
      · rw [hcontents]
        exact hcovered
  | array inner items =>
    have htakes : ∀ texts : List String,
        (∀ entry ∈ shape.names.zip texts, shape.TakesText entry) ↔
          ∀ pair ∈ shape.fields.zip texts, pair.1.accepts pair.2 = true := by
      intro texts
      rw [names, List.zip_map_left, List.forall_mem_map]
      exact forall₂_congr fun pair hp => takesText_iff h.distinct (List.of_mem_zip hp).1
    have hlength : shape.names.length = shape.fields.length := by rw [names, List.length_map]
    rw [Shape.read_eq_ok_iff, hd, holds?, elements?_eq_some_iff h.plain]
    constructor
    · rintro ⟨texts, ht, hn, hall, rfl⟩
      refine ⟨_, .array ht (hn.trans hlength.symm), ?_, (htakes texts).mpr hall, rfl⟩
      rw [List.map_fst_zip (Nat.le_of_eq (hlength.trans hn.symm))]
    · rintro ⟨entries, hl, -, ht, rfl⟩
      cases hl with
      | array hitems hn => exact ⟨_, hitems, hn.trans hlength, (htakes _).mp ht, rfl⟩
  | _ =>
    rw [Shape.read_eq_ok_iff, hd]
    constructor
    · intro hread
      cases hread
    · rintro ⟨_, hl, -⟩
      cases hl

end Shape

end SignOn.Json
