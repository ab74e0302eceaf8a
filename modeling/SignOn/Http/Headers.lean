import SignOn.Http.FieldValue
import SignOn.Text.Split

/-!
# Header fields

A message carries a list of named field values. Names are compared without regard to ASCII letter
case; values of one name keep their order.
-/

namespace SignOn.Http

/-- The header fields of a message, in their order. -/
structure Headers where
  fields : List (String × FieldValue) := []

namespace Headers

/-- No fields. -/
def empty : Headers := {}

/-- One more field, after all others. -/
def append (h : Headers) (name : String) (value : FieldValue) : Headers :=
  ⟨h.fields ++ [(name, value)]⟩

/-- The fields of one list after those of another. -/
def concat (h k : Headers) : Headers := ⟨h.fields ++ k.fields⟩

/-- A field in place of all fields of its name. -/
def put (h : Headers) (name : String) (value : FieldValue) : Headers :=
  append ⟨h.fields.filter fun field => Text.lower field.1 ≠ Text.lower name⟩ name value

/-- Fields taken over one by one: the first of a name replaces all that stood under it, the others
are added. Names in `replaced` have had their first. -/
def extendFrom (replaced : List String) (h : Headers) : List (String × FieldValue) → Headers
  | [] => h
  | (name, value) :: fields =>
    if Text.lower name ∈ replaced then extendFrom replaced (h.append name value) fields
    else extendFrom (Text.lower name :: replaced) (h.put name value) fields

/-- The fields of one list, with those of another taken over. -/
def extend (h k : Headers) : Headers := extendFrom [] h k.fields

/-- The values of a name, in order. -/
def values (h : Headers) (name : String) : List FieldValue :=
  (h.fields.filter fun field => Text.lower field.1 = Text.lower name).map Prod.snd

/-- The values of a name that are text, in order. -/
def texts (h : Headers) (name : String) : List String := (h.values name).filterMap FieldValue.text?

/-- The text of the first value of a name; `none` when there is no value or the first is not text.
-/
def firstText? (h : Headers) (name : String) : Option String :=
  (h.values name).head?.bind FieldValue.text?

@[simp] theorem values_empty (name : String) : empty.values name = [] := rfl

@[simp] theorem values_concat (h k : Headers) (name : String) :
    (h.concat k).values name = h.values name ++ k.values name := by
  simp [values, concat]

/-- A field is seen under its own name only. -/
theorem values_append (h : Headers) (name other : String) (value : FieldValue) :
    (h.append name value).values other =
      h.values other ++ if Text.lower name = Text.lower other then [value] else [] := by
  simp only [values, append, List.filter_append, List.map_append]
  congr 1
  split <;> simp_all

/-- A field that is put is the only one of its name. -/
theorem values_put (h : Headers) (name other : String) (value : FieldValue) :
    (h.put name value).values other =
      if Text.lower name = Text.lower other then [value] else h.values other := by
  rw [put, values_append, values, values, List.filter_filter]
  by_cases hname : Text.lower name = Text.lower other
  · have hnone : ∀ field ∈ h.fields, ¬ (decide (Text.lower field.1 = Text.lower other) &&
        decide (Text.lower field.1 ≠ Text.lower name)) = true := by
      intro field _
      simp [hname]
    rw [if_pos hname, if_pos hname, List.filter_eq_nil_iff.mpr hnone, List.map_nil, List.nil_append]
  · have hsame : ∀ field ∈ h.fields, (decide (Text.lower field.1 = Text.lower other) &&
        decide (Text.lower field.1 ≠ Text.lower name)) =
          decide (Text.lower field.1 = Text.lower other) := by
      intro field _
      by_cases hfield : Text.lower field.1 = Text.lower other
      · simp [hfield, Ne.symm hname]
      · simp [hfield]
    rw [if_neg hname, if_neg hname, List.filter_congr hsame, List.append_nil]

private theorem values_cons (field : String × FieldValue) (fields : List (String × FieldValue))
    (name : String) : values ⟨field :: fields⟩ name =
      (if Text.lower field.1 = Text.lower name then [field.2] else []) ++ values ⟨fields⟩ name := by
  by_cases h : Text.lower field.1 = Text.lower name
  · simp [values, h]
  · simp [values, h]

private theorem values_extendFrom (replaced : List String) (h : Headers)
    (fields : List (String × FieldValue)) (name : String) :
    (extendFrom replaced h fields).values name =
      (if Text.lower name ∈ replaced ∨ values ⟨fields⟩ name = [] then h.values name else []) ++
        values ⟨fields⟩ name := by
  induction fields generalizing replaced h with
  | nil => simp [extendFrom, values]
  | cons field fields ih =>
    rw [extendFrom, values_cons]
    by_cases hname : Text.lower field.1 = Text.lower name
    · by_cases hreplaced : Text.lower field.1 ∈ replaced
      · have hin : Text.lower name ∈ replaced := hname ▸ hreplaced
        rw [if_pos hreplaced, ih, values_append]
        simp [hname, hin]
      · have hout : Text.lower name ∉ replaced := hname ▸ hreplaced
        rw [if_neg hreplaced, ih, values_put]
        simp [hname, hout]
    · by_cases hreplaced : Text.lower field.1 ∈ replaced
      · rw [if_pos hreplaced, ih, values_append]
        simp [hname]
      · rw [if_neg hreplaced, ih, values_put]
        simp [hname, Ne.symm hname]

/-- Values that are taken over stand in place of those that were there; under a name without any
nothing changes. -/
theorem values_extend (h k : Headers) (name : String) :
    (h.extend k).values name = if k.values name = [] then h.values name else k.values name := by
  rw [extend, values_extendFrom]
  by_cases hnone : k.values name = []
  · simp [hnone]
  · simp [hnone]

end Headers

end SignOn.Http
