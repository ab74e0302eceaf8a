import SignOn.Proofs.Config.Values

/-!
# Records of parameters

The settings of a filter are a record of fields, each with its own parameter. Reading one parameter
after the other fails at the first faulty value; otherwise each field is what the last value of its
parameter means (`IsRecord.foldlM_eq_ok_iff`).
-/

namespace SignOn.Parameter

namespace Kind

/-- What a field becomes when its parameter has a value, or none. -/
def Chosen (kind : Kind) (value? : Option String) (before after : kind.Value) : Prop :=
  match value? with
  | some value => kind.Means value after
  | none => after = before

/-- A later value takes the place of an earlier one. -/
theorem Chosen.trans {kind : Kind} {value? value'? : Option String} {a b c : kind.Value}
    (h : kind.Chosen value? a b) (h' : kind.Chosen value'? b c) :
    kind.Chosen (value'?.or value?) a c := by
  cases value'? with
  | some value' => exact h'
  | none =>
    obtain rfl : c = b := h'
    exact h

theorem Chosen.unique {kind : Kind} {value? : Option String} {a b c : kind.Value}
    (h : kind.Chosen value? a b) (h' : kind.Chosen value? a c) : b = c := by
  cases value? with
  | some value => exact Means.unique h h'
  | none => exact Eq.trans h (Eq.symm h')

end Kind

/-- The value of the last pair with a name. -/
def last? (name : String) (ps : List (String × String)) : Option String :=
  ((ps.filter (·.1 = name)).getLast?).map Prod.snd

@[simp] theorem last?_nil (name : String) : last? name [] = none := rfl

theorem last?_cons (name : String) (p : String × String) (ps : List (String × String)) :
    last? name (p :: ps) = (last? name ps).or (if p.1 = name then some p.2 else none) := by
  by_cases hp : p.1 = name
  · rw [last?, last?, List.filter_cons_of_pos (by simpa using hp), List.getLast?_cons, if_pos hp]
    cases (ps.filter (·.1 = name)).getLast? <;> rfl
  · rw [last?, last?, List.filter_cons_of_neg (by simpa using hp), if_neg hp, Option.or_none]

/-- A field of settings, with the parameter that sets it. -/
structure Field (σ : Type) where
  name : String
  kind : Kind
  get : σ → kind.Value
  set : kind.Value → σ → σ

variable {σ : Type}

/-- A pair with a value that is valid, or with a name that no field has. -/
def Admitted (fields : List (Field σ)) (p : String × String) : Prop :=
  ∀ field ∈ fields, p.1 = field.name → field.kind.Admits p.2

/-- A pair with the name of a field and a faulty value. -/
def Breaks (fields : List (Field σ)) (p : String × String) (e : Error) : Prop :=
  ∃ field ∈ fields, p.1 = field.name ∧ field.kind.Faulty field.name p.2 e

/-- Two pairs of one name that differ in how they spell the value. -/
def Respelled (fields : List (Field σ)) (p q : String × String) : Prop :=
  p.1 = q.1 ∧ ∀ field ∈ fields, p.1 = field.name → field.kind.Respells p.2 q.2

/-- Updates that set the fields of a record, each by its own parameter. -/
structure IsRecord (fields : List (Field σ))
    (update : σ → String × String → Except Error σ) : Prop where
  update_field : ∀ field ∈ fields, ∀ (s : σ) (value : String),
    update s (field.name, value) = (field.kind.read field.name value).map (field.set · s)
  update_other : ∀ (s : σ) (p : String × String), (∀ field ∈ fields, p.1 ≠ field.name) →
    update s p = .ok s
  get_set : ∀ field ∈ fields, ∀ (s : σ) (a : field.kind.Value), field.get (field.set a s) = a
  get_set_ne : ∀ field ∈ fields, ∀ other ∈ fields, field.name ≠ other.name →
    ∀ (s : σ) (a : other.kind.Value), field.get (other.set a s) = field.get s
  ext : ∀ s t : σ, (∀ field ∈ fields, field.get s = field.get t) → s = t

namespace IsRecord

variable {fields : List (Field σ)} {update : σ → String × String → Except Error σ}
  {s s' : σ} {p q : String × String} {ps qs : List (String × String)} {e : Error}

/-- A parameter belongs to a field, or it changes nothing. -/
private theorem update_cases (h : IsRecord fields update) (s : σ) (p : String × String) :
    (∃ field ∈ fields, p.1 = field.name ∧
      update s p = (field.kind.read field.name p.2).map (field.set · s)) ∨
    ((∀ field ∈ fields, p.1 ≠ field.name) ∧ update s p = .ok s) := by
  by_cases hknown : ∃ field ∈ fields, p.1 = field.name
  · obtain ⟨field, hfield, hname⟩ := hknown
    obtain ⟨name, value⟩ := p
    obtain rfl : name = field.name := hname
    exact .inl ⟨field, hfield, rfl, h.update_field field hfield s value⟩
  · have hother : ∀ field ∈ fields, p.1 ≠ field.name :=
      fun field hfield hname => hknown ⟨field, hfield, hname⟩
    exact .inr ⟨hother, h.update_other s p hother⟩

/-- A parameter is refused for its value. -/
theorem update_eq_error_iff (h : IsRecord fields update) :
    update s p = .error e ↔ Breaks fields p e := by
  constructor
  · intro hu
    obtain ⟨field, hfield, hname, heq⟩ | ⟨-, heq⟩ := h.update_cases s p
    · refine ⟨field, hfield, hname, Kind.read_eq_error_iff.mp ?_⟩
      rw [heq] at hu
      cases hread : field.kind.read field.name p.2 with
      | ok a => rw [hread] at hu; cases hu
      | error e' => rw [hread] at hu; rw [Except.error.inj hu]
    · rw [heq] at hu
      cases hu
  · rintro ⟨field, hfield, hname, hfaulty⟩
    obtain ⟨name, value⟩ := p
    obtain rfl : name = field.name := hname
    rw [h.update_field field hfield, Kind.read_eq_error_iff.mpr hfaulty]
    rfl

/-- A parameter is accepted exactly if no field objects to its value. -/
theorem exists_update_iff (h : IsRecord fields update) :
    (∃ s', update s p = .ok s') ↔ Admitted fields p := by
  constructor
  · rintro ⟨s', hu⟩ field hfield hname
    rw [Kind.admits_iff field.name]
    cases hread : field.kind.read field.name p.2 with
    | ok a => exact ⟨a, rfl⟩
    | error e =>
      rw [h.update_eq_error_iff.mpr ⟨field, hfield, hname, Kind.read_eq_error_iff.mp hread⟩] at hu
      cases hu
  · intro hp
    cases hu : update s p with
    | ok s' => exact ⟨s', rfl⟩
    | error e =>
      obtain ⟨field, hfield, hname, hfaulty⟩ := h.update_eq_error_iff.mp hu
      exact absurd (hp field hfield hname) hfaulty.not_admits

/-- A parameter sets its own field and keeps the others. -/
theorem chosen_of_update (h : IsRecord fields update) (hu : update s p = .ok s')
    {field : Field σ} (hfield : field ∈ fields) :
    field.kind.Chosen (if p.1 = field.name then some p.2 else none)
      (field.get s) (field.get s') := by
  by_cases hname : p.1 = field.name
  · obtain ⟨name, value⟩ := p
    obtain rfl : name = field.name := hname
    rw [h.update_field field hfield] at hu
    cases hread : field.kind.read field.name value with
    | error e => rw [hread] at hu; cases hu
    | ok a =>
      rw [hread] at hu
      rw [if_pos rfl, ← Except.ok.inj hu, h.get_set field hfield]
      exact Kind.read_eq_ok_iff.mp hread
  · rw [if_neg hname]
    obtain ⟨other, hother, hname', heq⟩ | ⟨-, heq⟩ := h.update_cases s p
    · rw [heq] at hu
      cases hread : other.kind.read other.name p.2 with
      | error e => rw [hread] at hu; cases hu
      | ok a =>
        rw [hread] at hu
        rw [← Except.ok.inj hu]
        exact h.get_set_ne field hfield other hother (fun e => hname (hname'.trans e.symm)) s a
    · rw [Except.ok.inj (heq.symm.trans hu)]
      rfl

/-- A parameter counts alike in each spelling of its value. -/
theorem update_eq_of_respelled (h : IsRecord fields update) (hpq : Respelled fields p q) (s : σ) :
    update s p = update s q := by
  obtain ⟨name, value⟩ := p
  obtain ⟨name', value'⟩ := q
  obtain ⟨rfl, hspelled⟩ : name = name' ∧ _ := hpq
  obtain ⟨field, hfield, hname, heq⟩ | ⟨hother, heq⟩ := h.update_cases s (name, value)
  · obtain rfl : name = field.name := hname
    rw [heq, h.update_field field hfield,
      Kind.read_eq_of_respells field.name (hspelled field hfield rfl)]
  · rw [heq, h.update_other s (name, value') hother]

/-- Parameters are accepted exactly if each one is. -/
theorem exists_foldlM_iff (h : IsRecord fields update) :
    (∃ s', ps.foldlM update s = .ok s') ↔ ∀ p ∈ ps, Admitted fields p := by
  induction ps generalizing s with
  | nil => exact ⟨fun _ _ hp => absurd hp List.not_mem_nil, fun _ => ⟨s, rfl⟩⟩
  | cons p ps ih =>
    rw [List.foldlM_cons, List.forall_mem_cons, ← h.exists_update_iff (s := s)]
    cases hu : update s p with
    | ok s' => exact ⟨fun hs => ⟨⟨s', rfl⟩, ih.mp hs⟩, fun hs => ih.mpr hs.2⟩
    | error e =>
      constructor
      · rintro ⟨s', ⟨⟩⟩
      · rintro ⟨⟨s', ⟨⟩⟩, -⟩

/-- Parameters are refused for the first value that is faulty. -/
theorem foldlM_eq_error_iff (h : IsRecord fields update) :
    ps.foldlM update s = .error e ↔ ∃ before p after, ps = before ++ p :: after ∧
      (∀ q ∈ before, Admitted fields q) ∧ Breaks fields p e := by
  constructor
  · intro hrun
    induction ps generalizing s with
    | nil => cases hrun
    | cons p ps ih =>
      rw [List.foldlM_cons] at hrun
      cases hu : update s p with
      | error e' =>
        rw [hu] at hrun
        obtain rfl : e' = e := Except.error.inj hrun
        exact ⟨[], p, ps, rfl, fun _ hq => absurd hq List.not_mem_nil,
          h.update_eq_error_iff.mp hu⟩
      | ok s' =>
        rw [hu] at hrun
        obtain ⟨before, q, after, rfl, hbefore, hbreaks⟩ := ih hrun
        exact ⟨p :: before, q, after, rfl,
          List.forall_mem_cons.mpr ⟨h.exists_update_iff.mp ⟨s', hu⟩, hbefore⟩, hbreaks⟩
  · rintro ⟨before, p, after, rfl, hbefore, hbreaks⟩
    obtain ⟨s', hs'⟩ := (h.exists_foldlM_iff (s := s)).mpr hbefore
    rw [List.foldlM_append, hs']
    change List.foldlM update s' (p :: after) = _
    rw [List.foldlM_cons, h.update_eq_error_iff.mpr hbreaks]
    rfl

/-- After all parameters a field is what the last value of its own parameter means. -/
theorem chosen_of_foldlM (h : IsRecord fields update) (hrun : ps.foldlM update s = .ok s')
    {field : Field σ} (hfield : field ∈ fields) :
    field.kind.Chosen (last? field.name ps) (field.get s) (field.get s') := by
  induction ps generalizing s with
  | nil =>
    obtain rfl : s = s' := Except.ok.inj hrun
    exact rfl
  | cons p ps ih =>
    rw [List.foldlM_cons] at hrun
    cases hu : update s p with
    | error e => rw [hu] at hrun; cases hrun
    | ok t =>
      rw [hu] at hrun
      rw [last?_cons]
      exact (h.chosen_of_update hu hfield).trans (ih hrun)

/-- The outcome of parameters that are accepted: what their last values mean. -/
theorem foldlM_eq_ok_iff (h : IsRecord fields update) :
    ps.foldlM update s = .ok s' ↔ (∀ p ∈ ps, Admitted fields p) ∧ ∀ field ∈ fields,
      field.kind.Chosen (last? field.name ps) (field.get s) (field.get s') := by
  constructor
  · intro hrun
    exact ⟨h.exists_foldlM_iff.mp ⟨s', hrun⟩, fun _ hfield => h.chosen_of_foldlM hrun hfield⟩
  · rintro ⟨hadmitted, hchosen⟩
    obtain ⟨t, hrun⟩ := (h.exists_foldlM_iff (s := s)).mpr hadmitted
    rw [hrun, h.ext t s' fun field hfield =>
      (h.chosen_of_foldlM hrun hfield).unique (hchosen field hfield)]

/-- Which settings parameters give depends on the values of each name alone, in their order. -/
theorem foldlM_eq_ok_iff_of_filter_eq (h : IsRecord fields update)
    (hsame : ∀ field ∈ fields, ps.filter (·.1 = field.name) = qs.filter (·.1 = field.name)) :
    ps.foldlM update s = .ok s' ↔ qs.foldlM update s = .ok s' := by
  have hadmitted : ∀ rs : List (String × String), (∀ p ∈ rs, Admitted fields p) ↔
      ∀ field ∈ fields, ∀ p ∈ rs.filter (·.1 = field.name), field.kind.Admits p.2 := by
    intro rs
    simp only [List.mem_filter, decide_eq_true_eq, and_imp]
    exact ⟨fun hrs field hfield p hp hname => hrs p hp field hfield hname,
      fun hrs p hp field hfield hname => hrs field hfield p hp hname⟩
  have hlast : ∀ field ∈ fields, last? field.name ps = last? field.name qs :=
    fun field hfield => by rw [last?, last?, hsame field hfield]
  rw [h.foldlM_eq_ok_iff, h.foldlM_eq_ok_iff, hadmitted, hadmitted]
  exact and_congr (forall₂_congr fun field hfield => by rw [hsame field hfield])
    (forall₂_congr fun field hfield => by rw [hlast field hfield])

/-- A pair with a name that no field has may be left out. -/
theorem foldlM_append_other (h : IsRecord fields update) (hp : ∀ field ∈ fields, p.1 ≠ field.name)
    (s : σ) : (ps ++ p :: qs).foldlM update s = (ps ++ qs).foldlM update s := by
  rw [List.foldlM_append, List.foldlM_append]
  refine congrArg _ (funext fun t => ?_)
  rw [List.foldlM_cons, h.update_other t p hp]
  rfl

/-- Parameters count alike in each spelling of their values. -/
theorem foldlM_eq_of_respelled (h : IsRecord fields update)
    (hpqs : List.Forall₂ (Respelled fields) ps qs) (s : σ) :
    ps.foldlM update s = qs.foldlM update s := by
  induction hpqs generalizing s with
  | nil => rfl
  | cons hpq _ ih =>
    rw [List.foldlM_cons, List.foldlM_cons, h.update_eq_of_respelled hpq]
    exact congrArg _ (funext ih)

end IsRecord

end SignOn.Parameter
