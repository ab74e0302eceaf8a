import SignOn.Config.Gate
import SignOn.Config.Logout
import SignOn.Proofs.Config.Record

/-!
# Parameters of filters

Both filters take their settings from a list of named values: the last value of a name counts, the
first faulty value is the error (`Parameter.take_last_values`).
-/

namespace SignOn

private theorem forall_mem_three {α : Type} {P : α → Prop} {a b c : α} :
    (∀ x ∈ [a, b, c], P x) ↔ P a ∧ P b ∧ P c := by
  rw [List.forall_mem_cons, List.forall_mem_cons, List.forall_mem_singleton]

namespace LogoutSettings

/-- The parameters of the logout filter. -/
def fields : List (Parameter.Field LogoutSettings) := [
  { name := "logoutFromForceDotCom", kind := .flag, get := (·.fromProvider),
    set := fun fromProvider s => { s with fromProvider } },
  { name := "logoutSuccessUrl", kind := .text, get := (·.target),
    set := fun target s => { s with target } },
  { name := "securityContextStorageMethod", kind := .method, get := (·.storageMethod),
    set := fun storageMethod s => { s with storageMethod } }]

/-- The logout filter sets a field by its parameter. -/
theorem isRecord : Parameter.IsRecord fields update where
  update_field := forall_mem_three.mpr ⟨fun _ _ => rfl, fun _ _ => rfl, fun _ _ => rfl⟩
  update_other s p hother := by
    obtain ⟨hfromProvider, htarget, hmethod⟩ := forall_mem_three.mp hother
    exact (if_neg hfromProvider).trans ((if_neg htarget).trans (if_neg hmethod))
  get_set := forall_mem_three.mpr ⟨fun _ _ => rfl, fun _ _ => rfl, fun _ _ => rfl⟩
  get_set_ne := forall_mem_three.mpr
    ⟨forall_mem_three.mpr ⟨fun h => absurd rfl h, fun _ _ _ => rfl, fun _ _ _ => rfl⟩,
      forall_mem_three.mpr ⟨fun _ _ _ => rfl, fun h => absurd rfl h, fun _ _ _ => rfl⟩,
      forall_mem_three.mpr ⟨fun _ _ _ => rfl, fun _ _ _ => rfl, fun h => absurd rfl h⟩⟩
  ext s t hsame := by
    obtain ⟨hfromProvider, htarget, hmethod⟩ := forall_mem_three.mp hsame
    cases s
    cases t
    cases hfromProvider
    cases htarget
    cases hmethod
    rfl

end LogoutSettings

namespace GateSettings

/-- The parameters of the authentication gate. -/
def fields : List (Parameter.Field GateSettings) := [
  { name := "securityContextStorageMethod", kind := .method, get := (·.storageMethod),
    set := fun storageMethod s => { s with storageMethod } },
  { name := "excludedPaths", kind := .listing, get := (·.excludedPaths),
    set := fun excludedPaths s => { s with excludedPaths } },
  { name := "apiVersion", kind := .text, get := (·.apiVersion),
    set := fun apiVersion s => { s with apiVersion } }]

/-- The gate sets a field by its parameter. -/
theorem isRecord : Parameter.IsRecord fields update where
  update_field := forall_mem_three.mpr ⟨fun _ _ => rfl, fun _ _ => rfl, fun _ _ => rfl⟩
  update_other s p hother := by
    obtain ⟨hmethod, hpaths, hversion⟩ := forall_mem_three.mp hother
    exact (if_neg hmethod).trans ((if_neg hpaths).trans (if_neg hversion))
  get_set := forall_mem_three.mpr ⟨fun _ _ => rfl, fun _ _ => rfl, fun _ _ => rfl⟩
  get_set_ne := forall_mem_three.mpr
    ⟨forall_mem_three.mpr ⟨fun h => absurd rfl h, fun _ _ _ => rfl, fun _ _ _ => rfl⟩,
      forall_mem_three.mpr ⟨fun _ _ _ => rfl, fun h => absurd rfl h, fun _ _ _ => rfl⟩,
      forall_mem_three.mpr ⟨fun _ _ _ => rfl, fun _ _ _ => rfl, fun h => absurd rfl h⟩⟩
  ext s t hsame := by
    obtain ⟨hmethod, hpaths, hversion⟩ := forall_mem_three.mp hsame
    cases s
    cases t
    cases hmethod
    cases hpaths
    cases hversion
    rfl

end GateSettings

namespace Parameter

variable {σ : Type}

/-- How a filter with some fields and defaults takes its settings from parameters, and from
variables that stand for parameters. -/
structure TakesLast (fields : List (Field σ)) (defaults : σ)
    (ofParameters : List (String × String) → Except Error σ)
    (sources : List (String × String)) (ofEnvironment : Environment → Except Error σ) : Prop where
  /-- Parameters are accepted if and only if all values of known names are valid. -/
  succeeds_iff : ∀ ps, (∃ s, ofParameters ps = .ok s) ↔ ∀ p ∈ ps, Admitted fields p
  /-- Otherwise the error is that of the first pair with a faulty value. -/
  fails_iff : ∀ ps e, ofParameters ps = .error e ↔ ∃ before p after, ps = before ++ p :: after ∧
    (∀ q ∈ before, Admitted fields q) ∧ Breaks fields p e
  /-- Each field is what the last value of its name means, or its default. -/
  chosen : ∀ ps s, ofParameters ps = .ok s → ∀ field ∈ fields,
    field.kind.Chosen (last? field.name ps) (field.get defaults) (field.get s)
  /-- Pairs with unknown names do not count. -/
  other : ∀ before p after, (∀ field ∈ fields, p.1 ≠ field.name) →
    ofParameters (before ++ p :: after) = ofParameters (before ++ after)
  /-- The order of pairs does not count, as long as those of one known name keep theirs. -/
  rearranged : ∀ ps qs,
    (∀ field ∈ fields, ps.filter (·.1 = field.name) = qs.filter (·.1 = field.name)) →
    ∀ s, ofParameters ps = .ok s ↔ ofParameters qs = .ok s
  /-- Neither white space around values nor, where it does not matter, their letter case counts. -/
  respelled : ∀ ps qs, List.Forall₂ (Respelled fields) ps qs → ofParameters ps = ofParameters qs
  /-- An environment gives the parameters that its variables stand for. -/
  environment : ∀ env, ofEnvironment env = ofParameters
    (sources.filterMap fun v => (env.text? v.1).map fun value => (v.2, value))

/-- A record that is read parameter by parameter takes the last value of each name. -/
theorem IsRecord.takesLast {fields : List (Field σ)}
    {update : σ → String × String → Except Error σ} (h : IsRecord fields update) (defaults : σ)
    (sources : List (String × String)) :
    TakesLast fields defaults (fun ps => ps.foldlM update defaults) sources
      (fun env => (env.renamed sources).foldlM update defaults) where
  succeeds_iff _ := h.exists_foldlM_iff
  fails_iff _ _ := h.foldlM_eq_error_iff
  chosen _ _ hrun _ hfield := h.chosen_of_foldlM hrun hfield
  other _ _ _ hp := h.foldlM_append_other hp defaults
  rearranged _ _ hsame _ := h.foldlM_eq_ok_iff_of_filter_eq hsame
  respelled _ _ hpqs := h.foldlM_eq_of_respelled hpqs defaults
  environment _ := rfl

/-- **Both filters take the last value of each parameter.** Settings are given if and only if every
value of a known name is valid, and the error is that of the first pair whose value is not; each
field comes from the last pair with its name. The gate excludes exactly the segments of the last
list of paths. -/
theorem take_last_values :
    TakesLast LogoutSettings.fields
      { fromProvider := true, target := "/", storageMethod := .cookie }
      LogoutSettings.ofParameters
      [("FORCE_LOGOUT_FROM_FORCE_DOT_COM", "logoutFromForceDotCom"),
        ("FORCE_LOGOUT_SUCCESS_URL", "logoutSuccessUrl"),
        ("FORCE_SECURITY_CONTEXT_STORAGE_METHOD", "securityContextStorageMethod")]
      LogoutSettings.ofEnvironment ∧
    TakesLast GateSettings.fields
      { storageMethod := .cookie, excludedPaths := ["/logout"], apiVersion := "62.0" }
      GateSettings.ofParameters
      [("FORCE_SECURITY_CONTEXT_STORAGE_METHOD", "securityContextStorageMethod"),
        ("FORCE_EXCLUDED_PATHS", "excludedPaths"), ("FORCE_API_VERSION", "apiVersion")]
      GateSettings.ofEnvironment ∧
    ∀ ps settings paths, GateSettings.ofParameters ps = .ok settings →
      last? "excludedPaths" ps = some paths → ∃ segments, IsCut paths segments ∧
        ∀ path, settings.isExcluded path = true ↔ path ≠ "" ∧ path ∈ segments.map Text.trim := by
  refine ⟨LogoutSettings.isRecord.takesLast _ _, GateSettings.isRecord.takesLast _ _, ?_⟩
  intro ps settings paths hgiven hlast
  have hchosen := GateSettings.isRecord.chosen_of_foldlM hgiven
    (List.mem_cons_of_mem _ List.mem_cons_self)
  obtain ⟨segments, hcut, hpaths⟩ : Kind.listing.Means paths settings.excludedPaths := by
    rwa [show last? _ ps = some paths from hlast] at hchosen
  refine ⟨segments, hcut, fun path => ?_⟩
  rw [GateSettings.isExcluded_iff, hpaths, List.mem_filter, decide_eq_true_eq, and_comm]

/-- A faulty value is an error even where a later one is valid. -/
example : LogoutSettings.ofParameters
    [("logoutFromForceDotCom", "yes"), ("logoutFromForceDotCom", " TRUE ")] =
      .error { kind := .config "logoutFromForceDotCom: expected 'true' or 'false'" } := by
  decide

end Parameter

end SignOn
