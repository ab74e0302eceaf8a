import SignOn.Proofs.Config.Parameters
import SignOn.Proofs.Startup.Checks
import SignOn.Proofs.Text.Utf8

/-!
# The first fault at start-up

Each part of starting up makes its checks, and the parts follow one another in the order of
`Check.inOrder`. So an application starts if and only if its environment passes all checks, and the
first one that it does not pass is reported, whatever the variables of later checks hold
(`stops_at_first_fault`).
-/

namespace SignOn

/-- The environment in which variables have texts. -/
def Environment.ofTexts (entries : List (String × String)) : Environment where
  entries := entries.map fun (name, text) => (name, Octets.ofText text)

private theorem lookup_reverse_map (entries : List (String × String)) (name : String) :
    (entries.map fun (name, text) => (name, Octets.ofText text)).reverse.lookup name =
      (Parameter.last? name entries).map Octets.ofText := by
  induction entries with
  | nil => rfl
  | cons entry entries ih =>
    obtain ⟨source, text⟩ := entry
    rw [List.map_cons, List.reverse_cons, List.lookup_append, ih, Parameter.last?_cons,
      Option.map_or, List.lookup_cons]
    by_cases hname : source = name
    · simp [hname]
    · rw [if_neg hname, show (name == source) = false from beq_false_of_ne (Ne.symm hname)]
      rfl

/-- A variable has the text of its last entry. -/
theorem Environment.text?_ofTexts (entries : List (String × String)) (name : String) :
    (ofTexts entries).text? name = Parameter.last? name entries := by
  rw [text?, ofTexts, lookup_reverse_map, Option.bind_map]
  simp [Octets.text?_ofText]

namespace Startup

/-! ## Parts that make one check -/

private theorem makes_client (env : Environment) :
    Makes env.text? [.consumerKey] (client env) := by
  rw [client, OAuthClient.ofEnvironment]
  cases hkey : env.text? OAuthClient.keyVariable with
  | none => exact .of_reports hkey .keyUnset
  | some key => exact .of_passes .consumerKey hkey trivial

private theorem makes_cipher (env : Environment) :
    Makes env.text? [.cookieSecret] (cipher env) := by
  rw [cipher]
  cases hsecret : env.text? "FORCE_COOKIE_SECRET" with
  | none => exact .of_reports hsecret .secretUnset
  | some secret =>
    dsimp only
    rw [Cipher.ofSecret, Octets.length_ofText]
    split
    · next hshort => exact .of_reports hsecret (.secretShort hshort)
    · next hlong => exact .of_passes .cookieSecret hsecret (Nat.not_lt.mp hlong)

private theorem makes_trustsProxy (env : Environment) :
    Makes env.text? [.trustProxy] (trustsProxy env) := by
  rw [trustsProxy]
  cases htext : env.text? "FORCE_TRUST_PROXY" with
  | none => exact .of_passes .trustProxy htext trivial
  | some text =>
    dsimp only [Option.map_some]
    split
    · next htrue => exact .of_passes .trustProxy htext (.inl htrue)
    · next htrue =>
      split
      · next hfalse => exact .of_passes .trustProxy htext (.inr hfalse)
      · next hfalse => exact .of_reports htext (.noTruth htrue hfalse)

private theorem makes_publicOrigin (env : Environment) :
    Makes env.text? [.publicOrigin] (publicOrigin env) := by
  rw [publicOrigin]
  cases htext : env.text? "FORCE_PUBLIC_ORIGIN" with
  | none => exact .of_passes .publicOrigin htext trivial
  | some text =>
    dsimp only
    rw [SiteOrigin.ofText]
    cases hurl : Url.parse text with
    | error e => exact .of_reports htext (.noUrl hurl)
    | ok url =>
      dsimp only
      cases hhost : url.hostText? with
      | none => exact .of_reports htext (.noHost hurl hhost)
      | some host => exact .of_passes .publicOrigin htext ⟨url, host, hurl, hhost⟩

/-! ## Parts that read parameters -/

section Parameters

variable {σ : Type} {fields : List (Parameter.Field σ)}
  {update : σ → String × String → Except Error σ} {field : Parameter.Field σ}
  {env : Environment} {source : String} {checks others : List Check}

/-- Work that is done in two parts is reported as one. -/
private theorem during_bind {α β : Type} (doing : String) (r : Except Error α)
    (k : α → Except Error β) :
    during doing (r >>= k) = during doing r >>= fun a => during doing (k a) := by
  cases r <;> rfl

/-- Reading the parameter of one variable. -/
private theorem foldlM_renamed_singleton (h : Parameter.IsRecord fields update)
    (hfield : field ∈ fields) (s : σ) :
    (env.renamed [(source, field.name)]).foldlM update s =
      match env.text? source with
      | none => .ok s
      | some value => (field.kind.read field.name value).map (field.set · s) := by
  cases htext : env.text? source with
  | none =>
    simp only [Environment.renamed, List.filterMap_cons, htext]
    rfl
  | some value =>
    simp only [Environment.renamed, List.filterMap_cons, htext, Option.map_some,
      List.filterMap_nil, List.foldlM_cons, h.update_field field hfield]
    cases field.kind.read field.name value <;> rfl

/-- A parameter whose variable is in order, or not set, is no fault. -/
private theorem makes_nothing (h : Parameter.IsRecord fields update) (hfield : field ∈ fields)
    (hadmits : ∀ value ∈ env.text? source, field.kind.Admits value) (doing : String) (s : σ) :
    Makes env.text? []
      (during doing ((env.renamed [(source, field.name)]).foldlM update s)) := by
  rw [foldlM_renamed_singleton h hfield]
  cases htext : env.text? source with
  | none => exact .ok
  | some value =>
    obtain ⟨a, ha⟩ := (Parameter.Kind.admits_iff field.name).mp (hadmits value htext)
    dsimp only
    rw [ha]
    exact .ok

/-- A parameter that a variable may hold is one check, which an unset variable passes. -/
private theorem makes_parameter (h : Parameter.IsRecord fields update) (hfield : field ∈ fields)
    {c : Check} {doing : String} (hunset : c.Passes none)
    (hadmits : ∀ value, field.kind.Admits value → c.Passes (some value))
    (hfaulty : ∀ value e, field.kind.Faulty field.name value e →
      c.Reports (some value) (failure doing e)) (s : σ) :
    Makes env.text? [c]
      (during doing ((env.renamed [(c.source, field.name)]).foldlM update s)) := by
  rw [foldlM_renamed_singleton h hfield]
  cases htext : env.text? c.source with
  | none => exact .of_passes c htext hunset
  | some value =>
    dsimp only
    cases hread : field.kind.read field.name value with
    | ok a =>
      exact .of_passes c htext (hadmits value ⟨a, Parameter.Kind.read_eq_ok_iff.mp hread⟩)
    | error e =>
      exact .of_reports htext (hfaulty value e (Parameter.Kind.read_eq_error_iff.mp hread))

/-- Parameters are read one after the other. -/
private theorem makes_cons {v : String × String} {vs : List (String × String)} {doing : String}
    (hfirst : ∀ s, Makes env.text? checks
      (during doing ((env.renamed [v]).foldlM update s)))
    (hrest : ∀ s, Makes env.text? others
      (during doing ((env.renamed vs).foldlM update s))) (s : σ) :
    Makes env.text? (checks ++ others)
      (during doing ((env.renamed (v :: vs)).foldlM update s)) := by
  have hrenamed : env.renamed (v :: vs) = env.renamed [v] ++ env.renamed vs :=
    List.filterMap_append (l := [v])
  rw [hrenamed, List.foldlM_append, during_bind]
  exact (hfirst s).bind fun _ => hrest

end Parameters

/-- The gate's list of paths is never at fault. -/
private theorem makes_gate (env : Environment) :
    Makes env.text? [.storageMethod, .apiVersion] (gate env) := by
  have hparameters : Makes env.text? [.storageMethod, .apiVersion]
      (during "reading auth filter configuration" (GateSettings.ofEnvironment env)) := by
    refine makes_cons (makes_parameter (c := .storageMethod) GateSettings.isRecord
      List.mem_cons_self trivial (fun _ => id) fun | _, _, .method h => .noMethod h) ?_ _
    refine makes_cons (makes_nothing GateSettings.isRecord
      (List.mem_cons_of_mem _ List.mem_cons_self) (fun value _ => ?_) _) ?_
    · exact (Parameter.Kind.admits_iff "excludedPaths").mpr ⟨_, rfl⟩
    · exact makes_cons (makes_parameter (c := .apiVersion) GateSettings.isRecord
        (List.mem_cons_of_mem _ (List.mem_cons_of_mem _ List.mem_cons_self)) trivial (fun _ => id)
        fun | _, _, .text h => .blankVersion h) fun _ => .ok
  have hgate : gate env = (during "reading auth filter configuration"
      (GateSettings.ofEnvironment env)).map fun settings => { settings with excludedPaths } := by
    rw [gate]
    cases GateSettings.ofEnvironment env <;> rfl
  rw [hgate]
  exact hparameters.map _

/-- The storage method has passed the gate's check when the logout filter reads it again. -/
private theorem makes_logout (env : Environment)
    (hmethod : Check.storageMethod.Passes (env.text? Check.storageMethod.source)) :
    Makes env.text? [.logoutFromProvider, .logoutTarget] (logout env) := by
  refine makes_cons (makes_parameter (c := .logoutFromProvider) LogoutSettings.isRecord
    List.mem_cons_self trivial (fun _ => id) fun | _, _, .flag h => .noFlag h) ?_ _
  refine makes_cons (makes_parameter (c := .logoutTarget) LogoutSettings.isRecord
    (List.mem_cons_of_mem _ List.mem_cons_self) trivial (fun _ => id)
    fun | _, _, .text h => .blankTarget h) ?_
  refine makes_cons (makes_nothing LogoutSettings.isRecord
    (List.mem_cons_of_mem _ (List.mem_cons_of_mem _ List.mem_cons_self)) (fun value hvalue => ?_) _)
    fun _ => .ok
  rw [show env.text? Check.storageMethod.source = some value from hvalue] at hmethod
  exact hmethod

/-- The parts of starting up make all checks, in their order. -/
private theorem makes_application (env : Environment) :
    Makes env.text? Check.inOrder (application env) := by
  refine (makes_client env).bind fun _ _ => ?_
  refine (makes_cipher env).bind fun _ _ => ?_
  refine (makes_trustsProxy env).bind fun _ _ => ?_
  refine (makes_publicOrigin env).bind fun _ _ => ?_
  refine (makes_gate env).bind fun hgate _ => ?_
  exact (makes_logout env (hgate _ List.mem_cons_self)).bind fun _ _ => .ok

/-! ## The whole start -/

/-- Start-up gets as far as binding its address: if it fails at all, the address is at fault. -/
def ReachesBinding (env : Environment) : Prop :=
  ∀ f, start env = .error f → f.doing = "binding " ++ address env

section Reaching

variable {env : Environment} {app : Application} {f : Failure}

private theorem doing_of_checkAddress {address : String}
    (h : checkAddress address = .error f) : f.doing = "binding " ++ address := by
  rw [checkAddress] at h
  split at h
  · cases h
    rfl
  · split at h
    · cases h
    · cases h
      rfl

private theorem reachesBinding_of_application (h : application env = .ok app) :
    ReachesBinding env := by
  intro f hf
  have hstart : start env = checkAddress (address env) >>= fun _ => pure (app, address env) := by
    rw [start, h]
    rfl
  rw [hstart] at hf
  cases haddress : checkAddress (address env) with
  | ok _ =>
    rw [haddress] at hf
    cases hf
  | error g =>
    rw [haddress] at hf
    cases hf
    exact doing_of_checkAddress haddress

private theorem start_of_application (h : application env = .error f) : start env = .error f := by
  rw [start, h]
  rfl

/-- The address is bound once the application is complete. -/
theorem reachesBinding_iff : ReachesBinding env ↔ ∃ app, application env = .ok app := by
  refine ⟨fun h => ?_, fun ⟨_, happ⟩ => reachesBinding_of_application happ⟩
  cases happ : application env with
  | ok app => exact ⟨app, rfl⟩
  | error f =>
    -- A failed check would have to be reported as the address is, and none of them is.
    obtain ⟨_, _, _, _, _, hc⟩ := (makes_application env).reports f happ
    exact absurd (h f (start_of_application happ)) (hc.doing_ne _)

/-- A failure before the address is bound is one of the application. -/
theorem start_eq_error_iff :
    start env = .error f ∧ ¬ ReachesBinding env ↔ application env = .error f := by
  rw [reachesBinding_iff]
  cases happ : application env with
  | ok app => exact ⟨fun h => absurd ⟨app, rfl⟩ h.2, fun h => nomatch h⟩
  | error g =>
    rw [start_of_application happ, Except.error.injEq, Except.error.injEq]
    refine ⟨And.left, fun h => ⟨h, ?_⟩⟩
    rintro ⟨_, ⟨⟩⟩

end Reaching

/-- How start-up goes in an environment of texts. -/
structure StopsAtFirstFault (entries : List (String × String)) : Prop where
  /-- The address is reached exactly if all checks pass. -/
  reaches_iff : ReachesBinding (.ofTexts entries) ↔
    ∀ c ∈ Check.inOrder, c.Passes (Parameter.last? c.source entries)
  /-- Otherwise the first check that does not pass is reported. -/
  fails_iff : ∀ f, start (.ofTexts entries) = .error f ∧ ¬ ReachesBinding (.ofTexts entries) ↔
    IsFirstFault (Parameter.last? · entries) Check.inOrder f
  /-- The variables of later checks, and all others, do not count then. -/
  depends : ∀ before c after others, Check.inOrder = before ++ c :: after →
    (∀ b ∈ before, b.Passes (Parameter.last? b.source entries)) →
    ¬ c.Passes (Parameter.last? c.source entries) →
    (∀ b ∈ before ++ [c], Parameter.last? b.source others = Parameter.last? b.source entries) →
    start (.ofTexts others) = start (.ofTexts entries)

/-- **Start-up stops at the first fault.** In every environment of texts the address is bound if and
only if the eight checks pass; otherwise the first one that does not pass is reported, and so it is
in every environment that agrees on the variables up to that one. -/
theorem stops_at_first_fault (entries : List (String × String)) : StopsAtFirstFault entries := by
  have hmakes (entries : List (String × String)) : Makes (Parameter.last? · entries) Check.inOrder
      (application (.ofTexts entries)) := by
    have htexts : (Environment.ofTexts entries).text? = (Parameter.last? · entries) :=
      funext (Environment.text?_ofTexts entries)
    rw [← htexts]
    exact makes_application _
  refine ⟨?_, fun f => ?_, fun before c after others hchecks hbefore hc hagree => ?_⟩
  · rw [reachesBinding_iff, (hmakes entries).exists_ok_iff]
  · rw [start_eq_error_iff, (hmakes entries).eq_error_iff]
  · obtain ⟨f, hf, hothers⟩ :=
      (hmakes entries).fails_alike (hmakes others) hchecks hbefore hc hagree
    rw [start_of_application hf, start_of_application hothers]

end Startup

end SignOn
