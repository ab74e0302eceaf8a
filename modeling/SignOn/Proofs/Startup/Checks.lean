import SignOn.Proofs.Config.Values
import SignOn.Startup

/-!
# Checks at start-up

Starting up looks at eight variables, one after the other. A check says what its variable has to
hold (`Check.Passes`) and what is reported otherwise (`Check.Reports`). A part of starting up that
makes some checks in order (`Makes`) succeeds exactly if all of them pass, and else reports the
first one that does not.
-/

namespace SignOn.Startup

/-- What is looked at when the application starts. -/
inductive Check where
  | consumerKey
  | cookieSecret
  | trustProxy
  | publicOrigin
  | storageMethod
  | apiVersion
  | logoutFromProvider
  | logoutTarget

namespace Check

/-- The variable that a check looks at. -/
def source : Check → String
  | consumerKey => "FORCE_CONSUMER_KEY"
  | cookieSecret => "FORCE_COOKIE_SECRET"
  | trustProxy => "FORCE_TRUST_PROXY"
  | publicOrigin => "FORCE_PUBLIC_ORIGIN"
  | storageMethod => "FORCE_SECURITY_CONTEXT_STORAGE_METHOD"
  | apiVersion => "FORCE_API_VERSION"
  | logoutFromProvider => "FORCE_LOGOUT_FROM_FORCE_DOT_COM"
  | logoutTarget => "FORCE_LOGOUT_SUCCESS_URL"

/-- The order of the checks. -/
def inOrder : List Check :=
  [consumerKey, cookieSecret, trustProxy, publicOrigin, storageMethod, apiVersion,
    logoutFromProvider, logoutTarget]

/-- What the variable has to hold. Only the key and the secret have to be set. -/
def Passes : Check → Option String → Prop
  | consumerKey, none => False
  | cookieSecret, none => False
  | _, none => True
  | consumerKey, some _ => True
  | cookieSecret, some secret => 16 ≤ secret.utf8ByteSize
  | trustProxy, some text => Text.trim text = "true" ∨ Text.trim text = "false"
  | publicOrigin, some text => ∃ url host, Url.parse text = .ok url ∧ url.hostText? = some host
  | storageMethod, some text => Parameter.Kind.method.Admits text
  | apiVersion, some text => Parameter.Kind.text.Admits text
  | logoutFromProvider, some text => Parameter.Kind.flag.Admits text
  | logoutTarget, some text => Parameter.Kind.text.Admits text

/-- What is reported if the variable holds something else: what was being done, the error and the
text of the error that set it off, if there is one. -/
inductive Reports : Check → Option String → Failure → Prop
  | keyUnset : Reports consumerKey none
      ⟨"reading OAuth configuration", ["Environment variable not set: FORCE_CONSUMER_KEY"]⟩
  | secretUnset : Reports cookieSecret none
      ⟨"FORCE_COOKIE_SECRET is not set", ["environment variable not found"]⟩
  | secretShort {secret : String} (h : secret.utf8ByteSize < 16) :
      Reports cookieSecret (some secret)
        ⟨"invalid FORCE_COOKIE_SECRET",
          ["Configuration error: cookie secret must be at least 16 bytes"]⟩
  | noTruth {text : String} (htrue : Text.trim text ≠ "true") (hfalse : Text.trim text ≠ "false") :
      Reports trustProxy (some text)
        ⟨"FORCE_TRUST_PROXY must be 'true' or 'false'",
          ["provided string was not `true` or `false`"]⟩
  | noUrl {text : String} {e : Url.ParseError} (h : Url.parse text = .error e) :
      Reports publicOrigin (some text)
        ⟨"invalid FORCE_PUBLIC_ORIGIN", ["Invalid URL: " ++ e.message, e.message]⟩
  | noHost {text : String} {url : Url} (h : Url.parse text = .ok url)
      (hhost : url.hostText? = none) :
      Reports publicOrigin (some text)
        ⟨"invalid FORCE_PUBLIC_ORIGIN", ["Invalid URL: " ++ (text ++ " has no host")]⟩
  | noMethod {text : String} (h : ¬ Parameter.Kind.method.Admits text) :
      Reports storageMethod (some text)
        ⟨"reading auth filter configuration",
          ["Configuration error: " ++ ("unknown security context storage method '" ++
            Text.lower (Text.trim text) ++ "' (expected 'cookie' or 'session')")]⟩
  | blankVersion {text : String} (h : ¬ Parameter.Kind.text.Admits text) :
      Reports apiVersion (some text)
        ⟨"reading auth filter configuration",
          ["Configuration error: apiVersion: must not be empty"]⟩
  | noFlag {text : String} (h : ¬ Parameter.Kind.flag.Admits text) :
      Reports logoutFromProvider (some text)
        ⟨"reading logout configuration",
          ["Configuration error: logoutFromForceDotCom: expected 'true' or 'false'"]⟩
  | blankTarget {text : String} (h : ¬ Parameter.Kind.text.Admits text) :
      Reports logoutTarget (some text)
        ⟨"reading logout configuration",
          ["Configuration error: logoutSuccessUrl: must not be empty"]⟩

variable {c : Check} {text? : Option String} {f g : Failure}

theorem Reports.not_passes (h : c.Reports text? f) : ¬ c.Passes text? := by
  cases h with
  | keyUnset => exact id
  | secretUnset => exact id
  | secretShort h => exact Nat.not_le.mpr h
  | noTruth htrue hfalse => exact not_or.mpr ⟨htrue, hfalse⟩
  | noUrl h =>
    rintro ⟨url, host, hurl, -⟩
    rw [h] at hurl
    cases hurl
  | noHost h hhost =>
    rintro ⟨url, host, hurl, hsome⟩
    rw [h] at hurl
    cases hurl
    rw [hhost] at hsome
    cases hsome
  | noMethod h => exact h
  | blankVersion h => exact h
  | noFlag h => exact h
  | blankTarget h => exact h

theorem Reports.unique (h : c.Reports text? f) (h' : c.Reports text? g) : f = g := by
  cases h with
  | noUrl h =>
    cases h' with
    | noUrl h' =>
      rw [h] at h'
      rw [Except.error.inj h']
    | noHost h' _ =>
      rw [h] at h'
      cases h'
  | noHost h _ =>
    cases h' with
    | noUrl h' =>
      rw [h] at h'
      cases h'
    | noHost _ _ => rfl
  | _ =>
    cases h'
    rfl

/-- No check is reported as the address to listen at is. -/
theorem Reports.doing_ne (h : c.Reports text? f) (address : String) :
    f.doing ≠ "binding " ++ address := by
  have hfirst : f.doing.toList.head? ≠ some 'b' := by
    cases h <;> dsimp only <;> decide
  intro heq
  rw [heq, String.toList_append] at hfirst
  exact hfirst rfl

end Check

/-- The report of the first of some checks that does not pass. -/
def IsFirstFault (texts : String → Option String) (checks : List Check) (f : Failure) : Prop :=
  ∃ before c after, checks = before ++ c :: after ∧
    (∀ b ∈ before, b.Passes (texts b.source)) ∧ c.Reports (texts c.source) f

/-- What starting up makes of some checks: it goes on if all of them pass, else it reports the first
one that does not. -/
structure Makes {α : Type} (texts : String → Option String) (checks : List Check)
    (result : Except Failure α) : Prop where
  passes : ∀ a, result = .ok a → ∀ c ∈ checks, c.Passes (texts c.source)
  reports : ∀ f, result = .error f → IsFirstFault texts checks f

/-- The first element without a property is one and the same in each split of a list. -/
private theorem eq_of_append_cons {α : Type} {P : α → Prop} {before before' after after' : List α}
    {c c' : α} (heq : before ++ c :: after = before' ++ c' :: after') (hbefore : ∀ b ∈ before, P b)
    (hbefore' : ∀ b ∈ before', P b) (hc : ¬ P c) (hc' : ¬ P c') : c = c' := by
  classical
  have hfirst : (before ++ c :: after).find? (fun a => ¬ P a) = some c :=
    List.find?_eq_some_iff_append.mpr
      ⟨by simpa using hc, before, after, rfl, by simpa using hbefore⟩
  have hfirst' : (before ++ c :: after).find? (fun a => ¬ P a) = some c' :=
    List.find?_eq_some_iff_append.mpr
      ⟨by simpa using hc', before', after', heq, by simpa using hbefore'⟩
  exact Option.some.inj (hfirst.symm.trans hfirst')

/-- Nothing but the first check that does not pass is reported. -/
theorem IsFirstFault.reports {texts : String → Option String} {before after : List Check}
    {c : Check} {f : Failure} (h : IsFirstFault texts (before ++ c :: after) f)
    (hbefore : ∀ b ∈ before, b.Passes (texts b.source)) (hc : ¬ c.Passes (texts c.source)) :
    c.Reports (texts c.source) f := by
  obtain ⟨before', c', after', heq, hbefore', hc'⟩ := h
  obtain rfl : c = c' := eq_of_append_cons heq hbefore hbefore' hc hc'.not_passes
  exact hc'

theorem IsFirstFault.unique {texts : String → Option String} {checks : List Check} {f g : Failure}
    (hf : IsFirstFault texts checks f) (hg : IsFirstFault texts checks g) : f = g := by
  obtain ⟨before, c, after, rfl, hbefore, hc⟩ := hf
  exact hc.unique (hg.reports hbefore hc.not_passes)

namespace Makes

variable {α β : Type} {texts texts' : String → Option String} {checks others : List Check}
  {c : Check} {text? : Option String} {r : Except Failure α} {f : Failure}

/-- A part that makes no check goes on. -/
theorem ok {a : α} : Makes texts [] (.ok a) where
  passes _ _ _ hc := absurd hc List.not_mem_nil
  reports _ h := by cases h

theorem of_passes (c : Check) (htext : texts c.source = text?) (h : c.Passes text?)
    {a : α} : Makes texts [c] (.ok a) where
  passes _ _ := List.forall_mem_singleton.mpr (htext ▸ h)
  reports _ h := by cases h

theorem of_isFirstFault (h : IsFirstFault texts checks f) :
    Makes texts checks (.error f : Except Failure α) where
  passes _ h := by cases h
  reports g hg := by
    obtain rfl : f = g := Except.error.inj hg
    exact h

theorem of_reports (htext : texts c.source = text?) (h : c.Reports text? f) :
    Makes texts [c] (.error f : Except Failure α) :=
  .of_isFirstFault ⟨[], c, [], rfl, fun _ hb => absurd hb List.not_mem_nil, htext ▸ h⟩

/-- What comes after a part makes its checks after those of the part, which have passed by then. -/
theorem bind (h : Makes texts checks r) {k : α → Except Failure β}
    (hk : (∀ c ∈ checks, c.Passes (texts c.source)) → ∀ a, Makes texts others (k a)) :
    Makes texts (checks ++ others) (r >>= k) := by
  cases r with
  | error f =>
    obtain ⟨before, c, after, rfl, hbefore, hc⟩ := h.reports f rfl
    exact .of_isFirstFault ⟨before, c, after ++ others, List.append_assoc .., hbefore, hc⟩
  | ok a =>
    have hpassed := h.passes a rfl
    refine ⟨fun b hb => List.forall_mem_append.mpr ⟨hpassed, (hk hpassed a).passes b hb⟩,
      fun g hg => ?_⟩
    obtain ⟨before, c, after, rfl, hbefore, hc⟩ := (hk hpassed a).reports g hg
    exact ⟨checks ++ before, c, after, (List.append_assoc ..).symm,
      List.forall_mem_append.mpr ⟨hpassed, hbefore⟩, hc⟩

theorem map (h : Makes texts checks r) (g : α → β) : Makes texts checks (r.map g) := by
  cases r with
  | ok a => exact ⟨fun _ _ => h.passes a rfl, fun _ hf => by cases hf⟩
  | error f => exact .of_isFirstFault (h.reports f rfl)

/-- Starting up goes on exactly if all checks pass. -/
theorem exists_ok_iff (h : Makes texts checks r) :
    (∃ a, r = .ok a) ↔ ∀ c ∈ checks, c.Passes (texts c.source) := by
  refine ⟨fun ⟨a, ha⟩ => h.passes a ha, fun hpass => ?_⟩
  cases r with
  | ok a => exact ⟨a, rfl⟩
  | error f =>
    obtain ⟨before, c, after, rfl, -, hc⟩ := h.reports f rfl
    exact absurd (hpass c List.mem_append_cons_self) hc.not_passes

/-- Starting up fails with the report of the first check that does not pass. -/
theorem eq_error_iff (h : Makes texts checks r) :
    r = .error f ↔ IsFirstFault texts checks f := by
  refine ⟨h.reports f, fun hf => ?_⟩
  cases r with
  | ok a =>
    obtain ⟨before, c, after, rfl, -, hc⟩ := hf
    exact absurd (h.passes a rfl c List.mem_append_cons_self) hc.not_passes
  | error g => rw [(h.reports g rfl).unique hf]

/-- What is reported depends on the variables up to that of the first check that does not pass. -/
theorem fails_alike {r' : Except Failure β} (h : Makes texts checks r) (h' : Makes texts' checks r')
    {before after : List Check} (hchecks : checks = before ++ c :: after)
    (hbefore : ∀ b ∈ before, b.Passes (texts b.source)) (hc : ¬ c.Passes (texts c.source))
    (hagree : ∀ b ∈ before ++ [c], texts' b.source = texts b.source) :
    ∃ f, r = .error f ∧ r' = .error f := by
  obtain ⟨hsame, hsamec⟩ := List.forall_mem_append.mp hagree
  cases r with
  | ok a =>
    exact absurd (h.passes a rfl c (hchecks ▸ List.mem_append_cons_self)) hc
  | error f =>
    have hreports : c.Reports (texts c.source) f :=
      (hchecks ▸ h.reports f rfl).reports hbefore hc
    refine ⟨f, rfl, h'.eq_error_iff.mpr ⟨before, c, after, hchecks, fun b hb => ?_, ?_⟩⟩
    · rw [hsame b hb]
      exact hbefore b hb
    · rw [List.forall_mem_singleton.mp hsamec]
      exact hreports

end Makes

end SignOn.Startup
