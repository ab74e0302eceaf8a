import SignOn.Proofs.Deployment.Basic
import SignOn.Proofs.Gate.Callback
import SignOn.Proofs.Gate.Passage

/-!
# What a callback decides

On the callback path the gate does up to four things: it exchanges a code for a token, looks up the
user of the token, saves the context of both and caches its connection. `Decides` says when each of
them is done, in terms of the pairs of the query and of the answers on the way, and that nothing
else happens: the calls, the state and the cookies that a callback leaves are those of the things
that it did. The browser is sent on exactly if the last of them was reached.
-/

namespace SignOn

namespace Form

/-- The values of a name, in order. -/
def values (name : String) (pairs : List (String × String)) : List String :=
  (pairs.filter (·.1 = name)).map Prod.snd

/-- A name that occurs at most once has the first of its values. -/
theorem single?_eq (name : String) (pairs : List (String × String)) :
    single? name pairs =
      if (values name pairs).length ≤ 1 then some (values name pairs).head? else none := by
  rw [single?, values]
  generalize pairs.filter (·.1 = name) = found
  match found with
  | [] => rfl
  | [pair] => rfl
  | pair :: other :: rest => simp

end Form

namespace Gate

/-! ## The query -/

/-- The names of the parameters that a callback reads. -/
def parameterNames : List String := ["code", "state", "error"]

/-- The values that the query of a request has for a name; without a query there are none. -/
def sent (request : Http.Request) (name : String) : List String :=
  Form.values name ((request.target.query.map Form.decode).getD [])

/-- Whether a query has a parameter more than once. -/
def Repeats (request : Http.Request) : Prop :=
  ∃ name ∈ parameterNames, 1 < (sent request name).length

/-- Whether a query has neither a code nor an error. -/
def IsSilent (request : Http.Request) : Prop :=
  sent request "code" = [] ∧ sent request "error" = []

instance (request : Http.Request) : Decidable (Repeats request) := List.decidableBEx _ _

instance (request : Http.Request) : Decidable (IsSilent request) :=
  inferInstanceAs (Decidable (_ ∧ _))

/-- Whether a query asks for a code to be exchanged: it has this code only, no error and at most one
state. -/
def AsksFor (request : Http.Request) (code : String) : Prop :=
  sent request "code" = [code] ∧ sent request "error" = [] ∧ (sent request "state").length ≤ 1

/-- The code that a callback exchanges. -/
def asked? (request : Http.Request) : Option String :=
  match (callbackParameters request.target.query).error,
    (callbackParameters request.target.query).code with
  | none, some code => some code
  | _, _ => none

variable {request : Http.Request} {code : String}

private theorem length_sent_le (h : ¬ Repeats request) :
    (sent request "code").length ≤ 1 ∧ (sent request "state").length ≤ 1 ∧
      (sent request "error").length ≤ 1 := by
  have honce : ∀ name ∈ parameterNames, (sent request name).length ≤ 1 := fun name hn =>
    Nat.le_of_not_lt fun hlt => h ⟨name, hn, hlt⟩
  simpa [parameterNames] using honce

/-- A query that repeats no parameter has the first value of each. -/
theorem callbackParameters_of_not_repeats (h : ¬ Repeats request) :
    callbackParameters request.target.query = {
      code := (sent request "code").head?
      state := (sent request "state").head?
      error := (sent request "error").head? } := by
  obtain ⟨hcode, hstate, herror⟩ := length_sent_le h
  rw [sent] at hcode hstate herror
  simp only [callbackParameters, Form.single?_eq, if_pos hcode, if_pos hstate, if_pos herror, sent]

/-- None of the parameters counts if one of them is repeated. -/
theorem callbackParameters_of_repeats (h : Repeats request) :
    callbackParameters request.target.query = {} := by
  obtain ⟨name, hn, hlt⟩ := h
  have hnone : Form.single? name ((request.target.query.map Form.decode).getD []) = none := by
    rw [Form.single?_eq]
    exact if_neg (Nat.not_le_of_lt hlt)
  rw [callbackParameters]
  split
  · next hcode hstate herror =>
    simp only [parameterNames, List.mem_cons, List.not_mem_nil, or_false] at hn
    rcases hn with rfl | rfl | rfl
    · cases hcode.symm.trans hnone
    · cases hstate.symm.trans hnone
    · cases herror.symm.trans hnone
  · rfl

/-- A query that asks for a code repeats no parameter. -/
private theorem not_repeats_of_asksFor (h : AsksFor request code) : ¬ Repeats request := by
  obtain ⟨hcode, herror, hstate⟩ := h
  rintro ⟨name, hn, hlt⟩
  simp only [parameterNames, List.mem_cons, List.not_mem_nil, or_false] at hn
  rcases hn with rfl | rfl | rfl
  · simp [hcode] at hlt
  · omega
  · simp [herror] at hlt

/-- The code that is exchanged is the one that the query asks for. -/
theorem asked?_eq_some_iff : asked? request = some code ↔ AsksFor request code := by
  by_cases hr : Repeats request
  · refine iff_of_false (fun h => ?_) fun h => not_repeats_of_asksFor h hr
    rw [asked?, callbackParameters_of_repeats hr] at h
    cases h
  · obtain ⟨hcode, hstate, herror⟩ := length_sent_le hr
    rw [asked?, callbackParameters_of_not_repeats hr, AsksFor, and_iff_left hstate]
    match hc : sent request "code", he : sent request "error" with
    | _, error :: errors => simp
    | [], [] => simp
    | [only], [] => simp
    | first :: second :: rest, [] => simp [hc] at hcode

/-! ## What is done -/

/-- What a callback does besides answering. -/
inductive Deed where
  | exchanges (code redirectUri : String)
  | looksUp (token : Token)
  | saves (context : SecurityContext)
  | caches (context : SecurityContext)

namespace Deed

/-- The stage of a callback at which something is done. -/
def stage : Deed → Nat
  | exchanges _ _ => 0
  | looksUp _ => 1
  | saves _ => 2
  | caches _ => 3

/-- The calls of the backend that something needs. -/
def calls : Deed → List BackendCall
  | exchanges code redirectUri => [.exchangeCode code redirectUri]
  | looksUp token => [.userRecord token]
  | saves _ => []
  | caches _ => []

/-- What something does to the state and to the cookies of the response. -/
def perform (settings : GateSettings) (site : Site) (occasion : Occasion) (request : Http.Request)
    (reached : SharedState × Http.Headers) : Deed → SharedState × Http.Headers
  | exchanges _ _ => reached
  | looksUp _ => reached
  | saves context =>
    let stored := (site.storage settings.storageMethod).save reached.1.sessions occasion.now
      occasion.fresh request.headers reached.2 context
    ({ reached.1 with sessions := stored.sessions }, stored.cookies)
  | caches context =>
    ({ reached.1 with connections := reached.1.connections.put occasion.now context }, reached.2)

end Deed

/-- The state and the cookies after all that was done, beginning without cookies. -/
def performed (settings : GateSettings) (site : Site) (occasion : Occasion) (request : Http.Request)
    (state : SharedState) (deeds : List Deed) : SharedState × Http.Headers :=
  deeds.foldl (Deed.perform settings site occasion request) (state, .empty)

/-- The code and the redirect URI that are sent to the provider. -/
def exchanged? (site : Site) (request : Http.Request) : Option (String × String) := do
  let code ← asked? request
  let redirectUri ← (site.client.redirectUri (site.origin request.headers)).toOption
  pure (code, redirectUri)

/-- The token that a callback gets. -/
def token? (site : Site) (occasion : Occasion) (request : Http.Request) : Option Token := do
  let (code, redirectUri) ← exchanged? site request
  (occasion.backend.exchangeCode code redirectUri).toOption

/-- The context whose connection a callback caches. -/
def cached? (settings : GateSettings) (site : Site) (occasion : Occasion) (request : Http.Request)
    (state : SharedState) : Option SecurityContext :=
  (built? settings site occasion request).filter fun context =>
    (saved settings site occasion request state context).outcome.toOption.isSome

/-- What a callback does. -/
def deeds (settings : GateSettings) (site : Site) (occasion : Occasion) (request : Http.Request)
    (state : SharedState) : List Deed :=
  ((exchanged? site request).map fun sent => .exchanges sent.1 sent.2).toList ++
    ((token? site occasion request).map .looksUp).toList ++
    ((built? settings site occasion request).map .saves).toList ++
    ((cached? settings site occasion request state).map .caches).toList

variable {settings : GateSettings} {site : Site} {occasion : Occasion} {state : SharedState}

/-- A context is built from the token that a callback gets. -/
theorem built?_eq : built? settings site occasion request = (token? site occasion request).bind
    fun token => (occasion.backend.userRecord token).toOption.bind fun user =>
      (token.toContext user settings.apiVersion).toOption := by
  have hasked : built? settings site occasion request =
      (asked? request).bind (granted? settings site occasion request.headers) := by
    rw [built?, asked?]
    cases (callbackParameters request.target.query).error with
    | some error => rfl
    | none =>
      cases (callbackParameters request.target.query).code with
      | none => rfl
      | some code => rfl
  rw [hasked, token?, exchanged?]
  simp only [Option.bind_eq_bind, Option.bind_assoc, Option.pure_def, Option.bind_some]
  rfl

private theorem exchanged?_eq_some_iff {redirectUri : String} :
    exchanged? site request = some (code, redirectUri) ↔
      AsksFor request code ∧
        site.client.redirectUri (site.origin request.headers) = .ok redirectUri := by
  simp [exchanged?, Option.bind_eq_some_iff, asked?_eq_some_iff, toOption_eq_some_iff]

private theorem token?_eq_some_iff {token : Token} :
    token? site occasion request = some token ↔ ∃ code redirectUri,
      exchanged? site request = some (code, redirectUri) ∧
        occasion.backend.exchangeCode code redirectUri = .ok token := by
  simp only [token?, Option.bind_eq_bind, Option.bind_eq_some_iff, Prod.exists,
    toOption_eq_some_iff]

private theorem built?_eq_some_iff {context : SecurityContext} :
    built? settings site occasion request = some context ↔ ∃ token user,
      token? site occasion request = some token ∧ occasion.backend.userRecord token = .ok user ∧
        token.toContext user settings.apiVersion = .ok context := by
  simp only [built?_eq, Option.bind_eq_some_iff, toOption_eq_some_iff, exists_and_left]

private theorem cached?_eq_some_iff {context : SecurityContext} :
    cached? settings site occasion request state = some context ↔
      built? settings site occasion request = some context ∧
        (saved settings site occasion request state context).outcome = .ok () := by
  have hunit : ∀ outcome : Except Error Unit,
      outcome.toOption.isSome = true ↔ outcome = .ok () := fun outcome => by
    cases outcome with
    | error e => simp [Except.toOption]
    | ok done => simp [Except.toOption]
  rw [cached?, Option.filter_eq_some_iff, hunit]

/-- Whether a login comes of what a callback does: it made these calls, left this state and these
cookies, and succeeded exactly if the connection is cached. -/
structure ComesOfDeeds (settings : GateSettings) (site : Site) (occasion : Occasion)
    (request : Http.Request) (state : SharedState) (login : Login) : Prop where
  calls : login.calls = (deeds settings site occasion request state).flatMap Deed.calls
  performed : performed settings site occasion request state
    (deeds settings site occasion request state) = (login.state, login.cookies)
  outcome : login.outcome.toOption = cached? settings site occasion request state

/-- With a token and a user it depends on the context and on whether it can be saved. -/
private theorem comesOfDeeds_enroll (state : SharedState) {redirectUri : String} {token : Token}
    {user : UserRecord} (hexchanged : exchanged? site request = some (code, redirectUri))
    (htoken : token? site occasion request = some token)
    (hu : occasion.backend.userRecord token = .ok user) :
    ComesOfDeeds settings site occasion request state
      (enroll settings site occasion request.headers state
        [.exchangeCode code redirectUri, .userRecord token] token user) := by
  cases hc : token.toContext user settings.apiVersion with
  | error e =>
    have hbuilt : built? settings site occasion request = none := by
      simp [built?_eq, htoken, hu, hc, Except.toOption]
    have hcached : cached? settings site occasion request state = none := by simp [cached?, hbuilt]
    have hdeeds : deeds settings site occasion request state =
        [.exchanges code redirectUri, .looksUp token] := by
      simp [deeds, hcached, hbuilt, htoken, hexchanged]
    constructor
    all_goals simp only [enroll, hc, hdeeds, hcached]; rfl
  | ok context =>
    have hbuilt : built? settings site occasion request = some context := by
      simp [built?_eq, htoken, hu, hc, Except.toOption]
    cases hs : (saved settings site occasion request state context).outcome with
    | error e =>
      have hcached : cached? settings site occasion request state = none := by
        simp [cached?, hbuilt, hs, Except.toOption]
      have hdeeds : deeds settings site occasion request state =
          [.exchanges code redirectUri, .looksUp token, .saves context] := by
        simp [deeds, hcached, hbuilt, htoken, hexchanged]
      rw [saved] at hs
      constructor
      all_goals simp only [enroll, hc, hs, hdeeds, hcached]; rfl
    | ok done =>
      have hcached : cached? settings site occasion request state = some context := by
        simp [cached?, hbuilt, hs, Except.toOption]
      have hdeeds : deeds settings site occasion request state =
          [.exchanges code redirectUri, .looksUp token, .saves context, .caches context] := by
        simp [deeds, hcached, hbuilt, htoken, hexchanged]
      rw [saved] at hs
      constructor
      all_goals simp only [enroll, hc, hs, hdeeds, hcached]; rfl

/-- Completing a login with the code that a query asks for comes of what the callback does. -/
theorem comesOfDeeds_authenticate (settings : GateSettings) (site : Site) (occasion : Occasion)
    (state : SharedState) (h : asked? request = some code) :
    ComesOfDeeds settings site occasion request state
      (authenticate settings site occasion request.headers state code) := by
  -- without a context the connection is not cached, and only the calls were made
  have hnone : built? settings site occasion request = none →
      cached? settings site occasion request state = none := fun hbuilt => by simp [cached?, hbuilt]
  cases hr : site.client.redirectUri (site.origin request.headers) with
  | error e =>
    have hexchanged : exchanged? site request = none := by
      simp [exchanged?, h, hr, Except.toOption]
    have hbuilt : built? settings site occasion request = none := by
      simp [built?_eq, token?, hexchanged]
    have hdeeds : deeds settings site occasion request state = [] := by
      simp [deeds, hnone hbuilt, hbuilt, token?, hexchanged]
    constructor
    all_goals simp only [authenticate, hr, hdeeds, hnone hbuilt]; rfl
  | ok redirectUri =>
    have hexchanged : exchanged? site request = some (code, redirectUri) := by
      simp [exchanged?, h, hr, Except.toOption]
    cases ht : occasion.backend.exchangeCode code redirectUri with
    | error e =>
      have htoken : token? site occasion request = none := by
        simp [token?, hexchanged, ht, Except.toOption]
      have hbuilt : built? settings site occasion request = none := by simp [built?_eq, htoken]
      have hdeeds : deeds settings site occasion request state = [.exchanges code redirectUri] := by
        simp [deeds, hnone hbuilt, hbuilt, htoken, hexchanged]
      constructor
      all_goals simp only [authenticate, hr, ht, hdeeds, hnone hbuilt]; rfl
    | ok token =>
      have htoken : token? site occasion request = some token := by
        simp [token?, hexchanged, ht, Except.toOption]
      cases hu : occasion.backend.userRecord token with
      | error e =>
        have hbuilt : built? settings site occasion request = none := by
          simp [built?_eq, htoken, hu, Except.toOption]
        have hdeeds : deeds settings site occasion request state =
            [.exchanges code redirectUri, .looksUp token] := by
          simp [deeds, hnone hbuilt, hbuilt, htoken, hexchanged]
        constructor
        all_goals simp only [authenticate, hr, ht, hu, hdeeds, hnone hbuilt]; rfl
      | ok user =>
        simp only [authenticate, hr, ht, hu]
        exact comesOfDeeds_enroll state hexchanged htoken hu

/-- What is done at each stage. -/
private theorem mem_deeds {deed : Deed} : deed ∈ deeds settings site occasion request state ↔
    match deed with
    | .exchanges code redirectUri => exchanged? site request = some (code, redirectUri)
    | .looksUp token => token? site occasion request = some token
    | .saves context => built? settings site occasion request = some context
    | .caches context => cached? settings site occasion request state = some context := by
  cases deed <;> simp [deeds, Option.map_eq_some_iff]

/-- What is done is done in the order of its stages, and once at each. -/
private theorem pairwise_deeds (settings : GateSettings) (site : Site) (occasion : Occasion)
    (request : Http.Request) (state : SharedState) :
    (deeds settings site occasion request state).Pairwise fun d e => d.stage < e.stage := by
  unfold deeds
  cases exchanged? site request <;> cases token? site occasion request <;>
    cases built? settings site occasion request <;>
    cases cached? settings site occasion request state <;> simp [Deed.stage]

/-- Without a code to exchange nothing is done. -/
private theorem deeds_of_not_asked (h : asked? request = none) :
    cached? settings site occasion request state = none ∧
      deeds settings site occasion request state = [] := by
  have hexchanged : exchanged? site request = none := by simp [exchanged?, h]
  have hbuilt : built? settings site occasion request = none := by
    simp [built?_eq, token?, hexchanged]
  have hcached : cached? settings site occasion request state = none := by simp [cached?, hbuilt]
  exact ⟨hcached, by simp [deeds, hcached, hbuilt, token?, hexchanged]⟩

/-- A query that repeats a parameter, or has neither a code nor an error, asks for no code. -/
private theorem asked?_of_malformed (h : Repeats request ∨ IsSilent request) :
    asked? request = none := by
  rw [Option.eq_none_iff_forall_ne_some]
  intro code hcode
  have hasks := asked?_eq_some_iff.mp hcode
  rcases h with hr | hs
  · exact not_repeats_of_asksFor hasks hr
  · rw [AsksFor, hs.1] at hasks
    cases hasks.1

/-- A callback that exchanges no code answers by what is wrong with the query. -/
private theorem callback_of_not_asked (settings : GateSettings) (site : Site) (occasion : Occasion)
    (holder : Holder) (state : SharedState) (h : asked? request = none) :
    ∃ body, callback settings site occasion request holder state = {
      response := Http.plainResponse
        (if Repeats request ∨ IsSilent request then 400 else 401) body
      state, holder } := by
  by_cases hr : Repeats request
  · have hparameters := callbackParameters_of_repeats hr
    rw [if_pos (.inl hr)]
    exact ⟨"missing authorization code", by simp only [callback, hparameters]⟩
  · have hparameters := callbackParameters_of_not_repeats hr
    rw [asked?, hparameters] at h
    cases he : sent request "error" with
    | cons error errors =>
      rw [if_neg (by simp [hr, IsSilent, he])]
      exact ⟨"authorization denied", by simp only [callback, hparameters, he, List.head?_cons]⟩
    | nil =>
      cases hc : sent request "code" with
      | cons code codes => simp [he, hc] at h
      | nil =>
        rw [if_pos (.inr ⟨hc, he⟩)]
        exact ⟨"missing authorization code", by
          simp only [callback, hparameters, he, hc, List.head?_nil]⟩

/-- A callback that exchanges a code answers by what comes of it. -/
private theorem callback_of_asked (settings : GateSettings) (site : Site) (occasion : Occasion)
    (holder : Holder) (state : SharedState) (h : asked? request = some code) :
    callback settings site occasion request holder state = {
      response :=
        if (cached? settings site occasion request state).isSome then
          Http.redirect (localTarget (sent request "state").head?)
            (performed settings site occasion request state
              (deeds settings site occasion request state)).2
        else Http.plainResponse 401 "authentication failed"
      calls := (deeds settings site occasion request state).flatMap Deed.calls
      state := (performed settings site occasion request state
        (deeds settings site occasion request state)).1
      holder } := by
  have hlogin := comesOfDeeds_authenticate settings site occasion state h
  have hasks := asked?_eq_some_iff.mp h
  have hparameters := callbackParameters_of_not_repeats (not_repeats_of_asksFor hasks)
  rw [hasks.1, hasks.2.1] at hparameters
  rw [← hlogin.calls, hlogin.performed, ← hlogin.outcome]
  simp only [callback, hparameters, List.head?_cons, List.head?_nil]
  cases (authenticate settings site occasion request.headers state code).outcome with
  | error e => rfl
  | ok context => rfl

/-- What a callback answers and leaves, from what it does. -/
theorem callback_eq (settings : GateSettings) (site : Site) (occasion : Occasion)
    (request : Http.Request) (holder : Holder) (state : SharedState) :
    ∃ body, callback settings site occasion request holder state = {
      response :=
        if (cached? settings site occasion request state).isSome then
          Http.redirect (localTarget (sent request "state").head?)
            (performed settings site occasion request state
              (deeds settings site occasion request state)).2
        else Http.plainResponse (if Repeats request ∨ IsSilent request then 400 else 401) body
      calls := (deeds settings site occasion request state).flatMap Deed.calls
      state := (performed settings site occasion request state
        (deeds settings site occasion request state)).1
      holder } := by
  cases ha : asked? request with
  | none =>
    obtain ⟨hcached, hdeeds⟩ := deeds_of_not_asked ha
    obtain ⟨body, hcallback⟩ := callback_of_not_asked settings site occasion holder state ha
    refine ⟨body, ?_⟩
    rw [hcallback, hcached, hdeeds]
    rfl
  | some code =>
    have hwellformed : ¬ (Repeats request ∨ IsSilent request) := fun h => by
      rw [asked?_of_malformed h] at ha
      cases ha
    rw [callback_of_asked settings site occasion holder state ha, if_neg hwellformed]
    exact ⟨_, rfl⟩

/-! ## The decision -/

/-- Whether a list tells what a callback has to do with a request. -/
structure Requires (settings : GateSettings) (site : Site) (occasion : Occasion)
    (request : Http.Request) (state : SharedState) (deeds : List Deed) : Prop where
  /-- A code is exchanged, a user looked up, a context saved and its connection cached, in this
  order and each at most once. -/
  ordered : deeds.Pairwise fun d e => d.stage < e.stage
  exchanges : ∀ code redirectUri, .exchanges code redirectUri ∈ deeds ↔
    AsksFor request code ∧ site.client.redirectUri (site.origin request.headers) = .ok redirectUri
  looksUp : ∀ token, .looksUp token ∈ deeds ↔ ∃ code redirectUri,
    .exchanges code redirectUri ∈ deeds ∧ occasion.backend.exchangeCode code redirectUri = .ok token
  saves : ∀ context, .saves context ∈ deeds ↔ ∃ token user, .looksUp token ∈ deeds ∧
    occasion.backend.userRecord token = .ok user ∧
      token.toContext user settings.apiVersion = .ok context
  caches : ∀ context, .caches context ∈ deeds ↔ .saves context ∈ deeds ∧
    (saved settings site occasion request state context).outcome = .ok ()
  /-- With an error nothing is done, whatever else the query has. -/
  refused : sent request "error" ≠ [] → deeds = []

/-- Whether a callback does what a list tells, and nothing else, and answers accordingly. -/
structure Decides (settings : GateSettings) (site : Site) (occasion : Occasion)
    (request : Http.Request) (state : SharedState) (deeds : List Deed) (served : Served) : Prop
    extends Requires settings site occasion request state deeds where
  calls : served.calls = deeds.flatMap Deed.calls
  leaves : served.state = (performed settings site occasion request state deeds).1
  /-- The browser is sent on exactly if all of it was done. -/
  sentOn : served.response.status = 302 ↔ ∃ context, .caches context ∈ deeds
  redirects : served.response.status = 302 → served.response =
    Http.redirect (localTarget (sent request "state").head?)
      (performed settings site occasion request state deeds).2
  /-- A query that repeats a parameter, or has neither a code nor an error, is a bad request. -/
  malformed : Repeats request ∨ IsSilent request → served.response.status = 400
  /-- Every other callback that does not come to its end is denied. -/
  denied : served.response.status ≠ 302 → ¬ (Repeats request ∨ IsSilent request) →
    served.response.status = 401

/-- What a callback does is what it has to do. -/
theorem requires_deeds (settings : GateSettings) (site : Site) (occasion : Occasion)
    (request : Http.Request) (state : SharedState) :
    Requires settings site occasion request state
      (deeds settings site occasion request state) where
  ordered := pairwise_deeds settings site occasion request state
  exchanges := fun code redirectUri => mem_deeds.trans exchanged?_eq_some_iff
  looksUp := fun token => by
    simp only [mem_deeds]
    exact token?_eq_some_iff
  saves := fun context => by
    simp only [mem_deeds]
    exact built?_eq_some_iff
  caches := fun context => by
    simp only [mem_deeds]
    exact cached?_eq_some_iff
  refused := fun herror => by
    cases ha : asked? request with
    | none => exact (deeds_of_not_asked ha).2
    | some code => exact absurd (asked?_eq_some_iff.mp ha).2.1 herror

/-- A callback does what it has to do, and answers accordingly. -/
theorem decides_callback (settings : GateSettings) (site : Site) (occasion : Occasion)
    (request : Http.Request) (holder : Holder) (state : SharedState) :
    Decides settings site occasion request state (deeds settings site occasion request state)
      (callback settings site occasion request holder state) := by
  obtain ⟨body, hcallback⟩ := callback_eq settings site occasion request holder state
  have hcaches : (∃ context, .caches context ∈ deeds settings site occasion request state) ↔
      (cached? settings site occasion request state).isSome = true := by
    simp only [mem_deeds, Option.isSome_iff_exists]
  have hrequires := requires_deeds settings site occasion request state
  rw [hcallback]
  cases hk : (cached? settings site occasion request state).isSome with
  | true =>
    refine ⟨hrequires, rfl, rfl, iff_of_true rfl (hcaches.mpr hk), fun _ => rfl, fun hm => ?_,
      fun hne => absurd rfl hne⟩
    rw [(deeds_of_not_asked (asked?_of_malformed hm)).1] at hk
    cases hk
  | false =>
    have hno : ¬ ∃ context, .caches context ∈ deeds settings site occasion request state :=
      fun h => Bool.false_ne_true (hk.symm.trans (hcaches.mp h))
    by_cases hm : Repeats request ∨ IsSilent request
    · have hstatus : (Http.plainResponse 400 body).status ≠ 302 := by simp [Http.plainResponse]
      rw [if_pos hm]
      exact ⟨hrequires, rfl, rfl, iff_of_false hstatus hno, fun h => absurd h hstatus,
        fun _ => rfl, fun _ h => absurd hm h⟩
    · have hstatus : (Http.plainResponse 401 body).status ≠ 302 := by simp [Http.plainResponse]
      rw [if_neg hm]
      exact ⟨hrequires, rfl, rfl, iff_of_false hstatus hno, fun h => absurd h hstatus,
        fun h => absurd h hm, fun _ _ => rfl⟩

/-- Of the query a callback reads the values of the parameters only. -/
theorem callbackParameters_congr {other : Http.Request}
    (h : ∀ name ∈ parameterNames, sent other name = sent request name) :
    callbackParameters other.target.query = callbackParameters request.target.query := by
  simp only [parameterNames, List.forall_mem_cons] at h
  obtain ⟨hcode, hstate, herror, -⟩ := h
  simp only [sent] at hcode hstate herror
  simp only [callbackParameters, Form.single?_eq, hcode, hstate, herror]

/-- On the callback path the gate does what the query and the answers on the way require, each at
most once and in order, and answers accordingly; nothing of a request matters but its header fields
and the values of the parameters. -/
theorem decides_on_callback {settings : GateSettings} {site : Site} {delivery : Delivery}
    (hx : delivery.request.target.path ∉ settings.excludedPaths)
    (hp : delivery.request.target.path = site.client.callbackPath) (occasion : Occasion)
    (inner : Handler) (holder : Holder) (state : SharedState) :
    (∃ deeds, Decides settings site occasion delivery.request state deeds
      (serve settings site occasion inner delivery holder state)) ∧
    ∀ other : Delivery, other.request.target.path = delivery.request.target.path →
      other.request.headers = delivery.request.headers →
      (∀ name ∈ parameterNames, sent other.request name = sent delivery.request name) →
      serve settings site occasion inner other holder state =
        serve settings site occasion inner delivery holder state := by
  refine ⟨⟨deeds settings site occasion delivery.request state, ?_⟩,
    fun other hpath hheaders hsent => ?_⟩
  · rw [serve_of_callback hx hp]
    exact decides_callback settings site occasion delivery.request holder state
  · have hparameters := callbackParameters_congr hsent
    rw [serve_of_callback hx hp, serve_of_callback (hpath ▸ hx) (hpath.trans hp)]
    simp only [callback, hparameters, hheaders]

/-- A request that the provider sends back with a code, a state and a pair of another name. -/
def sampleReturn : Delivery where
  request := {
    method := "GET"
    target := Http.Target.ofText "/_auth?code=1&state=%2Fhome&session_state=2"
    headers := .single "host" (Http.FieldValue.ofText? "app.example.com") }

/-- The deployment that it is sent back to. -/
def sampleAsked : Deployment := .sample .session ⟨[]⟩

/-- When it is sent back, and what the provider says. -/
def sampleOccasion : Occasion := ⟨0, ⟨.replicate 12 0, .replicate 16 0⟩, Deployment.sampleBackend⟩

/-- It comes to its end: the connection of a context is cached. -/
theorem decides_on_sampleReturn :
    sampleReturn.request.target.path ∉ sampleAsked.gate.excludedPaths ∧
      sampleReturn.request.target.path = sampleAsked.site.client.callbackPath ∧
      ∃ deeds, Decides sampleAsked.gate sampleAsked.site sampleOccasion sampleReturn.request
          ⟨.create 10 0, { timeToLive := 10 }⟩ deeds
          (serve sampleAsked.gate sampleAsked.site sampleOccasion
            (fun _ holder state => { response := { status := 404 }, state, holder }) sampleReturn
            .outside ⟨.create 10 0, { timeToLive := 10 }⟩) ∧
        ∃ context, .caches context ∈ deeds := by
  have hx : sampleReturn.request.target.path ∉ sampleAsked.gate.excludedPaths := by decide
  have hp : sampleReturn.request.target.path = sampleAsked.site.client.callbackPath := by decide
  obtain ⟨deeds, hdeeds⟩ := (decides_on_callback hx hp sampleOccasion
    (fun _ holder state => { response := { status := 404 }, state, holder }) .outside
    ⟨.create 10 0, { timeToLive := 10 }⟩).1
  exact ⟨hx, hp, deeds, hdeeds, hdeeds.sentOn.mp (by decide +kernel)⟩

end Gate

end SignOn
