import SignOn.Gate
import SignOn.Proofs.Storage.Effects

/-!
# Completed logins

Whether a callback comes to save a context depends on the query and the backend alone; what it does
then is a save. Only a callback that has saved its context redirects the browser.
-/

namespace SignOn

namespace Gate

/-- The context that the backend's answers to a code give. -/
def granted? (settings : GateSettings) (site : Site) (occasion : Occasion) (request : Http.Headers)
    (code : String) : Option SecurityContext := do
  let redirectUri ← (site.client.redirectUri (site.origin request)).toOption
  let token ← (occasion.backend.exchangeCode code redirectUri).toOption
  let user ← (occasion.backend.userRecord token).toOption
  (token.toContext user settings.apiVersion).toOption

/-- The context that a callback builds, if it comes to that. -/
def built? (settings : GateSettings) (site : Site) (occasion : Occasion) (request : Http.Request) :
    Option SecurityContext :=
  match (callbackParameters request.target.query).error,
    (callbackParameters request.target.query).code with
  | none, some code => granted? settings site occasion request.headers code
  | _, _ => none

/-- What saving a callback's context does. -/
def saved (settings : GateSettings) (site : Site) (occasion : Occasion) (request : Http.Request)
    (state : SharedState) (context : SecurityContext) : Stored :=
  (site.storage settings.storageMethod).save state.sessions occasion.now occasion.fresh
    request.headers .empty context

/-- The answers of the backend that a context was built from, and the calls that asked for them. -/
structure Granted (settings : GateSettings) (backend : IdentityBackend) (calls : List BackendCall)
    (token : Token) (user : UserRecord) (context : SecurityContext) : Prop where
  calls : ∃ code redirectUri, backend.exchangeCode code redirectUri = .ok token ∧
    calls = [.exchangeCode code redirectUri, .userRecord token]
  record : backend.userRecord token = .ok user
  context : token.toContext user settings.apiVersion = .ok context

/-- What a callback leaves. -/
inductive Completed (settings : GateSettings) (site : Site) (occasion : Occasion)
    (request : Http.Request) (state : SharedState) (served : Served) : Prop where
  /-- No context is built, nothing is kept and the browser is not sent on. -/
  | refused (hbuilt : built? settings site occasion request = none)
    (hstatus : served.response.status ≠ 302) (hstate : served.state = state)
  /-- The context cannot be written to the response. -/
  | unwritten (context : SecurityContext)
    (hbuilt : built? settings site occasion request = some context)
    (e : Error) (hsaved : (saved settings site occasion request state context).outcome = .error e)
    (hstatus : served.response.status ≠ 302)
    (hstate : served.state =
      { state with sessions := (saved settings site occasion request state context).sessions })
  /-- The context is kept and the browser sent on. -/
  | done (context : SecurityContext) (hbuilt : built? settings site occasion request = some context)
    (hgranted : ∃ token user, Granted settings occasion.backend served.calls token user context)
    (hsaved : (saved settings site occasion request state context).outcome = .ok ())
    (hresponse : served.response = Http.redirect
      (localTarget (callbackParameters request.target.query).state)
      (saved settings site occasion request state context).cookies)
    (hstate : served.state = {
      sessions := (saved settings site occasion request state context).sessions
      connections := state.connections.put occasion.now context })

variable {settings : GateSettings} {site : Site} {occasion : Occasion} {request : Http.Headers}
  {state : SharedState} {code : String}

/-- Without a context nothing is kept. -/
private theorem authenticate_of_none (state : SharedState)
    (h : granted? settings site occasion request code = none) :
    ∃ e, (authenticate settings site occasion request state code).outcome = .error e ∧
      (authenticate settings site occasion request state code).state = state := by
  unfold granted? at h
  unfold authenticate
  cases hr : site.client.redirectUri (site.origin request) with
  | error e => exact ⟨e, rfl, rfl⟩
  | ok redirectUri =>
    cases ht : occasion.backend.exchangeCode code redirectUri with
    | error e => exact ⟨e, by simp only [ht], by simp only [ht]⟩
    | ok token =>
      cases hu : occasion.backend.userRecord token with
      | error e => exact ⟨e, by simp only [ht, hu], by simp only [ht, hu]⟩
      | ok user =>
        cases hc : token.toContext user settings.apiVersion with
        | error e =>
          exact ⟨e, by simp only [ht, hu, enroll, hc], by simp only [ht, hu, enroll, hc]⟩
        | ok context => simp [hr, ht, hu, hc, Except.toOption] at h

/-- An outcome is kept exactly if it is no error. -/
theorem toOption_eq_some_iff {α : Type} {x : Except Error α} {a : α} :
    x.toOption = some a ↔ x = .ok a := by
  cases x with
  | error e => simp [Except.toOption]
  | ok b => simp [Except.toOption]

/-- A code gives a context when every answer on the way to it is one. -/
theorem granted?_eq_some_iff {context : SecurityContext} :
    granted? settings site occasion request code = some context ↔
      ∃ redirectUri token user, site.client.redirectUri (site.origin request) = .ok redirectUri ∧
        occasion.backend.exchangeCode code redirectUri = .ok token ∧
        occasion.backend.userRecord token = .ok user ∧
        token.toContext user settings.apiVersion = .ok context := by
  simp only [granted?, Option.bind_eq_bind, Option.bind_eq_some_iff, toOption_eq_some_iff,
    exists_and_left]

/-- A context that a callback builds comes from answers of the backend. -/
theorem granted_of_built? {request : Http.Request} {context : SecurityContext}
    (h : built? settings site occasion request = some context) :
    ∃ calls token user, Granted settings occasion.backend calls token user context := by
  unfold built? at h
  split at h
  · obtain ⟨redirectUri, token, user, -, ht, hu, hc⟩ := granted?_eq_some_iff.mp h
    exact ⟨_, token, user, ⟨_, redirectUri, ht, rfl⟩, hu, hc⟩
  · cases h

/-- With a context a login saves it. -/
private theorem authenticate_of_some (state : SharedState) {context : SecurityContext}
    (h : granted? settings site occasion request code = some context) :
    ∃ calls token user, Granted settings occasion.backend calls token user context ∧
      authenticate settings site occasion request state code =
        enroll settings site occasion request state calls token user := by
  obtain ⟨redirectUri, token, user, hr, ht, hu, hc⟩ := granted?_eq_some_iff.mp h
  refine ⟨_, token, user, ⟨⟨code, redirectUri, ht, rfl⟩, hu, hc⟩, ?_⟩
  simp only [authenticate, hr, ht, hu]

private theorem enroll_of_error {calls : List BackendCall} {token : Token} {user : UserRecord}
    {request : Http.Request} {context : SecurityContext} {e : Error}
    (hc : token.toContext user settings.apiVersion = .ok context)
    (hs : (saved settings site occasion request state context).outcome = .error e) :
    enroll settings site occasion request.headers state calls token user = {
      outcome := .error e
      cookies := (saved settings site occasion request state context).cookies
      calls
      state := { state with
        sessions := (saved settings site occasion request state context).sessions } } := by
  rw [saved] at hs ⊢
  simp only [enroll, hc, hs]

private theorem enroll_of_ok {calls : List BackendCall} {token : Token} {user : UserRecord}
    {request : Http.Request} {context : SecurityContext}
    (hc : token.toContext user settings.apiVersion = .ok context)
    (hs : (saved settings site occasion request state context).outcome = .ok ()) :
    enroll settings site occasion request.headers state calls token user = {
      outcome := .ok context
      cookies := (saved settings site occasion request state context).cookies
      calls
      state := {
        sessions := (saved settings site occasion request state context).sessions
        connections := state.connections.put occasion.now context } } := by
  rw [saved] at hs ⊢
  simp only [enroll, hc, hs]

/-- Every callback is refused, comes to nothing while its context is written, or is done. -/
theorem completed_callback (settings : GateSettings) (site : Site) (occasion : Occasion)
    (request : Http.Request) (holder : Holder) (state : SharedState) :
    Completed settings site occasion request state
      (callback settings site occasion request holder state) := by
  have h302 : ∀ status body, status ≠ 302 → (Http.plainResponse status body).status ≠ 302 :=
    fun _ _ h => h
  cases he : (callbackParameters request.target.query).error with
  | some report =>
    have hcall : callback settings site occasion request holder state =
        { response := Http.plainResponse 401 "authorization denied", state, holder } := by
      simp only [callback, he]
    rw [hcall]
    exact .refused (by simp only [built?, he]) (h302 _ _ (by decide)) rfl
  | none =>
    cases hc : (callbackParameters request.target.query).code with
    | none =>
      have hcall : callback settings site occasion request holder state =
          { response := Http.plainResponse 400 "missing authorization code", state, holder } := by
        simp only [callback, he, hc]
      rw [hcall]
      exact .refused (by simp only [built?, he, hc]) (h302 _ _ (by decide)) rfl
    | some code =>
      have hb : built? settings site occasion request =
          granted? settings site occasion request.headers code := by simp only [built?, he, hc]
      cases hg : granted? settings site occasion request.headers code with
      | none =>
        obtain ⟨e, ho, hs⟩ := authenticate_of_none state hg
        have hcall : callback settings site occasion request holder state =
            { response := Http.plainResponse 401 "authentication failed"
              calls := (authenticate settings site occasion request.headers state code).calls
              state, holder } := by
          simp only [callback, he, hc, ho, hs]
        rw [hcall]
        exact .refused (hb.trans hg) (h302 _ _ (by decide)) rfl
      | some context =>
        obtain ⟨calls, token, user, hgranted, ha⟩ := authenticate_of_some state hg
        cases hsaved : (saved settings site occasion request state context).outcome with
        | error e =>
          have hcall : callback settings site occasion request holder state =
              { response := Http.plainResponse 401 "authentication failed"
                calls
                state := { state with
                  sessions := (saved settings site occasion request state context).sessions }
                holder } := by
            simp only [callback, he, hc, ha, enroll_of_error hgranted.context hsaved]
          rw [hcall]
          exact .unwritten context (hb.trans hg) e hsaved (h302 _ _ (by decide)) rfl
        | ok done =>
          have hcall : callback settings site occasion request holder state =
              { response := Http.redirect
                  (localTarget (callbackParameters request.target.query).state)
                  (saved settings site occasion request state context).cookies
                calls
                state := {
                  sessions := (saved settings site occasion request state context).sessions
                  connections := state.connections.put occasion.now context }
                holder } := by
            simp only [callback, he, hc, ha, enroll_of_ok hgranted.context hsaved]
          rw [hcall]
          exact .done context (hb.trans hg) ⟨token, user, hgranted⟩ hsaved rfl rfl

end Gate

end SignOn
