import SignOn.Application
import SignOn.Proofs.Gate.Callback
import SignOn.Proofs.Gate.Passage

/-!
# Deployments

A deployment is a gate and a logout over one site, with pages behind the gate about which nothing is
assumed but that they leave the shared state to the filters. A history is a list of visits, each
with a time, random values, a backend and pages of its own; serving it gives the exchanges of a
transcript. Every application with a gate is such a deployment.
-/

namespace SignOn

/-- A request with all that it meets besides the shared state: an occasion, and what the pages say
to it and leave in the holder. -/
structure Visit where
  request : Http.Request
  occasion : Occasion
  page : Delivery → Holder → Http.Response × Holder

/-- A gate and a logout over one site. -/
structure Deployment where
  site : Site
  gate : GateSettings
  logout : LogoutSettings
  /-- Whether a request that passes the gate is one to log out. -/
  logsOut : Http.Request → Bool

/-- A visit and what serving it did. -/
structure Exchange where
  visit : Visit
  served : Served

namespace Visit

/-- When a visit takes place. -/
def time (v : Visit) : Int := v.occasion.now

/-- The key that a session begun by a visit would have. -/
def freshKey (v : Visit) : String := SessionKey.ofRandom v.occasion.fresh.sessionKey

/-- Whether a key is what the first cookie for server sessions holds. -/
def Presents (v : Visit) (key : String) : Prop :=
  Cookie.find? v.request.headers Cookie.serverSessionName = some key

instance (v : Visit) (key : String) : Decidable (v.Presents key) :=
  inferInstanceAs (Decidable (_ = _))

end Visit

namespace Deployment

variable (d : Deployment)

/-- What stands behind the gate. -/
def inner (v : Visit) : Handler := fun delivery holder state =>
  if d.logsOut delivery.request then Logout.serve d.logout d.site v.occasion delivery holder state
  else { response := (v.page delivery holder).1, state, holder := (v.page delivery holder).2 }

/-- Serve a visit, in a task that is in no scope. -/
def serve (v : Visit) (state : SharedState) : Served :=
  Gate.serve d.gate d.site v.occasion (d.inner v) { request := v.request } .outside state

/-- The state after a history. -/
def after (state : SharedState) : List Visit → SharedState
  | [] => state
  | v :: history => after (d.serve v state).state history

/-- The exchanges of a history. -/
def transcript (state : SharedState) : List Visit → List Exchange
  | [] => []
  | v :: history => ⟨v, d.serve v state⟩ :: transcript (d.serve v state).state history

/-- The visits of a transcript are those of the history. -/
theorem map_visit_transcript (state : SharedState) (history : List Visit) :
    (d.transcript state history).map (·.visit) = history := by
  induction history generalizing state with
  | nil => rfl
  | cons v history ih => rw [transcript, List.map_cons, ih]

variable {d} {v : Visit} {state : SharedState}

/-- Each exchange of a transcript is about a visit of the history. -/
theorem visit_mem_of_mem_transcript {history : List Visit} {e : Exchange}
    (h : e ∈ d.transcript state history) : e.visit ∈ history := by
  rw [← d.map_visit_transcript state history]
  exact List.mem_map_of_mem h

/-- An excluded visit is served behind the gate. -/
theorem serve_of_excluded (h : v.request.target.path ∈ d.gate.excludedPaths) :
    d.serve v state = d.inner v { request := v.request } .outside state :=
  Gate.serve_of_excluded h

/-- A visit to the callback path is served by the callback. -/
theorem serve_of_callback (h : v.request.target.path ∉ d.gate.excludedPaths)
    (hp : v.request.target.path = d.site.client.callbackPath) :
    d.serve v state = Gate.callback d.gate d.site v.occasion v.request .outside state :=
  Gate.serve_of_callback h hp

/-- A visit to the callback path ends as callbacks do. -/
theorem completed_serve (state : SharedState)
    (h : v.request.target.path ∉ d.gate.excludedPaths)
    (hp : v.request.target.path = d.site.client.callbackPath) :
    Gate.Completed d.gate d.site v.occasion v.request state (d.serve v state) := by
  rw [serve_of_callback h hp]
  exact Gate.completed_callback d.gate d.site v.occasion v.request .outside state

/-- A guarded visit with a stored context is served behind the gate. -/
theorem serve_of_found (h : Gate.Guards d.gate d.site v.request) {context : SecurityContext}
    (hl : (Gate.lookUp d.gate d.site v.occasion v.request state).1 = .ok (some context)) :
    d.serve v state =
      { d.inner v { request := v.request, attached := some context } (.inside (some context))
          { state with
            sessions := (Gate.lookUp d.gate d.site v.occasion v.request state).2 } with
        holder := .outside } :=
  Gate.serve_of_found h hl

/-- A guarded visit without a stored context is sent to the provider. -/
theorem serve_of_absent (h : Gate.Guards d.gate d.site v.request)
    (hl : (Gate.lookUp d.gate d.site v.occasion v.request state).1 = .ok none) :
    d.serve v state =
      { response := Gate.loginRedirect d.site v.request .empty
        state := { state with
          sessions := (Gate.lookUp d.gate d.site v.occasion v.request state).2 }
        holder := .outside } :=
  Gate.serve_of_absent h hl

/-- A guarded visit with a context that cannot be read is sent to the provider. -/
theorem serve_of_unreadable (h : Gate.Guards d.gate d.site v.request) {e : Error}
    (hl : (Gate.lookUp d.gate d.site v.occasion v.request state).1 = .error e) :
    d.serve v state =
      { response := Gate.loginRedirect d.site v.request
          ((d.site.storage d.gate.storageMethod).clear state.sessions v.request.headers
            .empty).cookies
        state
        holder := .outside } :=
  Gate.serve_of_unreadable h hl

variable (d)

/-- Whether a visit reaches a handler with a context attached and held: the gate asks for that. -/
def Admits (v : Visit) (state : SharedState) (context : SecurityContext) : Prop :=
  ∃ found, Handler.Asks
    (Gate.serve d.gate d.site v.occasion · { request := v.request } .outside state)
    { request := v.request, attached := some context } (.inside (some context)) found

/-- A guarded visit is admitted with what is stored for it. -/
theorem admits_iff {context : SecurityContext}
    (h : Gate.Guards d.gate d.site v.request) :
    d.Admits v state context ↔
      (Gate.lookUp d.gate d.site v.occasion v.request state).1 = .ok (some context) := by
  constructor
  · rintro ⟨found, hasks⟩
    rw [Gate.asks_serve_iff] at hasks
    cases hasks with
    | found _ _ hl => exact hl
  · intro hl
    exact ⟨_, Gate.asks_serve_iff.mpr (.found h context hl)⟩

end Deployment

namespace Application

/-- An application behind a gate, as a deployment. -/
def deployment (app : Application) (gate : GateSettings) : Deployment where
  site := app.site
  gate
  logout := app.logout
  logsOut request := app.page? request.target.path = some .logout &&
    Page.logout.methods.contains request.method

/-- A request to an application, as a visit: the pages do not depend on the shared state. -/
def visit (app : Application) (occasion : Occasion) (request : Http.Request) : Visit where
  request
  occasion
  page delivery holder :=
    let served := app.dispatch occasion delivery holder
      { sessions := .create 0 0, connections := { timeToLive := 0 } }
    (served.response, served.holder)

/-- Behind its gate an application does what its deployment does. -/
theorem dispatch_eq_inner (app : Application) (gate : GateSettings) (occasion : Occasion)
    (request : Http.Request) :
    app.dispatch occasion = (app.deployment gate).inner (app.visit occasion request) := by
  funext delivery holder state
  by_cases hm : (app.deployment gate).logsOut delivery.request = true
  · simp only [Deployment.inner, hm, if_true]
    simp only [deployment, Bool.and_eq_true, decide_eq_true_eq] at hm
    simp only [dispatch, hm.1, hm.2, if_true]
    rfl
  · simp only [Deployment.inner, hm, Bool.false_eq_true, if_false, visit]
    cases hp : app.page? delivery.request.target.path with
    | none => simp only [dispatch, hp]
    | some page =>
      by_cases hmethod : page.methods.contains delivery.request.method = true
      · cases page with
        | logout => exact absurd (by simp only [deployment, hp, hmethod]; decide) hm
        | home => simp only [dispatch, hp, hmethod, if_true, servePage]
        | whoami => simp only [dispatch, hp, hmethod, if_true, servePage]
        | endpoint => simp only [dispatch, hp, hmethod, if_true, servePage]
        | release =>
          cases ha : delivery.attached with
          | none => simp only [dispatch, hp, hmethod, if_true, servePage, ha]
          | some context => simp only [dispatch, hp, hmethod, if_true, servePage, ha]
      · simp only [dispatch, hp, hmethod, Bool.false_eq_true, if_false]

/-- An application with a gate is a deployment, but for the fields that report methods. -/
theorem serve_eq_deployment (app : Application) {gate : GateSettings} (h : app.gate = some gate)
    (occasion : Occasion) (request : Http.Request) (state : SharedState) :
    app.serve occasion request state =
      { (app.deployment gate).serve (app.visit occasion request) state with
        response := app.finish request
          ((app.deployment gate).serve (app.visit occasion request) state).response } := by
  simp only [serve, h, app.dispatch_eq_inner gate occasion request]
  rfl

end Application

namespace Deployment

/-! ## A small deployment -/

/-- A backend that gives everybody the same token and knows one user. -/
def sampleBackend : IdentityBackend where
  logout _ := .ok ()
  exchangeCode _ _ := .ok { accessToken := "token", instanceUrl := "https://na1.example" }
  userRecord _ := .ok { userId := "user", organizationId := "org" }

/-- The context of that user. -/
def sampleContext : SecurityContext where
  sessionId := "token"
  endpoint := {
    scheme := "https"
    authority := some { host := .domain "na1.example" }
    path := .rooted ["services", "Soap", "u", "62.0", "org"] }
  orgId := "org"
  userId := "user"

/-- A deployment with the usual settings. -/
def sample (method : StorageMethod) (cipher : Cipher) : Deployment where
  site := { client := { key := "key" }, cipher }
  gate := { storageMethod := method }
  logout := { storageMethod := method }
  logsOut request := request.target.path = "/logout"

/-- A visit to a path, with one `Cookie` field. -/
def sampleVisit (now : Int) (path : String) (query : Option String) (cookies : String) :
    Visit where
  request := {
    method := "GET"
    target := { path, query, pathAndQuery := some path }
    headers := .single "cookie" (Http.FieldValue.ofText? cookies) }
  occasion := { now, fresh := ⟨.replicate 12 0, .replicate 16 0⟩, backend := sampleBackend }
  page _ holder := ({ status := 200 }, holder)

end Deployment

end SignOn
