import SignOn.Proofs.Deployment.Basic
import SignOn.Proofs.Logout.Completeness

/-!
# Two ways to the logout

A logout finds its context by itself if the gate excludes the logout path, and else takes the one
that the gate has found and holds. Both ways come to the same: the response, the calls of the
backend, the sessions and the connection cache (`logs_out_alike`). Only an application that logs out
at the path of the callback has no second way, since there the gate answers before any handler.
-/

namespace SignOn

namespace Logout

/-- The search takes from the holder what it would find in the storage, and leaves the sessions as a
search in the storage does. -/
theorem find_inside {storage : Storage} {sessions : SessionStore} {now : Int}
    {request : Http.Headers} {context : SecurityContext}
    (h : (storage.load sessions now request).1 = .ok (some context)) :
    find storage (storage.load sessions now request).2 now request (.inside (some context)) =
      find storage sessions now request .outside := by
  simp only [find, Holder.context?]
  cases hl : storage.load sessions now request with
  | mk loaded after =>
    rw [hl] at h
    obtain rfl : loaded = .ok (some context) := h
    rfl

/-- A logout of what is attached and held does what a logout does that looks for it, but for the
holder. -/
theorem serve_inside {settings : LogoutSettings} {site : Site} {occasion : Occasion}
    {request : Http.Request} {state : SharedState} {context : SecurityContext}
    (h : ((site.storage settings.storageMethod).load state.sessions occasion.now
      request.headers).1 = .ok (some context)) :
    { serve settings site occasion { request, attached := some context } (.inside (some context))
        { state with
          sessions := ((site.storage settings.storageMethod).load state.sessions occasion.now
            request.headers).2 } with
      holder := .outside } = serve settings site occasion { request } .outside state := by
  have hcontext : (find (site.storage settings.storageMethod) state.sessions occasion.now
      request.headers .outside).context = some context := by
    rw [context_find, sought, Holder.context?, h]
    rfl
  simp only [serve, find_inside h, hcontext]
  rfl

/-- The calls of a logout ask for no login. -/
theorem calls_serve_ne (settings : LogoutSettings) (site : Site) (occasion : Occasion)
    (delivery : Delivery) (holder : Holder) (state : SharedState) {code redirectUri : String}
    {calls : List BackendCall} :
    (serve settings site occasion delivery holder state).calls ≠
      .exchangeCode code redirectUri :: calls := by
  rw [(completes_serve settings site occasion delivery holder state).calls]
  cases ended? _ with
  | none => exact (List.cons_ne_nil _ _).symm
  | some context =>
    rw [Option.elim_some]
    split
    · exact (List.cons_ne_nil _ _).symm
    · intro h
      cases (List.cons.inj h).1

end Logout

namespace GateSettings

/-- The settings with other paths excluded. -/
def excluding (s : GateSettings) (paths : List String) : GateSettings :=
  { s with excludedPaths := paths }

end GateSettings

namespace Application

/-- An application behind a gate. -/
def behind (app : Application) (settings : GateSettings) : Application :=
  { app with gate := some settings }

/-- Whether a request is one to log out. -/
def LogsOut (app : Application) (request : Http.Request) : Prop :=
  request.target.path = app.logoutPath ∧ request.method ∈ Page.logout.methods

/-- What was done for a request, with the response as it is sent. -/
def sent (app : Application) (request : Http.Request) (served : Served) : Served :=
  { served with response := app.finish request served.response }

variable {app : Application} {settings : GateSettings} {occasion : Occasion}
  {request : Http.Request} {state : SharedState}

/-- Behind the gate a request to log out is answered by the logout. -/
private theorem inner_of_logsOut (h : app.LogsOut request) (attached : Option SecurityContext)
    (holder : Holder) (state : SharedState) :
    ((app.behind settings).deployment settings).inner ((app.behind settings).visit occasion request)
        { request, attached } holder state =
      Logout.serve app.logout app.site occasion { request, attached } holder state := by
  have hlogs : ((app.behind settings).deployment settings).logsOut request = true := by
    have hpage : (app.behind settings).page? request.target.path = some .logout := if_pos h.1
    simp only [deployment, hpage, List.contains_iff_mem.mpr h.2, decide_true, Bool.and_self]
  simp only [Deployment.inner, hlogs, if_true]
  rfl

private theorem serve_behind (app : Application) (settings : GateSettings) (occasion : Occasion)
    (request : Http.Request) (state : SharedState) :
    (app.behind settings).serve occasion request state = app.sent request
      (((app.behind settings).deployment settings).serve
        ((app.behind settings).visit occasion request) state) :=
  serve_eq_deployment _ rfl _ _ _

/-- If the gate excludes the path, the logout looks for the context. -/
theorem serve_behind_of_excluded (h : app.LogsOut request)
    (hx : app.logoutPath ∈ settings.excludedPaths) :
    (app.behind settings).serve occasion request state = app.sent request
      (Logout.serve app.logout app.site occasion { request } .outside state) := by
  rw [← h.1] at hx
  rw [serve_behind, Deployment.serve_of_excluded hx]
  exact congrArg _ (inner_of_logsOut h none _ _)

/-- If the gate guards the path and finds a context, the logout comes to the same with what it is
given. -/
theorem serve_behind_of_found (h : app.LogsOut request)
    (hx : app.logoutPath ∉ settings.excludedPaths)
    (hother : app.logoutPath ≠ app.site.client.callbackPath)
    (hm : settings.storageMethod = app.logout.storageMethod) {context : SecurityContext}
    (hl : (Gate.lookUp settings app.site occasion request state).1 = .ok (some context)) :
    (app.behind settings).serve occasion request state = app.sent request
      (Logout.serve app.logout app.site occasion { request } .outside state) := by
  rw [← h.1] at hx hother
  have hguards : Gate.Guards settings app.site request := ⟨hx, hother⟩
  have hserve := Deployment.serve_of_found (d := (app.behind settings).deployment settings)
    (v := (app.behind settings).visit occasion request) hguards hl
  rw [Gate.lookUp, hm] at hl
  rw [serve_behind, hserve, ← Logout.serve_inside hl, ← hm]
  exact congrArg (fun served => app.sent request { served with holder := .outside })
    (inner_of_logsOut h _ _ _)

/-- On the path of the callback the gate answers by itself. -/
theorem serve_behind_of_callback (h : app.LogsOut request)
    (hx : app.logoutPath ∉ settings.excludedPaths)
    (hsame : app.logoutPath = app.site.client.callbackPath) :
    (app.behind settings).serve occasion request state = app.sent request
      (Gate.callback settings app.site occasion request .outside state) := by
  rw [← h.1] at hx hsame
  rw [serve_behind]
  exact congrArg _ (Deployment.serve_of_callback hx hsame)

/-- No callback answers as a logout does: it sends the browser nowhere or has asked for a login. -/
private theorem callback_differs (settings : GateSettings) (app : Application) (occasion : Occasion)
    (request : Http.Request) (state : SharedState) :
    ¬ ((Logout.serve app.logout app.site occasion { request } .outside state).response.status =
        (Gate.callback settings app.site occasion request .outside state).response.status ∧
      (Logout.serve app.logout app.site occasion { request } .outside state).calls =
        (Gate.callback settings app.site occasion request .outside state).calls) := by
  rintro ⟨hstatus, hcalls⟩
  rw [(Logout.completes_serve app.logout app.site occasion { request } .outside
    state).redirects.status] at hstatus
  cases Gate.completed_callback settings app.site occasion request .outside state with
  | refused _ hrefused _ => exact hrefused hstatus.symm
  | unwritten _ _ _ _ hrefused _ => exact hrefused hstatus.symm
  | done context _ hgranted _ _ _ =>
    obtain ⟨_, _, ⟨code, redirectUri, -, hlogin⟩, -, -⟩ := hgranted
    exact Logout.calls_serve_ne app.logout app.site occasion { request } .outside state
      (hcalls.trans hlogin)

/-- Whether the gate excludes the logout path or finds the context itself makes no difference to a
logout of a stored context, unless the path is that of the callback: there the two answers always
differ. -/
theorem logs_out_alike (app : Application) (gate : GateSettings)
    (hm : gate.storageMethod = app.logout.storageMethod) {excluded guarded : List String}
    (hin : app.logoutPath ∈ excluded) (hout : app.logoutPath ∉ guarded) (occasion : Occasion)
    (request : Http.Request) (h : app.LogsOut request) (state : SharedState)
    (context : SecurityContext)
    (hl : (Gate.lookUp gate app.site occasion request state).1 = .ok (some context)) :
    (app.logoutPath ≠ app.site.client.callbackPath →
      (app.behind (gate.excluding excluded)).serve occasion request state =
        (app.behind (gate.excluding guarded)).serve occasion request state) ∧
    (app.logoutPath = app.site.client.callbackPath →
      ¬ (((app.behind (gate.excluding excluded)).serve occasion request state).response =
          ((app.behind (gate.excluding guarded)).serve occasion request state).response ∧
        ((app.behind (gate.excluding excluded)).serve occasion request state).calls =
          ((app.behind (gate.excluding guarded)).serve occasion request state).calls)) := by
  have hexcluded : app.logoutPath ∈ (gate.excluding excluded).excludedPaths := hin
  have hguarded : app.logoutPath ∉ (gate.excluding guarded).excludedPaths := hout
  rw [serve_behind_of_excluded h hexcluded]
  constructor
  · intro hother
    rw [serve_behind_of_found h hguarded hother hm hl]
  · intro hsame
    rw [serve_behind_of_callback h hguarded hsame]
    rintro ⟨hresponse, hcalls⟩
    exact callback_differs (gate.excluding guarded) app occasion request state
      ⟨congrArg (·.status) hresponse, hcalls⟩

/-- An application that logs out at `/logout` and keeps sessions on the server, with the path at
which logins come back. -/
def sampleReturning (callbackPath : String) : Application where
  site := { client := { key := "key", callbackPath }, cipher := ⟨[]⟩ }
  logout := { storageMethod := .session }

/-- A state that holds one session. -/
def sampleHolding : SharedState where
  sessions := (SessionStore.create 10 0).put 0 "kept" Deployment.sampleContext
  connections := { timeToLive := 0 }

/-- A logout that presents this session. -/
def sampleLeaving : Visit := Deployment.sampleVisit 1 "/logout" none "force_session=kept"

/-- What the application does about this logout if the gate excludes some paths. -/
def sampleLeft (callbackPath : String) (paths : List String) : Served :=
  ((sampleReturning callbackPath).behind (.excluding { storageMethod := .session } paths)).serve
    sampleLeaving.occasion sampleLeaving.request sampleHolding

/-- The usual path of the callback leaves both ways open. -/
theorem logs_out_alike_sample : sampleLeft "/_auth" ["/logout"] = sampleLeft "/_auth" [] :=
  (logs_out_alike (sampleReturning "/_auth") { storageMethod := .session } rfl (by decide)
    (by decide) sampleLeaving.occasion sampleLeaving.request ⟨by decide, by decide⟩ sampleHolding
    Deployment.sampleContext rfl).1 (by decide)

/-- Where logins come back to `/logout` too, the stored session is ended if the gate excludes the
path and kept if it does not. -/
theorem keeps_session_sampleReturning :
    (Gate.lookUp { storageMethod := .session } (sampleReturning "/logout").site
        sampleLeaving.occasion sampleLeaving.request sampleHolding).1 =
      .ok (some Deployment.sampleContext) ∧
    ((sampleLeft "/logout" ["/logout"]).response.status,
        (sampleLeft "/logout" ["/logout"]).state.sessions.size) = (302, 0) ∧
    ((sampleLeft "/logout" []).response.status,
        (sampleLeft "/logout" []).state.sessions.size) = (400, 1) :=
  ⟨rfl, by decide +kernel, by decide +kernel⟩

end Application

end SignOn
