import SignOn.Gate
import SignOn.Proofs.Storage.Effects

/-!
# Who passes the gate

The gate asks the handler behind it in two cases only: untouched for an excluded path, and with the
stored context attached and held for any other path but that of the callback. `Handler.Asks` says
that without looking into the gate: an answer depends on what the handler says to one question.
Everybody else is answered by the gate alone.
-/

namespace SignOn

/-- Whether an answer that is made with the help of a handler depends on what the handler says to a
request with a holder and a state: it tells two handlers apart that differ there only. -/
def Handler.Asks (answer : Handler → Served) (delivery : Delivery) (holder : Holder)
    (state : SharedState) : Prop :=
  ∃ f g : Handler, (∀ d h s, f d h s ≠ g d h s → d = delivery ∧ h = holder ∧ s = state) ∧
    answer f ≠ answer g

namespace Handler

variable {answer : Handler → Served} {delivery asked : Delivery} {holder held : Holder}
  {state found : SharedState}

/-- An answer that is the same for all handlers asks none. -/
theorem not_asks_of_forall_eq (h : ∀ f g, answer f = answer g) :
    ¬ Asks answer delivery holder state := by
  rintro ⟨f, g, -, hne⟩
  exact hne (h f g)

/-- An answer that shows the response of a handler to one question asks this question and no
other. -/
theorem asks_iff_of_response (after : Served → Served)
    (h : ∀ f, answer f = after (f asked held found))
    (hshows : ∀ served, (after served).response = served.response) :
    Asks answer delivery holder state ↔ delivery = asked ∧ holder = held ∧ state = found := by
  constructor
  · rintro ⟨f, g, hdiff, hne⟩
    rw [h, h] at hne
    obtain ⟨hd, hh, hs⟩ := hdiff asked held found fun he => hne (by rw [he])
    exact ⟨hd.symm, hh.symm, hs.symm⟩
  · rintro ⟨rfl, rfl, rfl⟩
    classical
    refine ⟨fun _ h s => ⟨{ status := 200 }, [], s, h⟩, fun d h s =>
      ⟨{ status := if d = delivery ∧ h = holder ∧ s = state then 404 else 200 }, [], s, h⟩, ?_, ?_⟩
    · intro d h s hne
      by_contra hother
      exact hne (by simp [hother])
    · intro he
      rw [h, h] at he
      have hr := congrArg (·.response.status) he
      simp [hshows] at hr

end Handler

namespace Gate

open Handler (Asks)

/-- Whether a request needs a context: its path is neither excluded nor that of the callback. -/
def Guards (settings : GateSettings) (site : Site) (request : Http.Request) : Prop :=
  request.target.path ∉ settings.excludedPaths ∧ request.target.path ≠ site.client.callbackPath

instance (settings : GateSettings) (site : Site) (request : Http.Request) :
    Decidable (Guards settings site request) := inferInstanceAs (Decidable (_ ∧ _))

/-- What the gate finds stored for a request, and the sessions afterwards. -/
def lookUp (settings : GateSettings) (site : Site) (occasion : Occasion) (request : Http.Request)
    (state : SharedState) : Except Error (Option SecurityContext) × SessionStore :=
  (site.storage settings.storageMethod).load state.sessions occasion.now request.headers

/-- A browser that is sent to the provider to log in, with cookies; if there is no way to say where
the provider is, the answer is an error without cookies. -/
def SendsToLogin (site : Site) (request : Http.Request) (cookies : List Octets)
    (response : Http.Response) : Prop :=
  match site.client.authorizationUrl (site.origin request.headers)
      (some (request.target.pathAndQuery.getD "/")) with
  | .ok url => response.RedirectsTo url cookies
  | .error _ => response = Http.plainResponse 500 "authentication unavailable"

variable {settings : GateSettings} {site : Site} {occasion : Occasion} {inner : Handler}
  {delivery : Delivery} {holder : Holder} {state : SharedState}

/-- The redirect to the provider carries the cookies that it is given. -/
theorem sendsToLogin_loginRedirect (site : Site) (request : Http.Request) {cookies : Http.Headers}
    (h : cookies.octets Http.locationField = []) :
    SendsToLogin site request (cookies.octets Cookie.setCookieField)
      (loginRedirect site request cookies) := by
  unfold SendsToLogin loginRedirect
  split
  · next url hu =>
    simp only [hu]
    exact Http.redirectsTo_redirect url h
  · next e he => simp only [he]

/-- An excluded path passes as it came. -/
theorem serve_of_excluded (h : delivery.request.target.path ∈ settings.excludedPaths) :
    serve settings site occasion inner delivery holder state = inner delivery holder state := by
  simp only [serve, GateSettings.isExcluded_iff, h, if_true]

/-- On the callback path the gate completes a login. -/
theorem serve_of_callback (h : delivery.request.target.path ∉ settings.excludedPaths)
    (hp : delivery.request.target.path = site.client.callbackPath) :
    serve settings site occasion inner delivery holder state =
      callback settings site occasion delivery.request holder state := by
  simp only [serve, GateSettings.isExcluded_iff, h, if_false]
  rw [if_pos hp]

/-- A request with a stored context passes with this context attached and held. -/
theorem serve_of_found (h : Guards settings site delivery.request) {context : SecurityContext}
    (hl : (lookUp settings site occasion delivery.request state).1 = .ok (some context)) :
    serve settings site occasion inner delivery holder state =
      { inner { delivery with attached := some context } (.inside (some context))
          { state with sessions := (lookUp settings site occasion delivery.request state).2 } with
        holder } := by
  rw [lookUp] at hl ⊢
  simp only [serve, GateSettings.isExcluded_iff, h.1, h.2, if_false, hl]

/-- Without a stored context the browser is sent to the provider. -/
theorem serve_of_absent (h : Guards settings site delivery.request)
    (hl : (lookUp settings site occasion delivery.request state).1 = .ok none) :
    serve settings site occasion inner delivery holder state =
      { response := loginRedirect site delivery.request .empty
        state := { state with sessions := (lookUp settings site occasion delivery.request state).2 }
        holder } := by
  rw [lookUp] at hl ⊢
  simp only [serve, GateSettings.isExcluded_iff, h.1, h.2, if_false, hl]

/-- What is stored but cannot be read is cleared first, which touches no session. -/
theorem serve_of_unreadable (h : Guards settings site delivery.request) {e : Error}
    (hl : (lookUp settings site occasion delivery.request state).1 = .error e) :
    serve settings site occasion inner delivery holder state =
      { response := loginRedirect site delivery.request
          ((site.storage settings.storageMethod).clear state.sessions delivery.request.headers
            .empty).cookies
        state, holder } := by
  rw [lookUp] at hl
  obtain ⟨hm, hs⟩ := Storage.load_of_error hl
  have hsame : ∀ cookies, ((site.storage settings.storageMethod).clear state.sessions
      delivery.request.headers cookies).sessions = state.sessions := by
    intro cookies
    rw [Storage.sessions_clear, if_neg (by rw [hm]; decide)]
  simp only [serve, GateSettings.isExcluded_iff, h.1, h.2, if_false, hl,
    Storage.isContextUnreadable_of_load hl, if_true, hs, hsame]

/-- Every path is excluded, that of the callback or guarded. -/
theorem excluded_or_callback_or_guards (settings : GateSettings) (site : Site)
    (request : Http.Request) :
    request.target.path ∈ settings.excludedPaths ∨
      (request.target.path ∉ settings.excludedPaths ∧
        request.target.path = site.client.callbackPath) ∨ Guards settings site request := by
  by_cases hx : request.target.path ∈ settings.excludedPaths
  · exact .inl hx
  · by_cases hp : request.target.path = site.client.callbackPath
    · exact .inr (.inl ⟨hx, hp⟩)
    · exact .inr (.inr ⟨hx, hp⟩)

/-- The two ways to pass the gate: an excluded path as it came, and a guarded one with its stored
context, attached to the request and held. -/
inductive Passes (settings : GateSettings) (site : Site) (occasion : Occasion)
    (delivery : Delivery) (holder : Holder) (state : SharedState) :
    Delivery → Holder → SharedState → Prop where
  | excluded (h : delivery.request.target.path ∈ settings.excludedPaths) :
    Passes settings site occasion delivery holder state delivery holder state
  | found (h : Guards settings site delivery.request) (context : SecurityContext)
    (hl : (lookUp settings site occasion delivery.request state).1 = .ok (some context)) :
    Passes settings site occasion delivery holder state { delivery with attached := some context }
      (.inside (some context))
      { state with sessions := (lookUp settings site occasion delivery.request state).2 }

/-- Whom the gate refuses, it refuses without the handler. -/
private theorem not_asks_serve {served : Served} {asked : Delivery} {held : Holder}
    {found : SharedState}
    (h : ∀ inner, serve settings site occasion inner delivery holder state = served) :
    ¬ Asks (serve settings site occasion · delivery holder state) asked held found :=
  Handler.not_asks_of_forall_eq fun f g => by rw [h f, h g]

/-- The gate asks the handler behind it for those who pass and for nobody else. -/
theorem asks_serve_iff {asked : Delivery} {held : Holder} {found : SharedState} :
    Asks (serve settings site occasion · delivery holder state) asked held found ↔
      Passes settings site occasion delivery holder state asked held found := by
  rcases excluded_or_callback_or_guards settings site delivery.request with hx | ⟨hx, hp⟩ | hg
  · rw [Handler.asks_iff_of_response id (fun _ => serve_of_excluded hx) fun _ => rfl]
    constructor
    · rintro ⟨rfl, rfl, rfl⟩
      exact .excluded hx
    · rintro (h | ⟨hg, -, -⟩)
      · exact ⟨rfl, rfl, rfl⟩
      · exact absurd hx hg.1
  · refine iff_of_false (not_asks_serve fun _ => serve_of_callback hx hp) ?_
    rintro (h | ⟨hg, -, -⟩)
    · exact hx h
    · exact hg.2 hp
  · have hx := hg.1
    -- only what the storage finds matters for a guarded path
    cases hl : (lookUp settings site occasion delivery.request state).1 with
    | error e =>
      refine iff_of_false (not_asks_serve fun _ => serve_of_unreadable hg hl) ?_
      rintro (h | ⟨-, context, h⟩)
      · exact hx h
      · cases hl.symm.trans h
    | ok context =>
      cases context with
      | none =>
        refine iff_of_false (not_asks_serve fun _ => serve_of_absent hg hl) ?_
        rintro (h | ⟨-, context, h⟩)
        · exact hx h
        · cases hl.symm.trans h
      | some context =>
        rw [Handler.asks_iff_of_response (fun served => { served with holder })
          (fun _ => serve_of_found hg hl) fun _ => rfl]
        constructor
        · rintro ⟨rfl, rfl, rfl⟩
          exact .found hg context hl
        · rintro (h | ⟨-, other, h⟩)
          · exact absurd h hx
          · cases hl.symm.trans h
            exact ⟨rfl, rfl, rfl⟩

/-- The answers of the gate before a handler. -/
structure Answers (settings : GateSettings) (site : Site) (occasion : Occasion) (inner : Handler)
    (delivery : Delivery) (holder : Holder) (state : SharedState) (served : Served) : Prop where
  /-- An excluded path gets the answer of the handler. -/
  excluded : delivery.request.target.path ∈ settings.excludedPaths →
    served = inner delivery holder state
  /-- The callback path gets the answer of the callback. -/
  callback : delivery.request.target.path ∉ settings.excludedPaths →
    delivery.request.target.path = site.client.callbackPath →
    served = callback settings site occasion delivery.request holder state
  /-- With a context the handler's answer stays as it is, and so does the holder of the task. -/
  found : Guards settings site delivery.request → ∀ context,
    (lookUp settings site occasion delivery.request state).1 = .ok (some context) →
    served = { inner { delivery with attached := some context } (.inside (some context))
        { state with sessions := (lookUp settings site occasion delivery.request state).2 } with
      holder }
  /-- Without one the browser is sent to the provider. -/
  absent : Guards settings site delivery.request →
    (lookUp settings site occasion delivery.request state).1 = .ok none →
    SendsToLogin site delivery.request [] served.response ∧ served.calls = [] ∧
      served.holder = holder ∧ served.state = { state with
        sessions := (lookUp settings site occasion delivery.request state).2 }
  /-- The only other failure is a context that cannot be read. Its cookies are expired, if a field
  can hold their options. -/
  unreadable : Guards settings site delivery.request → ∀ e,
    (lookUp settings site occasion delivery.request state).1 = .error e →
    e.isContextUnreadable = true ∧
      SendsToLogin site delivery.request
        (if site.cookieOptions.IsWritable then
          (site.storage settings.storageMethod).names.map fun name =>
            Octets.ofText (site.cookieOptions.expireCookie name)
        else [])
        served.response ∧ served.calls = [] ∧ served.holder = holder ∧ served.state = state

/-- The gate answers as it should. -/
theorem answers_serve (settings : GateSettings) (site : Site) (occasion : Occasion)
    (inner : Handler) (delivery : Delivery) (holder : Holder) (state : SharedState) :
    Answers settings site occasion inner delivery holder state
      (serve settings site occasion inner delivery holder state) where
  excluded := serve_of_excluded
  callback := serve_of_callback
  found := fun hg _ hl => serve_of_found hg hl
  absent := by
    intro hg hl
    rw [serve_of_absent hg hl]
    exact ⟨sendsToLogin_loginRedirect site delivery.request rfl, rfl, rfl, rfl⟩
  unreadable := by
    intro hg e hl
    have hcookies := Storage.octets_clear (site.storage settings.storageMethod) state.sessions
      delivery.request.headers .empty
    rw [serve_of_unreadable hg hl]
    refine ⟨Storage.isContextUnreadable_of_load hl, ?_, rfl, rfl, rfl⟩
    have hset := hcookies Cookie.setCookieField
    rw [if_pos rfl] at hset
    have hlocation := hcookies Http.locationField
    rw [if_neg (by decide)] at hlocation
    change SendsToLogin site delivery.request (Cookie.expirations site.cookieOptions _) _
    rw [show Cookie.expirations site.cookieOptions _ = _ from hset.symm]
    exact sendsToLogin_loginRedirect site delivery.request hlocation

/-- A request that needs a context and has none is sent to the provider. -/
theorem sendsToLogin_serve (occasion : Occasion) (inner : Handler) (delivery : Delivery)
    (holder : Holder) (state : SharedState) (hguarded : Guards settings site delivery.request)
    (hstopped : ∀ context,
      (lookUp settings site occasion delivery.request state).1 ≠ .ok (some context)) :
    ∃ cookies, SendsToLogin site delivery.request cookies
      (serve settings site occasion inner delivery holder state).response := by
  have hanswers := answers_serve settings site occasion inner delivery holder state
  cases hl : (lookUp settings site occasion delivery.request state).1 with
  | error e => exact ⟨_, (hanswers.unreadable hguarded e hl).2.1⟩
  | ok found =>
    cases found with
    | none => exact ⟨_, (hanswers.absent hguarded hl).1⟩
    | some context => exact absurd hl (hstopped context)

/-- The gate lets a request pass in two cases only, and answers every other one by itself. -/
theorem asks_and_answers (settings : GateSettings) (site : Site) (occasion : Occasion)
    (inner : Handler) (delivery : Delivery) (holder : Holder) (state : SharedState) :
    (∀ asked held found,
      Asks (serve settings site occasion · delivery holder state) asked held found ↔
        Passes settings site occasion delivery holder state asked held found) ∧
      Answers settings site occasion inner delivery holder state
        (serve settings site occasion inner delivery holder state) :=
  ⟨fun _ _ _ => asks_serve_iff, answers_serve settings site occasion inner delivery holder state⟩

end Gate

end SignOn
