import SignOn.Proofs.Deployment.Lifetime
import SignOn.Proofs.Storage.RoundTrip

/-!
# Logins that last

A browser that has been through a completed callback and carries its cookies back reaches the pages,
and they see the context that the token and the user of the backend give. The cookie storage needs
nothing else, whatever happened in between; a server session must not have ended.
-/

namespace SignOn

namespace Token

variable {token : Token} {user : UserRecord} {apiVersion : String} {context : SecurityContext}

/-- The session id of a context is the token. -/
theorem sessionId_of_toContext (h : token.toContext user apiVersion = .ok context) :
    context.sessionId = token.accessToken := by
  simp only [toContext, bind, Except.bind, pure, Except.pure] at h
  split at h
  · cases h
  split at h
  · cases h
  · rw [← Except.ok.inj h]

/-- An outcome that is not an error is left alone. -/
private theorem eq_ok_of_mapError {ε ε' α : Type} {f : ε → ε'} {x : Except ε α} {a : α}
    (h : x.mapError f = .ok a) : x = .ok a := by
  cases x with
  | error e => cases h
  | ok b => exact congrArg Except.ok (Except.ok.inj h)

/-- The endpoint of a context is ASCII, whatever the provider says its host is. -/
theorem isAscii_endpoint_of_toContext (h : token.toContext user apiVersion = .ok context) :
    context.endpoint.IsAscii := by
  simp only [toContext, bind, Except.bind, pure, Except.pure] at h
  split at h
  · cases h
  next site hsite =>
  split at h
  · cases h
  next endpoint hendpoint =>
  rw [← Except.ok.inj h]
  exact Url.isAscii_of_join (Url.isAscii_of_parse (eq_ok_of_mapError hsite))
    (eq_ok_of_mapError hendpoint)

end Token

namespace Deployment

variable {d : Deployment} {state : SharedState} {login v : Visit} {context : SecurityContext}

/-- Whether a visit is one to the callback. -/
def CallsBack (d : Deployment) (v : Visit) : Prop :=
  v.request.target.path ∉ d.gate.excludedPaths ∧
    v.request.target.path = d.site.client.callbackPath

instance (d : Deployment) (v : Visit) : Decidable (d.CallsBack v) :=
  inferInstanceAs (Decidable (_ ∧ _))

/-- Whether the session that a login began is still there at a later visit: the clock has not gone
back, its key was neither drawn again nor revoked, and it was never left unread for longer than the
window. -/
structure Endures (d : Deployment) (window : Int) (login : Visit) (history : List Visit)
    (v : Visit) : Prop where
  clock : (login.time :: (history.map Visit.time ++ [v.time])).IsChain (· ≤ ·)
  fresh : login.freshKey ∉ d.drawn history
  kept : ∀ w ∈ history, ¬ d.Revokes w login.freshKey
  unbroken : Session.Unbroken window
    ((login :: history.filter fun w => d.Loads w login.freshKey).map Visit.time ++ [v.time])

private theorem isAscii_endpoint_of_built? {settings : GateSettings} {site : Site}
    {occasion : Occasion} {request : Http.Request}
    (h : Gate.built? settings site occasion request = some context) :
    context.endpoint.IsAscii := by
  obtain ⟨calls, token, user, hgranted⟩ := Gate.granted_of_built? h
  exact Token.isAscii_endpoint_of_toContext hgranted.context

/-- A callback that sends the browser on has saved a context and set the cookies for it. -/
theorem octets_of_redirect (hback : d.CallsBack login)
    (h302 : (d.serve login state).response.status = 302) :
    ∃ context, d.saves? login = some context ∧
      (∃ token user, Gate.Granted d.gate login.occasion.backend (d.serve login state).calls token
        user context) ∧
      (d.serve login state).response.headers.octets Cookie.setCookieField =
        ((d.site.storage d.gate.storageMethod).contextPairs login.occasion.fresh context).map
          fun pair => Octets.ofText (d.site.cookieOptions.setCookie pair.1 pair.2) := by
  have hsaves : d.saves? login = Gate.built? d.gate d.site login.occasion login.request :=
    if_pos hback
  cases completed_serve state hback.1 hback.2 with
  | refused _ hstatus _ => exact absurd h302 hstatus
  | unwritten _ _ _ _ hstatus _ => exact absurd h302 hstatus
  | done context hbuilt hgranted hsaved hresponse _ =>
    refine ⟨context, hsaves.trans hbuilt, hgranted, ?_⟩
    have hoctets := Storage.octets_save hsaved
    have hdiffer : ¬ Text.lower Cookie.setCookieField = Text.lower Http.locationField := by decide
    have hlocation : (Gate.saved d.gate d.site login.occasion login.request state
        context).cookies.octets Http.locationField = [] := by
      rw [Gate.saved, hoctets, if_neg hdiffer]
      rfl
    rw [hresponse, (Http.redirectsTo_redirect _ hlocation).cookies, Gate.saved, hoctets, if_pos rfl]
    rfl

/-- The browser keeps the pairs of these cookies. -/
theorem saves_of_redirect (hback : d.CallsBack login)
    (h302 : (d.serve login state).response.status = 302) :
    ∃ context, d.saves? login = some context ∧
      (∃ token user, Gate.Granted d.gate login.occasion.backend (d.serve login state).calls token
        user context) ∧
      Cookie.setPairs (d.serve login state).response.headers =
        (d.site.storage d.gate.storageMethod).keptPairs login.occasion.fresh context := by
  obtain ⟨context, hsaves, hgranted, hset⟩ := octets_of_redirect hback h302
  exact ⟨context, hsaves, hgranted, Storage.setPairs_eq_keptPairs hset⟩

/-- A session that endures gives a later visit its context. -/
theorem admits_of_endures (hgate : d.gate.storageMethod = .session) (hback : d.CallsBack login)
    (hsaves : d.saves? login = some context) (h302 : (d.serve login state).response.status = 302)
    {history : List Visit} (hendures : d.Endures state.sessions.window login history v)
    (hg : Gate.Guards d.gate d.site v.request) (hp : v.Presents login.freshKey) :
    d.Admits v (d.after (d.serve login state).state history) context := by
  have hkey := freshKey_ne_empty login
  have hissue : d.Issues ⟨login, d.serve login state⟩ login.freshKey context := ⟨hsaves, h302, rfl⟩
  have hbegins := turn_eq_begins_iff.mpr hissue
  have honce : ∀ e ∈ d.transcript (d.serve login state).state history, ∀ other,
      ¬ d.Issues e login.freshKey other := by
    intro e he other hagain
    exact hendures.fresh (mem_drawn_of_issues (visit_mem_of_mem_transcript he) hagain)
  have hlogout : ∀ w ∈ login :: history, d.LogsOut w → w.Presents login.freshKey →
      d.logout.storageMethod = .session := by
    intro w hw hl hpresents
    rcases List.mem_cons.mp hw with rfl | hw
    · rcases hl.2 with hx | hpath
      · exact absurd hx hback.1
      · exact absurd hback.2 hpath
    · exact absurd ⟨hpresents, .inl hl⟩ (hendures.kept w hw)
  have hclock : (login.time :: ((login :: history).map Visit.time ++ [v.time])).IsChain (· ≤ ·) :=
    List.isChain_cons_cons.mpr ⟨Int.le_refl _, hendures.clock⟩
  have htracks := tracks_after hgate hkey state (login :: history) hlogout hclock
    (SessionStore.tracks_self state.sessions login.freshKey login.time)
  rw [transcript, Session.follow_cons_of_begins hbegins] at htracks
  have hwindow := window_after d state (login :: history)
  change d.Admits v (d.after state (login :: history)) context
  rw [admits_iff_given hgate hkey hg hp htracks, hwindow, Session.given_follow_eq_some_iff]
  refine ⟨[], _, _, rfl, hbegins, (lasts_iff_of_issued honce).mpr ⟨fun e he => ?_, ?_⟩⟩
  · exact hendures.kept e.visit (visit_mem_of_mem_transcript he)
  · have hunbroken := hendures.unbroken
    rw [← d.map_visit_transcript (d.serve login state).state history, List.map_cons,
      List.filter_map, List.map_map] at hunbroken
    exact hunbroken

/-- After a login every guarded visit of a browser that carries the cookies back is admitted with
the context of the token and the user that the backend gave. -/
theorem admits_after_login (d : Deployment) {secret : String}
    (hsecret : Cipher.ofSecret secret = .ok d.site.cipher) (state : SharedState) (login : Visit)
    (hback : d.CallsBack login) (h302 : (d.serve login state).response.status = 302)
    {code redirectUri : String} {token : Token} {user : UserRecord}
    (hcalls : (d.serve login state).calls = [.exchangeCode code redirectUri, .userRecord token])
    (hrecord : login.occasion.backend.userRecord token = .ok user)
    (hvisible : Text.AsciiFrom 0x21 token.accessToken.toList)
    (hurl : ∀ context, token.toContext user d.gate.apiVersion = .ok context →
      Url.parse context.endpoint.text = .ok context.endpoint) :
    ∃ context, token.toContext user d.gate.apiVersion = .ok context ∧
      ∀ history v fields, Gate.Guards d.gate d.site v.request →
        Cookie.Carries v.request.headers (Cookie.setPairs (d.serve login state).response.headers)
          fields →
        (d.gate.storageMethod = .session → d.Endures state.sessions.window login history v) →
        d.Admits v (d.after (d.serve login state).state history) context := by
  obtain ⟨context, hsaves, ⟨token', user', hgranted⟩, hset⟩ := saves_of_redirect hback h302
  obtain ⟨code', redirectUri', -, hcalls'⟩ := hgranted.calls
  have htoken : token' = token := by
    have hboth := hcalls'.symm.trans hcalls
    simp only [List.cons.injEq, BackendCall.userRecord.injEq, and_true] at hboth
    exact hboth.2
  subst htoken
  have huser : user' = user := Except.ok.inj (hgranted.record.symm.trans hrecord)
  subst huser
  have hcontext := hgranted.context
  have hsid : Text.AsciiFrom 0x20 context.sessionId.toList := by
    rw [Token.sessionId_of_toContext hcontext]
    exact hvisible.mono (by decide)
  have hendpoint := Url.asciiFrom_text (Token.isAscii_endpoint_of_toContext hcontext)
  refine ⟨context, hcontext, fun history v fields hg hcarries hendures => ?_⟩
  rw [hset] at hcarries
  cases hm : d.gate.storageMethod with
  | cookie =>
    rw [admits_iff d hg]
    exact Storage.load_of_carries hm (Cipher.isSchedule_of_ofSecret hsecret) hsid hendpoint
      (hurl context hcontext) hcarries _ _
  | session =>
    exact admits_of_endures hm hback hsaves h302 (hendures hm) hg
      (Storage.find?_of_carries hm hcarries)

/-- A login succeeds wherever cookies can be written: what it saves is printable. -/
theorem redirects_of_isWritable (hback : d.CallsBack login) (hsaves : d.saves? login = some context)
    (hsid : Text.AsciiFrom 0x20 context.sessionId.toList) (ho : d.site.cookieOptions.IsWritable) :
    (d.serve login state).response.status = 302 := by
  have hbuilt : Gate.built? d.gate d.site login.occasion login.request = some context :=
    (if_pos hback).symm.trans hsaves
  have hendpoint := Url.asciiFrom_text (isAscii_endpoint_of_built? hbuilt)
  have hok : (Gate.saved d.gate d.site login.occasion login.request state context).outcome =
      .ok () := Storage.outcome_save_of_isWritable ho hsid hendpoint _ _ _ _
  cases completed_serve state hback.1 hback.2 with
  | refused hnone _ _ => cases hbuilt.symm.trans hnone
  | unwritten other hother e hsaved _ _ =>
    obtain rfl := Option.some.inj (hbuilt.symm.trans hother)
    cases hok.symm.trans hsaved
  | done _ _ _ _ hresponse _ =>
    rw [hresponse]
    rfl

/-- A deployment that keeps contexts in cookies. -/
def sampleSealing : Deployment :=
  sample .cookie ⟨Aes256.roundKeys (Sha256.digest (Octets.ofText "a secret of enough length"))⟩

/-- A login there. -/
def sampleLogin : Served :=
  sampleSealing.serve (sampleVisit 0 "/_auth" (some "code=1") "")
    ⟨.create 10 0, { timeToLive := 0 }⟩

/-- A browser that sends back what a login has set is admitted, however late. -/
theorem admits_sampleLogin :
    sampleSealing.Admits
      (sampleVisit 1000 "/" none (Cookie.fieldText (Cookie.setPairs sampleLogin.response.headers)))
      (sampleSealing.after sampleLogin.state []) sampleContext := by
  have hsecret : Cipher.ofSecret "a secret of enough length" = .ok sampleSealing.site.cipher := rfl
  have hback : sampleSealing.CallsBack (sampleVisit 0 "/_auth" (some "code=1") "") := by
    decide +kernel
  have hsaves : sampleSealing.saves? (sampleVisit 0 "/_auth" (some "code=1") "") =
      some sampleContext := by decide +kernel
  have hsid : Text.AsciiFrom 0x20 sampleContext.sessionId.toList :=
    Text.asciiFrom_of_all (by decide)
  have hwritable : sampleSealing.site.cookieOptions.IsWritable :=
    ⟨fun _ h => absurd h (Option.not_mem_none _), Http.forall_isFieldChar (by decide)⟩
  have h302 : sampleLogin.response.status = 302 :=
    redirects_of_isWritable hback hsaves hsid hwritable
  obtain ⟨context, hsaved, ⟨token, user, hgranted⟩, hset⟩ := saves_of_redirect hback h302
  obtain rfl := Option.some.inj (hsaves.symm.trans hsaved)
  obtain ⟨code, redirectUri, htoken, hcalls⟩ := hgranted.calls
  obtain rfl := Except.ok.inj htoken
  obtain ⟨other, hother, hadmits⟩ := admits_after_login sampleSealing hsecret _ _ hback h302 hcalls
    hgranted.record (Text.asciiFrom_of_all (by decide)) fun context hcontext => by
      obtain rfl := Except.ok.inj (hgranted.context.symm.trans hcontext)
      decide +kernel
  obtain rfl := Except.ok.inj (hgranted.context.symm.trans hother)
  refine hadmits [] _ _ (by decide +kernel) (Cookie.carries_single ?_) fun h => by cases h
  have hset' : Cookie.setPairs sampleLogin.response.headers = _ := hset
  rw [hset']
  exact Storage.isPair_keptPairs hsid
    (Url.asciiFrom_text (Token.isAscii_endpoint_of_toContext hgranted.context))

end Deployment

end SignOn
