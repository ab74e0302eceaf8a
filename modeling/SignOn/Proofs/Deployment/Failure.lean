import SignOn.Proofs.Deployment.RoundTrip

/-!
# Failed logins

A callback that does not send the browser on changes nothing. The save by itself is not atomic: it
drops the presented session before it writes the cookie, and the cookie may be refused. Whether it
is depends on the cookie attributes of the site alone, so a site where saving fails has never begun
a session, and there is none to lose.
-/

namespace SignOn

namespace Gate

/-- A callback that does not send the browser on answers in plain text. -/
theorem plain_of_not_redirected {settings : GateSettings} {site : Site} {occasion : Occasion}
    {request : Http.Request} {holder : Holder} {state : SharedState}
    (h : (callback settings site occasion request holder state).response.status ≠ 302) :
    ∃ status body, (callback settings site occasion request holder state).response =
      Http.plainResponse status body := by
  unfold callback at h ⊢
  simp only at h ⊢
  split
  · exact ⟨401, _, rfl⟩
  · exact ⟨400, _, rfl⟩
  · next he hc =>
    simp only [he, hc] at h
    split
    · next ho =>
      simp only [ho] at h
      exact absurd rfl h
    · exact ⟨401, _, rfl⟩

end Gate

namespace Storage

open Http (Headers)

variable {s : Storage} {sessions : SessionStore} {fresh : Fresh}

/-- A server session can be begun exactly where cookies can be written. -/
theorem canWriteKey_iff (s : Storage) (fresh : Fresh) :
    s.CanWriteKey fresh ↔ s.cookieOptions.IsWritable := by
  have hname : ∀ c ∈ Cookie.serverSessionName.toList, Http.IsFieldChar c :=
    Http.forall_isFieldChar (by decide)
  have hkey := Http.FieldValue.isFieldChar_of_asciiFrom
    ((visible_key fresh.sessionKey).1.mono (by decide : 0x20 ≤ 0x21))
  rw [CanWriteKey, Http.FieldValue.isSome_ofText?_iff, Cookie.isFieldChar_setCookie_iff hname hkey]

/-- Without sessions there is none to drop. -/
theorem withoutPresented_of_empty (h : sessions.sessions = .empty) (request : Headers) :
    withoutPresented sessions request = sessions := by
  obtain ⟨_, window, lastSweep⟩ := sessions
  obtain rfl : _ = Table.empty := h
  unfold withoutPresented
  cases presentedKey? request with
  | none => rfl
  | some key => rfl

/-- Without sessions there is none to read. -/
theorem load_of_empty (h : sessions.sessions = .empty) (s : Storage) (now : Int)
    (request : Headers) : (s.load sessions now request).2 = sessions := by
  unfold load
  split
  · rfl
  · split
    · rfl
    · simp only [SessionStore.get, h, Table.get?_empty]

/-- Without sessions there is none to clear. -/
theorem sessions_clear_of_empty (h : sessions.sessions = .empty) (s : Storage)
    (request cookies : Headers) : (s.clear sessions request cookies).sessions = sessions := by
  rw [sessions_clear, withoutPresented_of_empty h, ite_self]

/-- Where no cookie can be written no session begins. -/
theorem sessions_save_of_empty (h : sessions.sessions = .empty)
    (ho : ¬ s.cookieOptions.IsWritable) (now : Int) (request cookies : Headers)
    (context : SecurityContext) :
    (s.save sessions now fresh request cookies context).sessions = sessions := by
  have hno := mt (canWriteKey_iff s fresh).mp ho
  have hnone : Http.FieldValue.ofText? (s.cookieOptions.setCookie Cookie.serverSessionName
      (SessionKey.ofRandom fresh.sessionKey)) = none := Option.not_isSome_iff_eq_none.mp hno
  unfold save
  split
  · rfl
  · simp only [Cookie.append, hnone]
    exact withoutPresented_of_empty h request

/-- A save that fails where cookies can be written was one to the cookies alone. -/
theorem method_of_outcome_error {now : Int} {request cookies : Headers} {context : SecurityContext}
    {e : Error} (ho : s.cookieOptions.IsWritable)
    (h : (s.save sessions now fresh request cookies context).outcome = .error e) :
    s.method = .cookie := by
  cases hm : s.method with
  | cookie => rfl
  | session =>
    have hok := (outcome_save hm sessions now fresh request cookies context).mpr
      ((canWriteKey_iff s fresh).mpr ho)
    cases h.symm.trans hok

end Storage

namespace Logout

/-- Without sessions a logout has none to end. -/
theorem sessions_serve_of_empty {state : SharedState} (h : state.sessions.sessions = .empty)
    (settings : LogoutSettings) (site : Site) (occasion : Occasion) (delivery : Delivery)
    (holder : Holder) :
    (serve settings site occasion delivery holder state).state.sessions = state.sessions := by
  have hfind : (find (site.storage settings.storageMethod) state.sessions occasion.now
      delivery.request.headers holder).sessions = state.sessions := by
    have hload := Storage.load_of_empty h (site.storage settings.storageMethod) occasion.now
      delivery.request.headers
    unfold find
    split
    · rfl
    · split
      · next hl => rwa [hl] at hload
      · next hl =>
        rw [hl] at hload
        obtain rfl : _ = state.sessions := hload
        exact Storage.sessions_clear_of_empty h _ _ _
  unfold serve
  simp only
  split
  · exact hfind
  · rw [hfind]
    exact Storage.sessions_clear_of_empty h _ _ _

end Logout

namespace Deployment

variable {d : Deployment} {v : Visit} {state : SharedState}

private theorem Leaves.sessions_of_empty {after : SharedState} (hleaves : d.Leaves v state after)
    (ho : ¬ d.site.cookieOptions.IsWritable) (h : state.sessions.sessions = .empty) :
    after.sessions = state.sessions := by
  induction hleaves with
  | unchanged => rfl
  | lookedUp => exact Storage.load_of_empty h _ _ _
  | loggedOut _ delivery holder ih =>
    exact (Logout.sessions_serve_of_empty (ih ▸ h) _ _ _ _ _).trans ih
  | unwritten context => exact Storage.sessions_save_of_empty h ho _ _ _ _
  | saved context => exact Storage.sessions_save_of_empty h ho _ _ _ _

/-- Where no cookie can be written no visit begins a session. -/
theorem sessions_serve_of_empty (ho : ¬ d.site.cookieOptions.IsWritable)
    (h : state.sessions.sessions = .empty) (v : Visit) :
    (d.serve v state).state.sessions = state.sessions :=
  (leaves_serve d v state).sessions_of_empty ho h

end Deployment

/-- The states that a site comes to: it begins without sessions and connections, filters that share
it serve visits, and sweeps take away what has expired. -/
inductive Site.Reaches (site : Site) : SharedState → Prop where
  | start (window timeToLive now : Int) : site.Reaches ⟨.create window now, { timeToLive }⟩
  | serve {state : SharedState} (h : site.Reaches state) (d : Deployment) (hd : d.site = site)
    (v : Visit) : site.Reaches (d.serve v state).state
  | sweep {state : SharedState} (h : site.Reaches state) (now : Int) :
    site.Reaches (state.sweep now)

/-- A site where no cookie can be written has no sessions. -/
theorem Site.Reaches.eq_empty {site : Site} {state : SharedState} (h : site.Reaches state)
    (ho : ¬ site.cookieOptions.IsWritable) : state.sessions.sessions = .empty := by
  induction h with
  | start window timeToLive now => rfl
  | serve h d hd v ih =>
    subst hd
    rw [Deployment.sessions_serve_of_empty ho ih v]
    exact ih
  | @sweep state h now ih =>
    simp only [SharedState.sweep, SessionStore.sweep, ih]
    rfl

namespace Deployment

variable {d : Deployment} {v : Visit} {state : SharedState}

/-- Where cookies can be written, a failed save leaves all sessions as they are. -/
theorem sessions_saved_of_isWritable (ho : d.site.cookieOptions.IsWritable)
    {context : SecurityContext} {e : Error}
    (he : (Gate.saved d.gate d.site v.occasion v.request state context).outcome = .error e) :
    (Gate.saved d.gate d.site v.occasion v.request state context).sessions = state.sessions := by
  have hm : (d.site.storage d.gate.storageMethod).method = .cookie :=
    Storage.method_of_outcome_error ho he
  simp only [Gate.saved, Storage.save, hm]

/-- A failed save leaves the sessions that a site comes to as they are. -/
theorem sessions_saved_of_error (h : d.site.Reaches state) {context : SecurityContext} {e : Error}
    (he : (Gate.saved d.gate d.site v.occasion v.request state context).outcome = .error e) :
    (Gate.saved d.gate d.site v.occasion v.request state context).sessions = state.sessions := by
  by_cases ho : d.site.cookieOptions.IsWritable
  · exact sessions_saved_of_isWritable ho he
  · exact Storage.sessions_save_of_empty (h.eq_empty ho) ho _ _ _ _

/-- A failed login changes nothing: sessions and connections are as before, and the browser is told
nothing to keep. -/
theorem unchanged_of_failed (h : d.site.Reaches state) (hback : d.CallsBack v)
    (hfailed : (d.serve v state).response.status ≠ 302) :
    (d.serve v state).state = state ∧
      (d.serve v state).response.headers.values Cookie.setCookieField = [] := by
  constructor
  · cases completed_serve state hback.1 hback.2 with
    | refused _ _ hstate => exact hstate
    | unwritten context _ e hsaved _ hstate =>
      rw [hstate, sessions_saved_of_error h hsaved]
    | done _ _ _ _ hresponse _ =>
      rw [hresponse] at hfailed
      exact absurd rfl hfailed
  · rw [serve_of_callback hback.1 hback.2] at hfailed ⊢
    obtain ⟨status, body, hplain⟩ := Gate.plain_of_not_redirected hfailed
    rw [hplain]
    rfl

/-- A deployment with server sessions whose cookies no field can hold. -/
def sampleUnwritable : Deployment :=
  { sample .session ⟨[]⟩ with
    site := { client := { key := "key" }, cipher := ⟨[]⟩, cookieOptions := { path := "\n" } } }

/-- A login there fails at the cookie, after its save has dropped the presented session. -/
theorem unchanged_sampleUnwritable :
    let login := sampleVisit 5 "/_auth" (some "code=1")
      "force_session=00000000000040008000000000000000"
    (sampleUnwritable.serve login ⟨.create 10 0, { timeToLive := 0 }⟩).state =
        ⟨.create 10 0, { timeToLive := 0 }⟩ ∧
      (sampleUnwritable.serve login ⟨.create 10 0, { timeToLive := 0 }⟩).response.headers.values
        Cookie.setCookieField = [] :=
  unchanged_of_failed (.start 10 0 0) (by decide +kernel) (by decide +kernel)

/-- In a state that the site never comes to, with the presented session in it, the same login would
lose that session. -/
example :
    let state : SharedState := {
      sessions := (SessionStore.create 10 0).put 0 "00000000000040008000000000000000" sampleContext
      connections := { timeToLive := 0 } }
    state.sessions.size = 1 ∧
      (sampleUnwritable.serve (sampleVisit 5 "/_auth" (some "code=1")
        "force_session=00000000000040008000000000000000") state).state.sessions.size = 0 := by
  decide +kernel

end Deployment

end SignOn
