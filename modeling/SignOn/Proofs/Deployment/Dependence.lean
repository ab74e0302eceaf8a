import SignOn.Proofs.Deployment.Lifetime

/-!
# What an answer depends on

The filters of a site share its sessions and connections, but an answer shows little of them: what
the storage finds for the request and, at a logout, the connection of the context that is found.
Two states that agree on this much are answered alike, with the same calls of the backend.
-/

namespace SignOn

/-- What serving a request shows to the outside: the response and the calls of the backend. -/
def Served.seen (served : Served) : Http.Response × List BackendCall :=
  (served.response, served.calls)

/-- What an exchange shows to the outside. -/
def Exchange.seen (e : Exchange) : Visit × Http.Response × List BackendCall :=
  (e.visit, e.served.seen)

namespace Storage

open Http (Headers)

/-- Whether a context can be kept, and in which cookies, does not depend on the sessions. -/
theorem written_save (s : Storage) (a b : SessionStore) (now : Int) (fresh : Fresh)
    (request cookies : Headers) (context : SecurityContext) :
    (s.save a now fresh request cookies context).outcome =
        (s.save b now fresh request cookies context).outcome ∧
      (s.save a now fresh request cookies context).cookies =
        (s.save b now fresh request cookies context).cookies := by
  unfold save
  cases s.method with
  | cookie => exact ⟨rfl, rfl⟩
  | session =>
    simp only
    cases Cookie.append cookies s.cookieOptions Cookie.serverSessionName
        (SessionKey.ofRandom fresh.sessionKey) with
    | ok written => exact ⟨rfl, rfl⟩
    | error e => exact ⟨rfl, rfl⟩

end Storage

namespace Gate

variable (settings : GateSettings) (site : Site) (occasion : Occasion)

/-- What a login comes to, and what it asks the backend, does not depend on the state. -/
theorem written_authenticate (request : Http.Headers) (a b : SharedState) (code : String) :
    (authenticate settings site occasion request a code).outcome =
        (authenticate settings site occasion request b code).outcome ∧
      (authenticate settings site occasion request a code).cookies =
        (authenticate settings site occasion request b code).cookies ∧
      (authenticate settings site occasion request a code).calls =
        (authenticate settings site occasion request b code).calls := by
  have hsave := (site.storage settings.storageMethod).written_save a.sessions b.sessions
    occasion.now occasion.fresh request .empty
  unfold authenticate
  split
  · exact ⟨rfl, rfl, rfl⟩
  · split
    · exact ⟨rfl, rfl, rfl⟩
    · simp only
      split
      · exact ⟨rfl, rfl, rfl⟩
      · unfold enroll
        split
        · exact ⟨rfl, rfl, rfl⟩
        · next context _ =>
          obtain ⟨houtcome, hcookies⟩ := hsave context
          simp only [houtcome, hcookies]
          split
          · exact ⟨rfl, rfl, rfl⟩
          · exact ⟨rfl, rfl, rfl⟩

/-- A callback is answered alike in all states. -/
theorem seen_callback (request : Http.Request) (holder : Holder) (a b : SharedState) :
    (callback settings site occasion request holder a).seen =
      (callback settings site occasion request holder b).seen := by
  unfold callback
  simp only
  split
  · rfl
  · rfl
  · next code _ _ =>
    obtain ⟨houtcome, hcookies, hcalls⟩ :=
      written_authenticate settings site occasion request.headers a b code
    simp only [houtcome, hcookies, hcalls]
    split
    · rfl
    · rfl

end Gate

namespace Logout

variable {settings : LogoutSettings} {site : Site} {occasion : Occasion} {delivery : Delivery}
  {holder : Holder} {a b : SharedState}

/-- A logout that finds the same to end, with the same connection, is answered alike. -/
theorem seen_serve_congr
    (hsought : sought (site.storage settings.storageMethod) a.sessions occasion.now
        delivery.request.headers holder =
      sought (site.storage settings.storageMethod) b.sessions occasion.now
        delivery.request.headers holder)
    (hresolve : ∀ context, sought (site.storage settings.storageMethod) a.sessions occasion.now
        delivery.request.headers holder = .ok (some context) →
      a.connections.resolve occasion.now context = b.connections.resolve occasion.now context) :
    (serve settings site occasion delivery holder a).seen =
      (serve settings site occasion delivery holder b).seen := by
  have hcontext : ∀ s : SharedState, (find (site.storage settings.storageMethod) s.sessions
      occasion.now delivery.request.headers holder).context = ended? _ := fun _ => context_find
  have hcookies : (find (site.storage settings.storageMethod) a.sessions occasion.now
        delivery.request.headers holder).cookies =
      (find (site.storage settings.storageMethod) b.sessions occasion.now
        delivery.request.headers holder).cookies := by
    rw [cookies_find, cookies_find, hsought]
  unfold serve Served.seen
  simp only [hcontext, hsought, hcookies]
  cases hs : sought (site.storage settings.storageMethod) b.sessions occasion.now
      delivery.request.headers holder with
  | error e => rfl
  | ok context =>
    cases context with
    | none => rfl
    | some context =>
      have hsame := hresolve context (hsought.trans hs)
      simp only [ended?, Storage.cookies_clear, hsame]

end Logout

namespace Deployment

variable {d : Deployment} {v : Visit} {a b : SharedState}

/-- What stands behind the gate answers alike if a logout does. -/
private theorem seen_inner_congr {delivery : Delivery} {holder : Holder}
    (hsought : Logout.sought (d.site.storage d.logout.storageMethod) a.sessions v.time
        delivery.request.headers holder =
      Logout.sought (d.site.storage d.logout.storageMethod) b.sessions v.time
        delivery.request.headers holder)
    (hresolve : ∀ context, Logout.sought (d.site.storage d.logout.storageMethod) a.sessions v.time
        delivery.request.headers holder = .ok (some context) →
      a.connections.resolve v.time context = b.connections.resolve v.time context) :
    (d.inner v delivery holder a).seen = (d.inner v delivery holder b).seen := by
  unfold inner
  split
  · exact Logout.seen_serve_congr hsought hresolve
  · rfl

/-- A visit for which two states hold the same, with the same connection, is answered alike. -/
theorem seen_serve_congr (hmethod : d.logout.storageMethod = d.gate.storageMethod)
    (hfound : (Gate.lookUp d.gate d.site v.occasion v.request a).1 =
      (Gate.lookUp d.gate d.site v.occasion v.request b).1)
    (hresolve : ∀ context,
      (Gate.lookUp d.gate d.site v.occasion v.request a).1 = .ok (some context) →
        a.connections.resolve v.time context = b.connections.resolve v.time context) :
    (d.serve v a).seen = (d.serve v b).seen := by
  rcases Gate.excluded_or_callback_or_guards d.gate d.site v.request with hx | ⟨hx, hpath⟩ | hg
  · rw [serve_of_excluded hx, serve_of_excluded hx]
    rw [Gate.lookUp, Gate.lookUp, ← hmethod] at hfound
    simp only [Gate.lookUp, ← hmethod] at hresolve
    exact seen_inner_congr hfound hresolve
  · rw [serve_of_callback hx hpath, serve_of_callback hx hpath]
    exact Gate.seen_callback d.gate d.site v.occasion v.request .outside a b
  · cases hl : (Gate.lookUp d.gate d.site v.occasion v.request a).1 with
    | error e =>
      rw [serve_of_unreadable hg hl, serve_of_unreadable hg (hfound.symm.trans hl),
        Storage.cookies_clear, Storage.cookies_clear]
      rfl
    | ok found =>
      cases found with
      | none =>
        rw [serve_of_absent hg hl, serve_of_absent hg (hfound.symm.trans hl)]
        rfl
      | some context =>
        rw [serve_of_found hg hl, serve_of_found hg (hfound.symm.trans hl)]
        -- the context is held, so a logout does not look for it again
        refine seen_inner_congr (a := ⟨_, a.connections⟩) (b := ⟨_, b.connections⟩) rfl ?_
        rintro other hother
        obtain rfl : context = other := Option.some.inj (Except.ok.inj hother)
        exact hresolve context hl

end Deployment

end SignOn
