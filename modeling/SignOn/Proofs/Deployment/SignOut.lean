import SignOn.Proofs.Deployment.Failure
import SignOn.Proofs.Storage.Jar

/-!
# Signing out in the browser

A browser sends what is in its jar and does with the jar what the answers tell it. After an answer
of the logout filter no request of that browser reaches a page behind the gate, until it logs in
again (`signs_out_browser`). A logout that finds something takes the cookie out of the jar; one that
finds nothing leaves the jar as it shows itself, and then nothing is found later either. What a
visit does to the jar and to the sessions is said once, by `Concludes`.
-/

namespace SignOn

namespace Gate

/-- A browser that is sent to the provider is told to expire the cookies, or nothing. -/
theorem SendsToLogin.octets {site : Site} {request : Http.Request} {cookies : List Octets}
    {response : Http.Response} (h : SendsToLogin site request cookies response) :
    response.headers.octets Cookie.setCookieField = cookies ∨
      response.headers.octets Cookie.setCookieField = [] := by
  unfold SendsToLogin at h
  split at h
  · exact .inl h.cookies
  · rw [h]
    exact .inr rfl

end Gate

/-- A browser's jar and the state of the site that it visits. -/
structure Situation where
  jar : Cookie.Jar
  state : SharedState

/-- Whether a browser makes a visit with its jar, to pages that set no cookies. -/
structure Visit.SentFrom (v : Visit) (jar : Cookie.Jar) : Prop where
  sends : jar.Sends v.request.headers
  page : ∀ delivery holder,
    (v.page delivery holder).1.headers.octets Cookie.setCookieField = []

namespace Deployment

variable (d : Deployment)

/-- The storage behind the gate. -/
def gateStorage : Storage := d.site.storage d.gate.storageMethod

/-- What the browser and the site come to by a visit. -/
def visited (b : Situation) (v : Visit) : Situation where
  jar := b.jar.receive (d.serve v b.state).response.headers
  state := (d.serve v b.state).state

/-- The visits of one browser, one after the other, with what serving them did. -/
inductive Browses : Situation → List Exchange → Situation → Prop where
  | rest (b : Situation) : Browses b [] b
  | visit {b c : Situation} {v : Visit} {history : List Exchange} (hsent : v.SentFrom b.jar)
    (h : Browses (d.visited b v) history c) : Browses b (⟨v, d.serve v b.state⟩ :: history) c

/-- Whether a visit is answered by the logout filter: behind the gate it needs a context to get
there. -/
def AnswersLogout (v : Visit) (state : SharedState) : Prop :=
  d.logsOut v.request = true ∧
    (v.request.target.path ∈ d.gate.excludedPaths ∨
      Gate.Guards d.gate d.site v.request ∧
        ∃ context, (Gate.lookUp d.gate d.site v.occasion v.request state).1 = .ok (some context))

/-- What a visit does to the browser's cookies and to what is kept for it. -/
inductive Concludes (v : Visit) (state : SharedState) (served : Served) : Prop where
  /-- A login sets the cookies of its context. -/
  | loggedIn (hback : d.CallsBack v) (h302 : served.response.status = 302)
    (context : SecurityContext)
    (hset : served.response.headers.octets Cookie.setCookieField =
      (d.gateStorage.contextPairs v.occasion.fresh context).map fun pair =>
        Octets.ofText (d.site.cookieOptions.setCookie pair.1 pair.2))
  /-- A context that is ended or cannot be read has its cookies expired. -/
  | expired (names : List String)
    (hset : served.response.headers.octets Cookie.setCookieField =
      Cookie.expirations d.site.cookieOptions names)
    (hnames : names ⊆ Cookie.knownNames) (hmem : d.gateStorage.cookieName ∈ names)
  /-- All else leaves the cookies in which contexts are kept, and begins no session. A logout comes
  to that only if it finds nothing, and then there is nothing to find for the request. -/
  | passed (names : List String)
    (hset : served.response.headers.octets Cookie.setCookieField =
      Cookie.expirations d.site.cookieOptions names)
    (hnames : names ⊆ Cookie.providerNames)
    (hsessions : ∀ key, state.sessions.sessions.get? key = none →
      served.state.sessions.sessions.get? key = none)
    (hlogout : d.AnswersLogout v state →
      (Gate.lookUp d.gate d.site v.occasion v.request state).1 = .ok none ∧
        d.gateStorage.KeepsNothing served.state.sessions v.request.headers)

variable {d} {v : Visit} {state : SharedState}

/-- A logout that a visit comes to, with what the gate has found, concludes it. -/
private theorem concludes_of_logout (hm : d.logout.storageMethod = d.gate.storageMethod)
    {served : Served} {before : SharedState} {holder : Holder} {delivery : Delivery}
    (hrequest : delivery.request = v.request)
    (hresponse : served.response =
      (Logout.serve d.logout d.site v.occasion delivery holder before).response)
    (hstate : served.state = (Logout.serve d.logout d.site v.occasion delivery holder before).state)
    (hsought : Logout.sought d.gateStorage before.sessions v.occasion.now v.request.headers holder =
      (Gate.lookUp d.gate d.site v.occasion v.request state).1)
    (hbefore : (Gate.lookUp d.gate d.site v.occasion v.request state).1 = .ok none →
      before = state) : d.Concludes v state served := by
  have hstorage : d.site.storage d.logout.storageMethod = d.gateStorage := by rw [hm, gateStorage]
  have hcompletes := Logout.completes_serve d.logout d.site v.occasion delivery holder before
  rw [hrequest, hstorage, hsought] at hcompletes
  have hset := hcompletes.redirects.cookies
  rw [← hresponse, hstorage] at hset
  have hprovider : (if d.logout.fromProvider then Cookie.providerNames else []) ⊆
      Cookie.providerNames := by
    split
    · exact List.Subset.refl _
    · exact List.nil_subset _
  have hexpired :
      d.gateStorage.names ++ (if d.logout.fromProvider then Cookie.providerNames else []) ⊆
        Cookie.knownNames :=
    List.append_subset.mpr ⟨d.gateStorage.names_subset_knownNames,
      fun n hn => List.mem_append_right _ (hprovider hn)⟩
  have hmem : d.gateStorage.cookieName ∈
      d.gateStorage.names ++ (if d.logout.fromProvider then Cookie.providerNames else []) :=
    List.mem_append_left _ d.gateStorage.cookieName_mem_names
  cases hl : (Gate.lookUp d.gate d.site v.occasion v.request state).1 with
  | error e =>
    rw [hl] at hset
    exact .expired _ hset hexpired hmem
  | ok found =>
    rw [hl] at hset
    cases found with
    | some context => exact .expired _ hset hexpired hmem
    | none =>
      obtain rfl := hbefore hl
      have hsessions := hcompletes.sessions
      rw [← hstate, hstorage] at hsessions
      refine .passed _ hset hprovider (fun key hnone => ?_) fun _ =>
        ⟨hl, Storage.keepsNothing_of_load hl fun key hp => ?_⟩
      · rw [hsessions, hnone, ite_self]
      · exact (hsessions key).trans (if_pos hp)

/-- A page concludes a visit that has begun no session. -/
private theorem concludes_of_page {served : Served}
    (hset : served.response.headers.octets Cookie.setCookieField = [])
    (hsessions : ∀ key, state.sessions.sessions.get? key = none →
      served.state.sessions.sessions.get? key = none)
    (hlogout : ¬ d.AnswersLogout v state) : d.Concludes v state served :=
  .passed [] (by rw [hset, Cookie.expirations]; simp) (List.nil_subset _) hsessions
    fun h => absurd h hlogout

/-- A visit to the callback is a login or nothing. -/
private theorem concludes_of_callback (hwritable : d.site.cookieOptions.IsWritable)
    (hback : d.CallsBack v) (state : SharedState) : d.Concludes v state (d.serve v state) := by
  have hno : ¬ d.AnswersLogout v state := by
    rintro ⟨-, hx | ⟨hg, -⟩⟩
    · exact absurd hx (by simp [hback.1])
    · exact hg.2 hback.2
  by_cases h302 : (d.serve v state).response.status = 302
  · obtain ⟨context, -, -, hset⟩ := octets_of_redirect hback h302
    exact .loggedIn hback h302 context hset
  · have hset : (d.serve v state).response.headers.octets Cookie.setCookieField = [] := by
      rw [serve_of_callback hback.1 hback.2] at h302 ⊢
      obtain ⟨status, body, hplain⟩ := Gate.plain_of_not_redirected h302
      rw [hplain]
      rfl
    have hsessions : (d.serve v state).state.sessions = state.sessions := by
      cases completed_serve state hback.1 hback.2 with
      | refused _ _ hstate => rw [hstate]
      | unwritten context _ e hsaved _ hstate =>
        rw [hstate]
        exact sessions_saved_of_isWritable hwritable hsaved
      | done _ _ _ _ hresponse _ =>
        rw [hresponse] at h302
        exact absurd rfl h302
    exact concludes_of_page hset (fun key h => by rwa [hsessions]) hno

/-- A guarded visit is served with what is found, or sent to the provider. -/
private theorem concludes_of_guards (hm : d.logout.storageMethod = d.gate.storageMethod)
    (hpage : ∀ delivery holder,
      (v.page delivery holder).1.headers.octets Cookie.setCookieField = [])
    (hg : Gate.Guards d.gate d.site v.request) (state : SharedState) :
    d.Concludes v state (d.serve v state) := by
  have hno : (∀ context, (Gate.lookUp d.gate d.site v.occasion v.request state).1 ≠
      .ok (some context)) → ¬ d.AnswersLogout v state := by
    rintro hnone ⟨-, hx | ⟨-, context, hl⟩⟩
    · exact absurd hx (by simp [hg.1])
    · exact hnone context hl
  have hlooked : ∀ key, state.sessions.sessions.get? key = none →
      (Gate.lookUp d.gate d.site v.occasion v.request state).2.sessions.get? key = none :=
    fun key h => Storage.get?_load_eq_none h _ _ _
  have hanswers := Gate.answers_serve d.gate d.site v.occasion (d.inner v) { request := v.request }
    .outside state
  cases hl : (Gate.lookUp d.gate d.site v.occasion v.request state).1 with
  | error e =>
    obtain ⟨-, hsends, -, -, hstate⟩ := hanswers.unreadable hg e hl
    rcases hsends.octets with hset | hset
    · exact .expired _ hset d.gateStorage.names_subset_knownNames d.gateStorage.cookieName_mem_names
    · refine concludes_of_page hset (fun key h => ?_) (hno (by simp [hl]))
      rwa [show (d.serve v state).state = state from hstate]
  | ok found =>
    cases found with
    | none =>
      obtain ⟨hsends, -, -, hstate⟩ := hanswers.absent hg hl
      refine concludes_of_page (hsends.octets.elim id id) (fun key h => ?_) (hno (by simp [hl]))
      rw [show (d.serve v state).state = _ from hstate]
      exact hlooked key h
    | some context =>
      rw [serve_of_found hg hl, inner]
      split
      · exact concludes_of_logout hm rfl rfl rfl hl.symm fun h => by cases hl.symm.trans h
      · next hlogs => exact concludes_of_page (hpage _ _) hlooked fun h => hlogs h.1

/-- Every visit to pages that set no cookies concludes in one of these ways. -/
theorem concludes_serve (hm : d.logout.storageMethod = d.gate.storageMethod)
    (hwritable : d.site.cookieOptions.IsWritable)
    (hpage : ∀ delivery holder,
      (v.page delivery holder).1.headers.octets Cookie.setCookieField = [])
    (state : SharedState) : d.Concludes v state (d.serve v state) := by
  rcases Gate.excluded_or_callback_or_guards d.gate d.site v.request with hx | ⟨hx, hpath⟩ | hg
  · rw [serve_of_excluded hx, inner]
    split
    · exact concludes_of_logout hm rfl rfl rfl rfl fun _ => rfl
    · next hlogs => exact concludes_of_page (hpage _ _) (fun _ h => h) fun h => hlogs h.1
  · exact concludes_of_callback hwritable ⟨hx, hpath⟩ state
  · exact concludes_of_guards hm hpage hg state

/-! ## Runs of one browser -/

/-- Whether nothing is kept for any request that shows what the jar does. -/
def SignedOut (d : Deployment) (b : Situation) : Prop :=
  ∀ request, Cookie.find? request d.gateStorage.cookieName =
      b.jar.shown? d.gateStorage.cookieName →
    d.gateStorage.KeepsNothing b.state.sessions request

/-- What a logout that answers a visit comes to in the browser. -/
structure SignsOut (d : Deployment) (b : Situation) (out : Visit) : Prop where
  /-- If there was something to find, the cookie is no longer in the jar. -/
  forgets : (Gate.lookUp d.gate d.site out.occasion out.request b.state).1 ≠ .ok none →
    ∀ entry ∈ (d.visited b out).jar.stored, entry.1.name ≠ d.gateStorage.cookieName
  /-- No guarded visit of the browser is served behind the gate until it has logged in again. -/
  refuses : ∀ history c, d.Browses (d.visited b out) history c →
    (∀ e ∈ history, d.CallsBack e.visit → e.served.response.status ≠ 302) →
    ∀ v : Visit, v.SentFrom c.jar → Gate.Guards d.gate d.site v.request →
      ∀ asked held found, ¬ Handler.Asks
        (Gate.serve d.gate d.site v.occasion · { request := v.request } .outside c.state) asked held
        found

variable {b c : Situation} {history : List Exchange}

/-- A jar without the cookie shows nothing. -/
private theorem signedOut_of_forgotten
    (h : ∀ entry ∈ b.jar.stored, entry.1.name ≠ d.gateStorage.cookieName) : d.SignedOut b := by
  intro request hshown
  rw [Cookie.Jar.shown?_eq_none h] at hshown
  exact Storage.keepsNothing_of_find?_eq_none hshown _

/-- A jar that shows what it did is signed out with the request that it sent. -/
private theorem signedOut_of_passed (hwritable : d.site.cookieOptions.IsWritable)
    (hclosed : d.site.cookieOptions.IsClosed) (hjar : b.jar.Suits d.site.cookieOptions)
    (hsent : v.SentFrom b.jar) {names : List String}
    (hset : (d.serve v b.state).response.headers.octets Cookie.setCookieField =
      Cookie.expirations d.site.cookieOptions names)
    (hnames : names ⊆ Cookie.providerNames)
    (hnothing : d.gateStorage.KeepsNothing (d.serve v b.state).state.sessions v.request.headers) :
    d.SignedOut (d.visited b v) := by
  intro request hshown
  have hname := d.gateStorage.cookieName_mem_keepingNames
  have hsame : (d.visited b v).jar.shown? d.gateStorage.cookieName =
      b.jar.shown? d.gateStorage.cookieName :=
    hjar.shown?_of_provider hwritable hclosed hname hset hnames
  rw [hsame, ← hjar.find?_of_sends hname hsent.sends] at hshown
  exact hnothing.congr hshown

section

variable (hm : d.logout.storageMethod = d.gate.storageMethod)
  (hwritable : d.site.cookieOptions.IsWritable) (hclosed : d.site.cookieOptions.IsClosed)

include hm hwritable hclosed

/-- A visit keeps the jar to the cookies of the site. -/
theorem suits_visited (hjar : b.jar.Suits d.site.cookieOptions) (hsent : v.SentFrom b.jar) :
    (d.visited b v).jar.Suits d.site.cookieOptions := by
  have hexpires : ∀ names ⊆ Cookie.knownNames,
      ∀ field ∈ Cookie.expirations d.site.cookieOptions names,
        d.site.cookieOptions.Writes field := by
    intro names hnames field hf
    rw [Cookie.expirations, if_pos hwritable] at hf
    obtain ⟨name, hn, rfl⟩ := List.mem_map.mp hf
    exact .expires name (hnames hn)
  refine hjar.receive hclosed ?_
  cases concludes_serve hm hwritable hsent.page b.state with
  | loggedIn _ _ context hset =>
    rw [hset, List.forall_mem_map]
    exact Storage.writes_contextPairs d.gateStorage v.occasion.fresh context
  | expired names hset hnames _ =>
    rw [hset]
    exact hexpires names hnames
  | passed names hset hnames _ _ =>
    rw [hset]
    exact hexpires names fun n hn => List.mem_append_right _ (hnames hn)

/-- So do all visits of a browser. -/
theorem suits_of_browses (h : d.Browses b history c) (hjar : b.jar.Suits d.site.cookieOptions) :
    c.jar.Suits d.site.cookieOptions := by
  induction h with
  | rest b => exact hjar
  | visit hsent _ ih => exact ih (suits_visited hm hwritable hclosed hjar hsent)

/-- An answer of the logout filter signs the browser out. -/
theorem signedOut_of_logout (hjar : b.jar.Suits d.site.cookieOptions) (hsent : v.SentFrom b.jar)
    (hlogout : d.AnswersLogout v b.state) : d.SignedOut (d.visited b v) ∧
      ((Gate.lookUp d.gate d.site v.occasion v.request b.state).1 ≠ .ok none →
        ∀ entry ∈ (d.visited b v).jar.stored, entry.1.name ≠ d.gateStorage.cookieName) := by
  cases concludes_serve hm hwritable hsent.page b.state with
  | loggedIn hback _ _ _ =>
    -- the callback is no place to log out
    obtain ⟨-, hx | ⟨hg, -⟩⟩ := hlogout
    · exact absurd hx (by simp [hback.1])
    · exact absurd hback.2 hg.2
  | expired names hset hnames hmem =>
    have hgone := hjar.ne_name_of_expired hwritable hclosed
      d.gateStorage.cookieName_mem_keepingNames hset hnames hmem
    exact ⟨signedOut_of_forgotten hgone, fun _ => hgone⟩
  | passed names hset hnames _ hlogout' =>
    obtain ⟨hl, hnothing⟩ := hlogout' hlogout
    exact ⟨signedOut_of_passed hwritable hclosed hjar hsent hset hnames hnothing,
      fun hne => absurd hl hne⟩

/-- It stays so until the browser logs in again. -/
theorem signedOut_visited (hjar : b.jar.Suits d.site.cookieOptions) (hsent : v.SentFrom b.jar)
    (hlogin : d.CallsBack v → (d.serve v b.state).response.status ≠ 302) (h : d.SignedOut b) :
    d.SignedOut (d.visited b v) := by
  cases concludes_serve hm hwritable hsent.page b.state with
  | loggedIn hback h302 _ _ => exact absurd h302 (hlogin hback)
  | expired names hset hnames hmem =>
    exact signedOut_of_forgotten (hjar.ne_name_of_expired hwritable hclosed
      d.gateStorage.cookieName_mem_keepingNames hset hnames hmem)
  | passed names hset hnames hsessions _ =>
    have hshown := hjar.find?_of_sends d.gateStorage.cookieName_mem_keepingNames hsent.sends
    exact signedOut_of_passed hwritable hclosed hjar hsent hset hnames
      ((h v.request.headers hshown).mono hsessions)

/-- The same for all visits of a browser. -/
theorem signedOut_of_browses (h : d.Browses b history c)
    (hjar : b.jar.Suits d.site.cookieOptions)
    (hlogin : ∀ e ∈ history, d.CallsBack e.visit → e.served.response.status ≠ 302)
    (hout : d.SignedOut b) : d.SignedOut c := by
  induction h with
  | rest b => exact hout
  | visit hsent _ ih =>
    obtain ⟨hfirst, hrest⟩ := List.forall_mem_cons.mp hlogin
    exact ih (suits_visited hm hwritable hclosed hjar hsent) hrest
      (signedOut_visited hm hwritable hclosed hjar hsent hfirst hout)

end

/-- Whatever a browser has done before with cookies of the site, an answer of the logout filter ends
its session. -/
theorem signs_out_browser (d : Deployment) (hm : d.logout.storageMethod = d.gate.storageMethod)
    (hwritable : d.site.cookieOptions.IsWritable) (hclosed : d.site.cookieOptions.IsClosed)
    (hjar : b.jar.Suits d.site.cookieOptions)
    (hbrowses : d.Browses b history c) {out : Visit} (hsent : out.SentFrom c.jar)
    (hlogout : d.AnswersLogout out c.state) : d.SignsOut c out := by
  have hjar' := suits_of_browses hm hwritable hclosed hbrowses hjar
  obtain ⟨hout, hforgets⟩ := signedOut_of_logout hm hwritable hclosed hjar' hsent hlogout
  refine ⟨hforgets, fun history c' hlater hlogin v hv hg asked held found hasks => ?_⟩
  have hvisited := suits_visited hm hwritable hclosed hjar' hsent
  have hlast := suits_of_browses hm hwritable hclosed hlater hvisited
  have hnothing := signedOut_of_browses hm hwritable hclosed hlater hvisited hlogin hout
    v.request.headers (hlast.find?_of_sends d.gateStorage.cookieName_mem_keepingNames hv.sends)
  rw [Gate.asks_serve_iff] at hasks
  cases hasks with
  | excluded hx => exact absurd hx (by simp [hg.1])
  | found _ context hl => exact hnothing.load_ne _ context hl

/-- A browser with a stale key and a value that holds an equals sign, and a site that keeps sessions
on the server. -/
def sampleSituation : Situation where
  jar := {
    stored := [
      (({} : Cookie.Options).key Cookie.serverSessionName, "stale"),
      (({} : Cookie.Options).key Cookie.endpointName, "a=b")]
    distinct := by decide }
  state := ⟨.create 10 0, { timeToLive := 0 }⟩

/-- Its login. -/
def sampleSigningIn : Visit :=
  sampleVisit 0 "/_auth" (some "code=1") "force_session=stale; force_ep=a=b"

/-- Its logout. -/
def sampleSigningOut : Visit :=
  sampleVisit 1 "/logout" none "force_ep=a=b; force_session=00000000000040008000000000000000"

/-- After a login and a logout the browser is signed out. -/
theorem signs_out_sampleSituation :
    (sample .session ⟨[]⟩).SignsOut ((sample .session ⟨[]⟩).visited sampleSituation sampleSigningIn)
      sampleSigningOut := by
  have hjar : sampleSituation.jar.Suits {} := Cookie.Jar.suits_of_scope (by decide)
  have hin : sampleSigningIn.SentFrom sampleSituation.jar :=
    ⟨⟨_, .refl _, by decide +kernel⟩, fun _ _ => rfl⟩
  have hout : sampleSigningOut.SentFrom
      ((sample .session ⟨[]⟩).visited sampleSituation sampleSigningIn).jar :=
    ⟨⟨[("force_ep", "a=b"), ("force_session", "00000000000040008000000000000000")],
      by decide +kernel, by decide +kernel⟩, fun _ _ => rfl⟩
  have hlogout : (sample .session ⟨[]⟩).AnswersLogout sampleSigningOut
      ((sample .session ⟨[]⟩).visited sampleSituation sampleSigningIn).state :=
    ⟨by decide, .inl (by decide)⟩
  have hwritable : ({} : Cookie.Options).IsWritable :=
    ⟨fun _ h => absurd h (Option.not_mem_none _), Http.forall_isFieldChar (by decide)⟩
  exact signs_out_browser (sample .session ⟨[]⟩) rfl hwritable (by decide) hjar
    (.visit hin (.rest _)) hout hlogout

end Deployment

end SignOn
