import SignOn.Proofs.Deployment.Basic

/-!
# Fields that nobody believes

Of the fields of a request the filters read the cookies and what says where the request was
addressed. The fields of a proxy count only if proxies are trusted, and none does if the origin of
the site is pinned. Requests that differ in such fields alone are served alike, in every state and
over whole histories: by every deployment that finds its pages without them
(`Deployment.blind_to_forwarding`), and so by every application (`Application.serves_regardless`).
-/

namespace SignOn

namespace Http

/-- The fields of other names. -/
def Headers.without (h : Headers) (names : List String) : Headers :=
  ⟨h.fields.filter fun field => ∀ name ∈ names, Text.lower field.1 ≠ Text.lower name⟩

/-- Leaving out fields leaves those of any other name. -/
theorem Headers.values_without (h : Headers) {names : List String} {name : String}
    (hname : ∀ other ∈ names, Text.lower name ≠ Text.lower other) :
    (h.without names).values name = h.values name := by
  rw [values, values, without, List.filter_filter]
  refine congrArg (List.map Prod.snd) (List.filter_congr ?_)
  rintro ⟨key, value⟩ -
  by_cases hkey : Text.lower key = Text.lower name
  · simpa [hkey] using hname
  · simp [hkey]

/-- A field that is left out leaves nothing. -/
theorem Headers.without_concat_single (h : Headers) {names : List String} {name : String}
    (hname : ∃ other ∈ names, Text.lower name = Text.lower other) (value : Option FieldValue) :
    (h.concat (.single name value)).without names = h.without names := by
  obtain ⟨other, hmem, hsame⟩ := hname
  cases value with
  | none => simp [without, concat, single, empty]
  | some value => simpa [without, concat, single, append, empty] using ⟨other, hmem, hsame⟩

/-- Whether two requests are the same but for the fields of some names. -/
structure Request.AgreesBut (names : List String) (r s : Request) : Prop where
  method : r.method = s.method
  target : r.target = s.target
  headers : r.headers.without names = s.headers.without names

/-- Requests that are the same but for some fields have the same values of every other name. -/
theorem Request.AgreesBut.values {names : List String} {r s : Request} (h : r.AgreesBut names s)
    {name : String} (hname : ∀ other ∈ names, Text.lower name ≠ Text.lower other) :
    r.headers.values name = s.headers.values name := by
  rw [← Headers.values_without _ hname, h.headers, Headers.values_without _ hname]

end Http

open Http (Headers)

/-! ## What the filters read -/

/-- Whether two lists of fields are the same to the filters of a site: they name the same origin and
hold the same cookies. -/
structure Site.Alike (site : Site) (h k : Headers) : Prop where
  origin : site.origin h = site.origin k
  cookies : Cookie.requestPairs h = Cookie.requestPairs k

namespace Storage

variable {request other : Headers}

private theorem presentedKey?_congr (h : Cookie.requestPairs request = Cookie.requestPairs other) :
    presentedKey? request = presentedKey? other :=
  presentedKey?_congr_find? (by rw [Cookie.find?, Cookie.find?, h])

private theorem load_congr (h : Cookie.requestPairs request = Cookie.requestPairs other)
    (s : Storage) (sessions : SessionStore) (now : Int) :
    s.load sessions now request = s.load sessions now other := by
  have hcookie : loadCookie s.cipher request = loadCookie s.cipher other :=
    loadCookie_congr_find? (by rw [Cookie.find?, Cookie.find?, h]) s.cipher
  simp only [load, presentedKey?_congr h, hcookie]

private theorem save_congr (h : Cookie.requestPairs request = Cookie.requestPairs other)
    (s : Storage) (sessions : SessionStore) (now : Int) (fresh : Fresh) (cookies : Headers)
    (context : SecurityContext) : s.save sessions now fresh request cookies context =
      s.save sessions now fresh other cookies context := by
  simp only [save, withoutPresented, presentedKey?_congr h]

private theorem clear_congr (h : Cookie.requestPairs request = Cookie.requestPairs other)
    (s : Storage) (sessions : SessionStore) (cookies : Headers) :
    s.clear sessions request cookies = s.clear sessions other cookies := by
  simp only [clear, withoutPresented, presentedKey?_congr h]

end Storage

namespace Gate

variable {settings : GateSettings} {site : Site} {occasion : Occasion}

private theorem authenticate_congr {request other : Headers} (h : site.Alike request other)
    (state : SharedState) (code : String) :
    authenticate settings site occasion request state code =
      authenticate settings site occasion other state code := by
  simp only [authenticate, enroll, h.origin, Storage.save_congr h.cookies]

private theorem callback_congr {request other : Http.Request}
    (htarget : request.target = other.target) (h : site.Alike request.headers other.headers)
    (holder : Holder) (state : SharedState) :
    callback settings site occasion request holder state =
      callback settings site occasion other holder state := by
  simp only [callback, htarget, authenticate_congr h]

private theorem loginRedirect_congr {request other : Http.Request}
    (htarget : request.target = other.target) (h : site.Alike request.headers other.headers)
    (cookies : Headers) :
    loginRedirect site request cookies = loginRedirect site other cookies := by
  simp only [loginRedirect, htarget, h.origin]

/-- Requests that are alike to the filters get the same answers before handlers that treat them
alike. -/
theorem serve_congr {f g : Handler} {request other : Http.Request}
    (htarget : request.target = other.target) (h : site.Alike request.headers other.headers)
    (hinner : ∀ attached, f { request, attached } = g { request := other, attached })
    (attached : Option SecurityContext) (holder : Holder) (state : SharedState) :
    serve settings site occasion f { request, attached } holder state =
      serve settings site occasion g { request := other, attached } holder state := by
  simp only [serve, htarget, hinner, callback_congr htarget h, Storage.load_congr h.cookies,
    Storage.clear_congr h.cookies, loginRedirect_congr htarget h]

end Gate

/-- A logout treats requests alike that are alike to the filters. -/
theorem Logout.serve_congr {settings : LogoutSettings} {site : Site} {occasion : Occasion}
    {request other : Http.Request} (h : site.Alike request.headers other.headers)
    (attached : Option SecurityContext) :
    serve settings site occasion { request, attached } =
      serve settings site occasion { request := other, attached } := by
  funext holder state
  simp only [serve, find, destination, h.origin, Storage.load_congr h.cookies,
    Storage.clear_congr h.cookies]

/-! ## What a site disregards -/

/-- The fields in which a proxy says where a request was addressed. -/
def SiteOrigin.forwardedNames : List String := ["x-forwarded-proto", "x-forwarded-host"]

/-- The fields that say where a request was addressed. -/
def SiteOrigin.fieldNames : List String := "host" :: forwardedNames

open SiteOrigin (forwardedNames fieldNames)

namespace Site

variable {site : Site}

/-- Whether fields of some names make no difference to the filters of a site. -/
def Disregards (site : Site) (names : List String) : Prop :=
  ∀ r s : Http.Request, r.AgreesBut names s → site.Alike r.headers s.headers

private theorem requestPairs_congr {names : List String} {r s : Http.Request}
    (hcookie : ∀ other ∈ names, Text.lower "cookie" ≠ Text.lower other)
    (h : r.AgreesBut names s) :
    Cookie.requestPairs r.headers = Cookie.requestPairs s.headers := by
  rw [Cookie.requestPairs, Cookie.requestPairs, Headers.texts, Headers.texts, h.values hcookie]

/-- Without trust in proxies their fields make no difference. -/
theorem disregards_of_untrusted (h : site.trustsProxy = false) :
    site.Disregards forwardedNames := by
  intro r s hagree
  have hhost : r.headers.values "host" = s.headers.values "host" := hagree.values (by decide)
  refine ⟨?_, requestPairs_congr (by decide) hagree⟩
  simp only [origin, SiteOrigin.ofRequest, SiteOrigin.firstPart?, Headers.firstText?, h, hhost,
    Bool.false_eq_true, if_false]

/-- With a pinned origin no field that says where a request was addressed makes a difference. -/
theorem disregards_of_pinned (h : site.publicOrigin.isSome = true) :
    site.Disregards fieldNames := by
  intro r s hagree
  obtain ⟨pinned, hpinned⟩ := Option.isSome_iff_exists.mp h
  exact ⟨by rw [origin, origin, hpinned]; rfl, requestPairs_congr (by decide) hagree⟩

end Site

/-! ## Whole histories -/

/-- Whether two visits are the same but for fields of some names, which their pages do not read. -/
structure Visit.AgreesBut (names : List String) (v w : Visit) : Prop where
  request : v.request.AgreesBut names w.request
  occasion : v.occasion = w.occasion
  page : ∀ r s attached, r.AgreesBut names s →
    v.page { request := r, attached } = w.page { request := s, attached }

/-- A visit that sends one more field. -/
def Visit.sending (v : Visit) (name text : String) : Visit :=
  { v with
    request := { v.request with
      headers := v.request.headers.concat (.single name (Http.FieldValue.ofText? text)) } }

/-- One more field of such a name is no other difference. -/
theorem Visit.agreesBut_sending {names : List String} {v : Visit}
    (hpage : ∀ r s attached, r.AgreesBut names s →
      v.page { request := r, attached } = v.page { request := s, attached })
    {name : String} (hname : ∃ other ∈ names, Text.lower name = Text.lower other) (text : String) :
    v.AgreesBut names (v.sending name text) where
  request := ⟨rfl, rfl, (Headers.without_concat_single _ hname _).symm⟩
  occasion := rfl
  page := hpage

namespace Deployment

variable {d : Deployment} {names : List String} {v w : Visit}

/-- Whether a deployment finds the logout without fields of some names. -/
def RoutesWithout (d : Deployment) (names : List String) : Prop :=
  ∀ r s : Http.Request, r.AgreesBut names s → d.logsOut r = d.logsOut s

/-- Visits that differ only in what a site disregards are served alike. -/
theorem serve_congr (hsite : d.site.Disregards names) (hroutes : d.RoutesWithout names)
    (h : v.AgreesBut names w) (state : SharedState) : d.serve v state = d.serve w state := by
  have halike := hsite _ _ h.request
  have hinner : ∀ attached, d.inner v { request := v.request, attached } =
      d.inner w { request := w.request, attached } := by
    intro attached
    funext holder state
    simp only [inner, hroutes _ _ h.request, h.occasion, Logout.serve_congr halike,
      h.page _ _ _ h.request]
  rw [serve, serve, h.occasion]
  exact Gate.serve_congr h.request.target halike hinner none .outside state

/-- Whether fields of some names have no influence: two histories that differ in them alone are
answered alike, with the same calls of the backend, and leave the same state. -/
def IsBlindTo (d : Deployment) (names : List String) : Prop :=
  ∀ history other, List.Forall₂ (Visit.AgreesBut names) history other → ∀ state,
    (d.transcript state history).map (·.served) = (d.transcript state other).map (·.served) ∧
      d.after state history = d.after state other

/-- What a site disregards has no influence on any history. -/
theorem isBlindTo_of_disregards (hsite : d.site.Disregards names)
    (hroutes : d.RoutesWithout names) : d.IsBlindTo names := by
  intro history other hagree
  induction hagree with
  | nil => exact fun _ => ⟨rfl, rfl⟩
  | @cons v w history other hv _ ih =>
    intro state
    have hserve := serve_congr hsite hroutes hv state
    have hrest := ih (d.serve w state).state
    simp only [transcript, after, List.map_cons, hserve]
    exact ⟨congrArg _ hrest.1, hrest.2⟩

/-- The fields of a proxy have no influence unless proxies are trusted, and with a pinned origin
neither they nor the host have any. -/
theorem blind_to_forwarding (d : Deployment) :
    (d.site.trustsProxy = false → d.RoutesWithout forwardedNames → d.IsBlindTo forwardedNames) ∧
      (d.site.publicOrigin.isSome = true → d.RoutesWithout fieldNames →
        d.IsBlindTo fieldNames) :=
  ⟨fun h => isBlindTo_of_disregards (Site.disregards_of_untrusted h),
    fun h => isBlindTo_of_disregards (Site.disregards_of_pinned h)⟩

/-- A deployment that logs out at the provider, with its origin pinned or not. -/
def sampleOrigin (publicOrigin : Option SiteOrigin) (trustsProxy : Bool) : Deployment :=
  { sample .session ⟨[]⟩ with
    site := { (sample .session ⟨[]⟩).site with publicOrigin, trustsProxy }
    logout := { storageMethod := .session, fromProvider := true } }

private theorem routesWithout_sampleOrigin (publicOrigin : Option SiteOrigin) (trustsProxy : Bool)
    (names : List String) : (sampleOrigin publicOrigin trustsProxy).RoutesWithout names :=
  fun _ _ h => by simp only [sampleOrigin, sample, h.target]

/-- A visit that completes a login. -/
def sampleEntry : Visit := sampleVisit 1 "/_auth" (some "code=good&state=%2Fhome") ""

/-- The logout from that session. -/
def sampleExit : Visit :=
  sampleVisit 2 "/logout" none (Cookie.serverSessionName ++ "=" ++ sampleEntry.freshKey)

/-- A host that is forwarded without trust, or sent to a site with a pinned origin, changes
nothing about a login and a logout. -/
theorem blind_sample :
    ((sampleOrigin none false).transcript ⟨.create 10 0, { timeToLive := 0 }⟩
          [sampleEntry, sampleExit]).map (·.served) =
        ((sampleOrigin none false).transcript ⟨.create 10 0, { timeToLive := 0 }⟩
          [sampleEntry.sending "X-Forwarded-Host" "evil.example",
            sampleExit.sending "X-Forwarded-Proto" "http"]).map (·.served) ∧
      ((sampleOrigin (some ⟨"https", "app.example"⟩) true).transcript
            ⟨.create 10 0, { timeToLive := 0 }⟩ [sampleEntry, sampleExit]).map (·.served) =
        ((sampleOrigin (some ⟨"https", "app.example"⟩) true).transcript
            ⟨.create 10 0, { timeToLive := 0 }⟩
          [sampleEntry.sending "X-Forwarded-Host" "evil.example",
            sampleExit.sending "Host" "evil.example"]).map (·.served) := by
  constructor
  · refine ((blind_to_forwarding (sampleOrigin none false)).1 rfl
      (routesWithout_sampleOrigin _ _ _) _ _ ?_ _).1
    exact .cons (Visit.agreesBut_sending (fun _ _ _ _ => rfl) (by decide) _)
      (.cons (Visit.agreesBut_sending (fun _ _ _ _ => rfl) (by decide) _) .nil)
  · refine ((blind_to_forwarding (sampleOrigin (some ⟨"https", "app.example"⟩) true)).2 rfl
      (routesWithout_sampleOrigin _ _ _) _ _ ?_ _).1
    exact .cons (Visit.agreesBut_sending (fun _ _ _ _ => rfl) (by decide) _)
      (.cons (Visit.agreesBut_sending (fun _ _ _ _ => rfl) (by decide) _) .nil)

-- A trusted proxy does have a say.
example : (sampleOrigin none true).site.origin
      (sampleEntry.sending "X-Forwarded-Host" "other.example").request.headers =
        ⟨"https", "other.example"⟩ ∧
    (sampleOrigin none true).site.origin sampleEntry.request.headers = ⟨"https", "localhost"⟩ := by
  decide +kernel

end Deployment

namespace Application

variable {app : Application} {names : List String} {r s : Http.Request}

/-- The pages of an application read no field, and its logout none that the site disregards. -/
theorem dispatch_congr (hsite : app.site.Disregards names) (h : r.AgreesBut names s)
    (occasion : Occasion) (attached : Option SecurityContext) :
    app.dispatch occasion { request := r, attached } =
      app.dispatch occasion { request := s, attached } := by
  funext holder state
  simp only [dispatch, servePage, h.target, h.method, Logout.serve_congr (hsite _ _ h)]

/-- An application answers requests alike that differ only in what its site disregards, with a gate
or without one. -/
theorem serve_congr (hsite : app.site.Disregards names) (h : r.AgreesBut names s)
    (occasion : Occasion) (state : SharedState) :
    app.serve occasion r state = app.serve occasion s state := by
  have hdispatch := dispatch_congr hsite h occasion
  have hfinish : app.finish r = app.finish s := by
    funext response
    simp only [finish, reportedMethods?, h.target, h.method]
  simp only [serve, hfinish]
  cases app.gate with
  | none => simp only [hdispatch]
  | some settings => simp only [Gate.serve_congr h.target (hsite _ _ h) hdispatch]

/-- What an application serves for requests that come one after the other, each on its occasion. -/
def serveAll (app : Application) : SharedState → List (Occasion × Http.Request) → List Served
  | _, [] => []
  | state, (occasion, request) :: later =>
    app.serve occasion request state ::
      app.serveAll (app.serve occasion request state).state later

/-- Whether fields of some names have no influence on what an application serves. -/
def IsBlindTo (app : Application) (names : List String) : Prop :=
  ∀ history other, List.Forall₂ (fun asked told =>
      asked.1 = told.1 ∧ Http.Request.AgreesBut names asked.2 told.2) history other →
    ∀ state, app.serveAll state history = app.serveAll state other

/-- What its site disregards has no influence on an application. -/
theorem isBlindTo_of_disregards (hsite : app.site.Disregards names) : app.IsBlindTo names := by
  intro history other hagree
  induction hagree with
  | nil => exact fun _ => rfl
  | @cons asked told history other hsame _ ih =>
    intro state
    obtain ⟨occasion, r⟩ := asked
    obtain ⟨_, s⟩ := told
    obtain ⟨rfl, hrequest⟩ := hsame
    rw [serveAll, serveAll, serve_congr hsite hrequest, ih]

/-- Whatever its pages and its gate are, the fields of a proxy have no influence on an application
unless proxies are trusted, and with a pinned origin neither they nor the host have any. -/
theorem serves_regardless (app : Application) :
    (app.site.trustsProxy = false → app.IsBlindTo forwardedNames) ∧
      (app.site.publicOrigin.isSome = true → app.IsBlindTo fieldNames) :=
  ⟨fun h => isBlindTo_of_disregards (Site.disregards_of_untrusted h),
    fun h => isBlindTo_of_disregards (Site.disregards_of_pinned h)⟩

end Application

end SignOn
