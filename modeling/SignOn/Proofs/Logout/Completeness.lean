import SignOn.Logout
import SignOn.Proofs.Storage.Turns

/-!
# Complete logouts

After a logout nothing is left of the context that it ended, whatever the provider answered: not in
the holder, not among the sessions, not in the connection cache, and the browser is told to drop the
cookies. All that belongs to others stays.
-/

namespace SignOn.Logout

open Http (Headers)

/-- What there is to log out: the held context, else what the storage finds. -/
def sought (storage : Storage) (sessions : SessionStore) (now : Int) (request : Headers)
    (holder : Holder) : Except Error (Option SecurityContext) :=
  match holder.context? with
  | some context => .ok (some context)
  | none => (storage.load sessions now request).1

/-- The context that a logout ends, if there is one. -/
def ended? : Except Error (Option SecurityContext) → Option SecurityContext
  | .ok context => context
  | .error _ => none

/-- The names of the cookies that a logout expires: those of the storage unless it keeps nothing,
then those of the provider if the settings ask for that. -/
def expiredNames (settings : LogoutSettings) (storage : Storage)
    (sought : Except Error (Option SecurityContext)) : List String :=
  (match sought with
    | .ok none => []
    | _ => storage.names) ++ if settings.fromProvider then Cookie.providerNames else []

/-- What a logout has to leave behind, given what there was to log out. -/
structure Completes (settings : LogoutSettings) (site : Site) (now : Int) (request : Headers)
    (holder : Holder) (state : SharedState) (sought : Except Error (Option SecurityContext))
    (served : Served) : Prop where
  /-- The browser is sent on, through the provider's page if there is a context to end there, and
  told to drop the cookies, if a field can hold their options. -/
  redirects : served.response.RedirectsTo
    ((ended? sought).elim settings.target fun context =>
      destination settings site request (state.connections.resolve now context))
    (if site.cookieOptions.IsWritable then
      (expiredNames settings (site.storage settings.storageMethod) sought).map fun name =>
        Octets.ofText (site.cookieOptions.expireCookie name)
    else [])
  /-- The provider is asked once to end the session of a context that has one. -/
  calls : served.calls = (ended? sought).elim [] fun context =>
    if context.sessionId = "" then [] else [.logout (state.connections.resolve now context)]
  /-- The holder is still there, and empty. -/
  holder : served.holder = holder.release
  emptied : served.holder.context? = none
  /-- The session that the request presents is gone and all others stay. -/
  sessions : ∀ key, served.state.sessions.sessions.get? key =
    if (site.storage settings.storageMethod).Presents request key then none
    else state.sessions.sessions.get? key
  /-- The connection of the context's user is gone and all others stay. -/
  connections : ∀ userId, served.state.connections.connections.get? userId =
    if (ended? sought).map (·.userId) = some userId then none
    else state.connections.connections.get? userId

variable {storage : Storage} {sessions : SessionStore} {now : Int} {request : Headers}
  {holder : Holder}

/-- The search finds the context that there is. -/
theorem context_find : (find storage sessions now request holder).context =
    ended? (sought storage sessions now request holder) := by
  unfold find sought
  cases holder.context? with
  | some context => rfl
  | none =>
    cases hl : storage.load sessions now request with
    | mk loaded after =>
      cases loaded with
      | ok context => rfl
      | error e => rfl

/-- The search expires cookies only if what is stored cannot be read. -/
theorem cookies_find : (find storage sessions now request holder).cookies =
    match sought storage sessions now request holder with
    | .ok _ => .empty
    | .error _ => Cookie.appendAllExpired .empty storage.cookieOptions storage.names := by
  unfold find sought
  cases holder.context? with
  | some context => rfl
  | none =>
    cases hl : storage.load sessions now request with
    | mk loaded after =>
      cases loaded with
      | ok context => rfl
      | error e => exact Storage.cookies_clear storage after request .empty

/-- What the search adds to the fields of a response. -/
theorem octets_find (field : String) :
    (find storage sessions now request holder).cookies.octets field =
      match sought storage sessions now request holder with
      | .ok _ => []
      | .error _ =>
        if Text.lower Cookie.setCookieField = Text.lower field then
          Cookie.expirations storage.cookieOptions storage.names
        else [] := by
  rw [cookies_find]
  cases sought storage sessions now request holder with
  | ok context => rfl
  | error e => exact Cookie.octets_appendAllExpired (Storage.isFieldChar_names storage) _ _ _

/-- The search leaves the sessions that the request does not present. -/
theorem get?_find_of_not_presents {key : String} (h : ¬ storage.Presents request key) :
    (find storage sessions now request holder).sessions.sessions.get? key =
      sessions.sessions.get? key := by
  have hload := Storage.get?_load_of_not_presents sessions now h
  unfold find
  cases holder.context? with
  | some context => rfl
  | none =>
    cases hl : storage.load sessions now request with
    | mk loaded after =>
      rw [hl] at hload
      cases loaded with
      | ok context => exact hload
      | error e =>
        simp only
        rw [Storage.get?_clear, if_neg h]
        exact hload

/-- A fruitless search leaves no session that the request presents. -/
theorem get?_find_of_presents {key : String} (h : storage.Presents request key)
    (hnone : ended? (sought storage sessions now request holder) = none) :
    (find storage sessions now request holder).sessions.sessions.get? key = none := by
  unfold sought at hnone
  unfold find
  cases hc : holder.context? with
  | some context =>
    rw [hc] at hnone
    cases hnone
  | none =>
    have hload := Storage.get?_load_of_presents sessions now h
    simp only [hc] at hnone
    cases hl : storage.load sessions now request with
    | mk loaded after =>
      rw [hl] at hload hnone
      cases loaded with
      | ok context =>
        obtain rfl : context = none := hnone
        exact hload rfl
      | error e =>
        simp only
        rw [Storage.get?_clear, if_pos h]

/-- What expiring the provider's cookies adds to the fields of a response. -/
theorem octets_expireProviderCookies (settings : LogoutSettings) (site : Site) (cookies : Headers)
    (field : String) :
    (expireProviderCookies settings site cookies).octets field =
      cookies.octets field ++
        if Text.lower Cookie.setCookieField = Text.lower field then
          Cookie.expirations site.cookieOptions
            (if settings.fromProvider then Cookie.providerNames else [])
        else [] := by
  have hall :
      Cookie.providerNames.all (fun name => name.toList.all (Http.IsFieldChar ·)) = true := by
    decide
  have hnames := fun name hn => Http.forall_isFieldChar (List.all_eq_true.mp hall name hn)
  unfold expireProviderCookies
  split
  · exact Cookie.octets_appendAllExpired hnames cookies site.cookieOptions field
  · simp [Cookie.expirations]

/-- A redirect that first expires the provider's cookies. -/
private theorem redirectsTo_expireProviderCookies (settings : LogoutSettings) (site : Site)
    (target : String) {cookies : Headers} {names : List String}
    (hset : cookies.octets Cookie.setCookieField = Cookie.expirations site.cookieOptions names)
    (hlocation : cookies.octets Http.locationField = []) :
    (Http.redirect target (expireProviderCookies settings site cookies)).RedirectsTo target
      (Cookie.expirations site.cookieOptions
        (names ++ if settings.fromProvider then Cookie.providerNames else [])) := by
  have hadded := octets_expireProviderCookies settings site cookies
  have hl := hadded Http.locationField
  rw [hlocation, if_neg (by decide), List.append_nil] at hl
  have hs := hadded Cookie.setCookieField
  rw [hset, if_pos rfl, ← Cookie.expirations_append] at hs
  rw [← hs]
  exact Http.redirectsTo_redirect target hl

variable {settings : LogoutSettings} {site : Site} {occasion : Occasion} {delivery : Delivery}
  {state : SharedState}

/-- A logout that finds no context leaves nothing of what the request presents either. -/
theorem completes_serve_of_none
    (h : ended? (sought (site.storage settings.storageMethod) state.sessions occasion.now
      delivery.request.headers holder) = none) :
    Completes settings site occasion.now delivery.request.headers holder state
      (sought (site.storage settings.storageMethod) state.sessions occasion.now
        delivery.request.headers holder)
      (serve settings site occasion delivery holder state) := by
  have hserve : serve settings site occasion delivery holder state =
      { response := Http.redirect settings.target (expireProviderCookies settings site
          (find (site.storage settings.storageMethod) state.sessions occasion.now
            delivery.request.headers holder).cookies)
        state := { state with sessions := (find (site.storage settings.storageMethod)
          state.sessions occasion.now delivery.request.headers holder).sessions }
        holder } := by
    simp only [serve, context_find, h]
  have hheld : holder.context? = none := by
    unfold sought at h
    split at h
    · cases h
    · assumption
  rw [hserve]
  refine ⟨?_, ?_, ?_, hheld, ?_, ?_⟩
  · rw [h]
    apply redirectsTo_expireProviderCookies
    · rw [octets_find]
      cases hs : sought (site.storage settings.storageMethod) state.sessions occasion.now
        delivery.request.headers holder with
      | ok context =>
        obtain rfl : context = none := by rwa [hs] at h
        simp [Cookie.expirations]
      | error e => exact if_pos rfl
    · rw [octets_find]
      split
      · rfl
      · exact if_neg (by decide)
  · rw [h]
    rfl
  · -- the holder was empty before
    cases holder with
    | outside => rfl
    | inside context =>
      obtain rfl : context = none := hheld
      rfl
  · intro key
    split
    · next hp => exact get?_find_of_presents hp h
    · next hp => exact get?_find_of_not_presents hp
  · intro userId
    rw [h]
    rfl

/-- A logout that finds a context leaves nothing of it. -/
theorem completes_serve_of_some {context : SecurityContext}
    (h : sought (site.storage settings.storageMethod) state.sessions occasion.now
      delivery.request.headers holder = .ok (some context)) :
    Completes settings site occasion.now delivery.request.headers holder state
      (.ok (some context)) (serve settings site occasion delivery holder state) := by
  have hcookies : ∀ field, (find (site.storage settings.storageMethod) state.sessions occasion.now
      delivery.request.headers holder).cookies.octets field = [] := by
    intro field
    rw [octets_find, h]
  have hserve : serve settings site occasion delivery holder state =
      { response := Http.redirect (destination settings site delivery.request.headers
          (state.connections.resolve occasion.now context))
          (expireProviderCookies settings site ((site.storage settings.storageMethod).clear
            (find (site.storage settings.storageMethod) state.sessions occasion.now
              delivery.request.headers holder).sessions delivery.request.headers
            (find (site.storage settings.storageMethod) state.sessions occasion.now
              delivery.request.headers holder).cookies).cookies)
        calls := remoteCalls context (state.connections.resolve occasion.now context)
        state := {
          sessions := ((site.storage settings.storageMethod).clear
            (find (site.storage settings.storageMethod) state.sessions occasion.now
              delivery.request.headers holder).sessions delivery.request.headers
            (find (site.storage settings.storageMethod) state.sessions occasion.now
              delivery.request.headers holder).cookies).sessions
          connections := state.connections.erase context.userId }
        holder := holder.release } := by
    simp only [serve, context_find, h, ended?]
  rw [hserve]
  refine ⟨?_, ?_, rfl, Holder.context?_release holder, ?_, ?_⟩
  · apply redirectsTo_expireProviderCookies
    · rw [Storage.octets_clear, hcookies, if_pos rfl]
      rfl
    · rw [Storage.octets_clear, hcookies, if_neg (by decide)]
      rfl
  · change remoteCalls context _ = _
    by_cases hs : context.sessionId = ""
    · simp [remoteCalls, SecurityContext.hasSession, ended?, hs]
    · simp [remoteCalls, SecurityContext.hasSession, ended?, hs]
  · intro key
    rw [Storage.get?_clear]
    split
    · rfl
    · next hp => exact get?_find_of_not_presents hp
  · intro userId
    change (state.connections.erase context.userId).connections.get? userId = _
    rw [ConnectionCache.erase, Table.get?_erase]
    by_cases hu : userId = context.userId
    · simp [ended?, hu]
    · simp [ended?, hu, Ne.symm hu]

/-- A logout is complete whatever it finds. -/
theorem completes_serve (settings : LogoutSettings) (site : Site) (occasion : Occasion)
    (delivery : Delivery) (holder : Holder) (state : SharedState) :
    Completes settings site occasion.now delivery.request.headers holder state
      (sought (site.storage settings.storageMethod) state.sessions occasion.now
        delivery.request.headers holder)
      (serve settings site occasion delivery holder state) := by
  cases h : ended? (sought (site.storage settings.storageMethod) state.sessions occasion.now
      delivery.request.headers holder) with
  | none => exact completes_serve_of_none h
  | some context =>
    have hs : sought (site.storage settings.storageMethod) state.sessions occasion.now
        delivery.request.headers holder = .ok (some context) := by
      unfold ended? at h
      split at h
      · next he => rw [he, h]
      · cases h
    rw [hs]
    exact completes_serve_of_some hs

/-- A logout that ends a context leads to where the context's connection does. -/
theorem redirectsTo_serve {context : SecurityContext}
    (hended : ended? (sought (site.storage settings.storageMethod) state.sessions occasion.now
      delivery.request.headers holder) = some context) :
    ∃ cookies, (serve settings site occasion delivery holder state).response.RedirectsTo
      (destination settings site delivery.request.headers
        (state.connections.resolve occasion.now context)) cookies := by
  have hredirects := (completes_serve settings site occasion delivery holder state).redirects
  rw [hended, Option.elim_some] at hredirects
  exact ⟨_, hredirects⟩

/-- A logout does not change how long sessions live. -/
theorem window_serve (settings : LogoutSettings) (site : Site) (occasion : Occasion)
    (delivery : Delivery) (holder : Holder) (state : SharedState) :
    (serve settings site occasion delivery holder state).state.sessions.window =
      state.sessions.window := by
  have hfind : (find (site.storage settings.storageMethod) state.sessions occasion.now
      delivery.request.headers holder).sessions.window = state.sessions.window := by
    have hload := Storage.window_load (site.storage settings.storageMethod) state.sessions
      occasion.now delivery.request.headers
    unfold find
    split
    · rfl
    · split
      · next hl => rwa [hl] at hload
      · next hl =>
        rw [hl] at hload
        rw [Storage.window_clear]
        exact hload
  unfold serve
  simp only
  split
  · exact hfind
  · rw [Storage.window_clear]
    exact hfind

/-- A logout ends the session that the request presents, if it is about server sessions. -/
theorem tracks_serve {key : String} {held : Option Session}
    (hm : Storage.presentedKey? delivery.request.headers = some key →
      settings.storageMethod = .session)
    (h : state.sessions.Tracks key held occasion.now) :
    (serve settings site occasion delivery holder state).state.sessions.Tracks key
      (if Storage.presentedKey? delivery.request.headers = some key then none else held)
      occasion.now := by
  intro later hle
  rw [window_serve, (completes_serve settings site occasion delivery holder state).sessions key]
  by_cases hk : Storage.presentedKey? delivery.request.headers = some key
  · rw [if_pos ⟨hm hk, hk⟩, if_pos hk]
  · rw [if_neg fun hp => hk hp.2, if_neg hk]
    exact h later hle

end SignOn.Logout
