import SignOn.Proofs.Connection.History
import SignOn.Proofs.Logout.Completeness

/-!
# What the connection cache hides

The cache stands between a context and its own connection. It answers for a user, and compares the
session only, so it can hide a connection in one case: it still holds one that was put for the same
user and the same session with another endpoint. In every other case a context gets its own
connection, and a logout does what it would do without a cache (`hides_only_what_it_holds`). The
clock may go back here.
-/

namespace SignOn

namespace ConnectionCache

variable {timeToLive now : Int} {history : List Event} {userId : String} {c : ConnectionCache}

/-- Whether a cache with a history has the connection of a context to give out at a time: it was
put, no event since has dropped or replaced it, and it is not out of date. -/
def Holds (timeToLive : Int) (history : List Event) (now : Int) (context : SecurityContext) :
    Prop :=
  ∃ before stored since, history = before ++ stored :: since ∧ stored.operation = .put context ∧
    (∀ e ∈ since, e.Spares timeToLive context.userId stored.time) ∧ now - stored.time ≤ timeToLive

/-- What is given out for a user is the connection of the context that is held for it. -/
theorem get?_after_eq_some_iff_holds {connection : Connection} :
    (({ timeToLive } : ConnectionCache).after history).get? now userId = some connection ↔
      ∃ held, held.userId = userId ∧ Holds timeToLive history now held ∧
        connection = .ofContext held := by
  rw [get?, Option.map_eq_some_iff]
  constructor
  · rintro ⟨entry, hentry, rfl⟩
    obtain ⟨hget, hfresh⟩ := Option.filter_eq_some_iff.mp hentry
    obtain ⟨before, stored, since, hsplit, ⟨held, hput, rfl, rfl⟩, hspared⟩ :=
      get?_after_eq_some_iff.mp hget
    refine ⟨held, rfl, ⟨before, stored, since, hsplit, hput, hspared, ?_⟩, rfl⟩
    simpa [isExpired] using hfresh
  · rintro ⟨held, rfl, ⟨before, stored, since, hsplit, hput, hspared, hfresh⟩, rfl⟩
    refine ⟨⟨.ofContext held, stored.time⟩, Option.filter_eq_some_iff.mpr ⟨?_, ?_⟩, rfl⟩
    · exact get?_after_eq_some_iff.mpr
        ⟨before, stored, since, hsplit, ⟨held, hput, rfl, rfl⟩, hspared⟩
    · simpa [isExpired] using hfresh

/-! ## What a context gets -/

/-- A context gets its own connection unless another one is given out for its session. -/
theorem resolve_eq_ofContext_iff {context : SecurityContext} :
    c.resolve now context = .ofContext context ↔
      ∀ connection, c.get? now context.userId = some connection →
        connection.sessionId = context.sessionId → connection = .ofContext context := by
  unfold resolve
  split
  · next connection hget =>
    split
    · next hid => simp [hget, hid]
    · next hid => simp [hget, hid]
  · next hget => simp [hget]

/-- What is given out for the session of a context is what the context gets. -/
theorem resolve_of_get? {context : SecurityContext} {connection : Connection}
    (hget : c.get? now context.userId = some connection)
    (hid : connection.sessionId = context.sessionId) : c.resolve now context = connection := by
  rw [resolve, hget]
  exact if_pos hid

/-- Whether a cache with a history holds nothing for the user and the session of a context but what
has its endpoint. -/
def HoldsNoOther (timeToLive : Int) (history : List Event) (now : Int) (context : SecurityContext) :
    Prop :=
  ∀ held, held.userId = context.userId → held.sessionId = context.sessionId →
    Holds timeToLive history now held → held.endpoint = context.endpoint

/-- After a history a context gets its own connection exactly if no other is held for its session.
-/
theorem resolve_after_eq_ofContext_iff {context : SecurityContext} :
    (({ timeToLive } : ConnectionCache).after history).resolve now context = .ofContext context ↔
      HoldsNoOther timeToLive history now context := by
  simp only [resolve_eq_ofContext_iff, get?_after_eq_some_iff_holds]
  constructor
  · intro h held huser hid hheld
    exact congrArg Connection.endpoint (h _ ⟨held, huser, hheld, rfl⟩ hid)
  · rintro h _ ⟨held, huser, hheld, rfl⟩ hid
    exact Connection.mk.injEq .. |>.mpr ⟨h held huser hid hheld, hid⟩

end ConnectionCache

namespace Logout

open ConnectionCache

variable {settings : LogoutSettings} {site : Site} {occasion : Occasion} {delivery : Delivery}
  {holder : Holder}

/-- Whether two requests were served alike, except for the connections that are left. -/
structure ServedAlike (a b : Served) : Prop where
  response : a.response = b.response
  calls : a.calls = b.calls
  holder : a.holder = b.holder
  sessions : a.state.sessions = b.state.sessions

/-- A logout asks the cache for the connection of the context that it ends, and for nothing else. -/
theorem servedAlike_of_resolve {sessions : SessionStore} {c c' : ConnectionCache}
    (h : ∀ context, ended? (sought (site.storage settings.storageMethod) sessions occasion.now
        delivery.request.headers holder) = some context →
      c.resolve occasion.now context = c'.resolve occasion.now context) :
    ServedAlike (serve settings site occasion delivery holder ⟨sessions, c⟩)
      (serve settings site occasion delivery holder ⟨sessions, c'⟩) := by
  unfold serve
  simp only [context_find]
  split
  · exact ⟨rfl, rfl, rfl, rfl⟩
  · next context hfound =>
    rw [h context hfound]
    exact ⟨rfl, rfl, rfl, rfl⟩

/-- What a logout of a context does when it goes by the context's own connection: the provider is
asked to end the session at the context's endpoint, and the browser leaves through that endpoint. -/
structure GoesByOwn (settings : LogoutSettings) (site : Site) (request : Http.Headers)
    (context : SecurityContext) (served : Served) : Prop where
  calls : served.calls =
    if context.sessionId = "" then [] else [.logout (.ofContext context)]
  redirects : ∃ cookies, served.response.RedirectsTo
    (destination settings site request (.ofContext context)) cookies

/-- A logout goes by the context's own connection if that is what the context gets. -/
theorem goesByOwn_of_resolve {state : SharedState} {context : SecurityContext}
    (hended : ended? (sought (site.storage settings.storageMethod) state.sessions occasion.now
      delivery.request.headers holder) = some context)
    (hown : state.connections.resolve occasion.now context = .ofContext context) :
    GoesByOwn settings site delivery.request.headers context
      (serve settings site occasion delivery holder state) := by
  have hcalls := (completes_serve settings site occasion delivery holder state).calls
  rw [hended, Option.elim_some, hown] at hcalls
  exact ⟨hcalls, hown ▸ redirectsTo_serve hended⟩

end Logout

namespace ConnectionCache

/-- What a cache with a history does for a context at a time. -/
structure HidesOnlyWhatItHolds (timeToLive : Int) (history : List Event) (now : Int)
    (context : SecurityContext) : Prop where
  /-- The connection belongs to the session of the context. -/
  session : ((({ timeToLive } : ConnectionCache).after history).resolve now context).sessionId =
    context.sessionId
  /-- It is the context's own exactly if none with another endpoint is held for the session. -/
  own : (({ timeToLive } : ConnectionCache).after history).resolve now context =
    .ofContext context ↔ HoldsNoOther timeToLive history now context
  /-- Otherwise it is the one that is held. -/
  held : ∀ held, held.userId = context.userId → held.sessionId = context.sessionId →
    Holds timeToLive history now held →
      (({ timeToLive } : ConnectionCache).after history).resolve now context = .ofContext held
  /-- If it is the context's own, a logout of the context goes by it, and does what it would do
  without a cache. -/
  logout : HoldsNoOther timeToLive history now context →
    ∀ settings site occasion delivery holder sessions, occasion.now = now →
      Logout.ended? (Logout.sought (Site.storage site settings.storageMethod) sessions now
        delivery.request.headers holder) = some context →
      Logout.GoesByOwn settings site delivery.request.headers context
          (Logout.serve settings site occasion delivery holder
            ⟨sessions, ({ timeToLive } : ConnectionCache).after history⟩) ∧
        Logout.ServedAlike
          (Logout.serve settings site occasion delivery holder
            ⟨sessions, ({ timeToLive } : ConnectionCache).after history⟩)
          (Logout.serve settings site occasion delivery holder ⟨sessions, { timeToLive }⟩)

/-- A cache is seen through, for every context and after every history, unless it still holds
another endpoint for the same user and session. -/
theorem hides_only_what_it_holds (timeToLive : Int) (history : List Event) (now : Int)
    (context : SecurityContext) : HidesOnlyWhatItHolds timeToLive history now context where
  session := sessionId_resolve _ now context
  own := resolve_after_eq_ofContext_iff
  held held huser hid hheld :=
    resolve_of_get? (get?_after_eq_some_iff_holds.mpr ⟨held, huser, hheld, rfl⟩) hid
  logout hno settings site occasion delivery holder sessions hnow hended := by
    subst hnow
    have hown := resolve_after_eq_ofContext_iff.mpr hno
    refine ⟨Logout.goesByOwn_of_resolve hended hown, Logout.servedAlike_of_resolve ?_⟩
    intro other hother
    obtain rfl : other = context := Option.some.inj (hother.symm.trans hended)
    exact hown

/-- The context of one session at a given instance. -/
def sampleAt (name : String) : SecurityContext :=
  { sampleOf "mine" "id" with
    endpoint := {
      scheme := "https"
      authority := some { host := .domain name }
      path := .rooted [""] } }

/-- A cache into which the connection of that session was put with the endpoint `na1`. -/
def sampleMoved : ConnectionCache :=
  ({ timeToLive := 10 } : ConnectionCache).after [⟨0, .put (sampleAt "na1.example.com")⟩]

/-- A context of the same user and session with the endpoint `na2` gets that of `na1`, and a logout
of it asks `na1` to end the session. -/
theorem hides_sampleAt :
    (sampleMoved.resolve 1 (sampleAt "na2.example.com")).endpoint ≠
        (sampleAt "na2.example.com").endpoint ∧
      ∀ settings site fresh backend delivery sessions,
        (Logout.serve settings site { now := 1, fresh, backend } delivery
          (.inside (some (sampleAt "na2.example.com"))) ⟨sessions, sampleMoved⟩).calls =
            [.logout (.ofContext (sampleAt "na1.example.com"))] := by
  have hgets : sampleMoved.resolve 1 (sampleAt "na2.example.com") =
      .ofContext (sampleAt "na1.example.com") := by decide
  refine ⟨by rw [hgets]; decide, fun settings site fresh backend delivery sessions => ?_⟩
  rw [← hgets]
  rfl

end ConnectionCache

end SignOn
