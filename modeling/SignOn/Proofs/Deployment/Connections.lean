import SignOn.Proofs.Deployment.RoundTrip

/-!
# Connections of granted contexts

The connection cache is keyed by user, so two sessions of one user overwrite and evict each other's
entry. That cannot be noticed: whatever the cache holds was stored by a login, and a backend that
ties a token to one place and one user gives all contexts of one session id the same connection.
-/

namespace SignOn

namespace ConnectionCache

/-- Whether every connection in a cache is that of a context with a property. -/
def HoldsOnly (P : SecurityContext → Prop) (c : ConnectionCache) : Prop :=
  ∀ userId cached, c.connections.get? userId = some cached →
    ∃ context, P context ∧ cached.connection = .ofContext context

variable {P : SecurityContext → Prop} {c : ConnectionCache}

/-- An empty cache holds nothing. -/
theorem holdsOnly_empty (timeToLive : Int) : HoldsOnly P { timeToLive } := by
  intro userId cached h
  cases h

/-- What is left in a cache was there before. -/
theorem HoldsOnly.mono {c' : ConnectionCache} (h : c.HoldsOnly P)
    (hsub : ∀ userId cached, c'.connections.get? userId = some cached →
      c.connections.get? userId = some cached) : c'.HoldsOnly P :=
  fun userId cached hget => h userId cached (hsub userId cached hget)

/-- Storing a connection adds it and nothing else. -/
theorem HoldsOnly.put (h : c.HoldsOnly P) (now : Int) {context : SecurityContext}
    (hcontext : P context) : (c.put now context).HoldsOnly P := by
  intro userId cached hget
  rw [ConnectionCache.put, Table.get?_put] at hget
  split at hget
  · rw [← Option.some.inj hget]
    exact ⟨context, hcontext, rfl⟩
  · rw [ConnectionCache.sweep, Table.get?_filter] at hget
    exact h userId cached (Option.filter_eq_some_iff.mp hget).1

/-- A context gets its own connection if the cached ones of its session are no different. -/
theorem HoldsOnly.resolve (h : c.HoldsOnly P) (now : Int) {context : SecurityContext}
    (hsame : ∀ other, P other → other.sessionId = context.sessionId →
      Connection.ofContext other = .ofContext context) :
    c.resolve now context = .ofContext context := by
  unfold ConnectionCache.resolve
  cases hget : c.get? now context.userId with
  | none => rfl
  | some connection =>
    simp only
    split
    · next hid =>
      obtain ⟨cached, hcached, rfl⟩ := Option.map_eq_some_iff.mp hget
      obtain ⟨other, hother, hconnection⟩ :=
        h _ _ (Option.filter_eq_some_iff.mp hcached).1
      rw [hconnection] at hid ⊢
      exact hsame other hother hid
    · rfl

end ConnectionCache

/-- Whether a backend never gives one access token for two places, or to two users. -/
structure IdentityBackend.IsConsistent (backend : IdentityBackend) : Prop where
  place : ∀ {code redirectUri code' redirectUri' token token'},
    backend.exchangeCode code redirectUri = .ok token →
    backend.exchangeCode code' redirectUri' = .ok token' →
    token.accessToken = token'.accessToken → token.instanceUrl = token'.instanceUrl
  user : ∀ {code redirectUri code' redirectUri' token token' user user'},
    backend.exchangeCode code redirectUri = .ok token →
    backend.exchangeCode code' redirectUri' = .ok token' →
    token.accessToken = token'.accessToken →
    backend.userRecord token = .ok user → backend.userRecord token' = .ok user' → user = user'

namespace Deployment

variable {d : Deployment} {backend : IdentityBackend} {v : Visit} {state : SharedState}
  {context : SecurityContext} {P : SecurityContext → Prop}

/-- Whether a context is built from answers of a backend. -/
def Grants (d : Deployment) (backend : IdentityBackend) (context : SecurityContext) : Prop :=
  ∃ calls token user, Gate.Granted d.gate backend calls token user context

/-- A context that a visit comes to save was granted. -/
theorem grants_of_saves? (h : d.saves? v = some context) : d.Grants v.occasion.backend context := by
  unfold saves? at h
  split at h
  · exact Gate.granted_of_built? h
  · cases h

/-- A consistent backend grants one context for each session id. -/
theorem eq_of_grants (hbackend : backend.IsConsistent) {other : SecurityContext}
    (h : d.Grants backend context) (h' : d.Grants backend other)
    (hid : context.sessionId = other.sessionId) : context = other := by
  obtain ⟨_, token, user, ⟨code, redirectUri, htoken, -⟩, huser, hcontext⟩ := h
  obtain ⟨_, token', user', ⟨code', redirectUri', htoken', -⟩, huser', hcontext'⟩ := h'
  rw [Token.sessionId_of_toContext hcontext, Token.sessionId_of_toContext hcontext'] at hid
  have hplace := hbackend.place htoken htoken' hid
  obtain rfl := hbackend.user htoken htoken' hid huser huser'
  have hsame : token.toContext user d.gate.apiVersion = token'.toContext user d.gate.apiVersion := by
    simp only [Token.toContext, hplace, hid]
  exact Except.ok.inj (hcontext.symm.trans (hsame.trans hcontext'))

private theorem Leaves.holdsOnly {after : SharedState} (hleaves : d.Leaves v state after)
    (hsaves : ∀ context, d.saves? v = some context → P context)
    (h : state.connections.HoldsOnly P) : after.connections.HoldsOnly P := by
  induction hleaves with
  | unchanged => exact h
  | lookedUp => exact h
  | loggedOut _ delivery holder ih =>
    refine ih.mono fun userId cached hget => ?_
    rw [(Logout.completes_serve _ _ _ _ _ _).connections] at hget
    split at hget
    · cases hget
    · exact hget
  | unwritten context => exact h
  | saved context hsaved => exact h.put v.time (hsaves context hsaved)

/-- A visit adds at most the connection of the context that it saves. -/
theorem holdsOnly_serve (hsaves : ∀ context, d.saves? v = some context → P context)
    (h : state.connections.HoldsOnly P) : (d.serve v state).state.connections.HoldsOnly P :=
  (leaves_serve d v state).holdsOnly hsaves h

/-- A history adds at most the connections of the contexts that it saves. -/
theorem holdsOnly_after {history : List Visit}
    (hsaves : ∀ v ∈ history, ∀ context, d.saves? v = some context → P context)
    (h : state.connections.HoldsOnly P) : (d.after state history).connections.HoldsOnly P := by
  induction history generalizing state with
  | nil => exact h
  | cons v history ih =>
    exact ih (fun w hw => hsaves w (List.mem_cons_of_mem v hw))
      (holdsOnly_serve (hsaves v List.mem_cons_self) h)

/-- After any history with a consistent backend a granted context gets its own connection. -/
theorem resolve_after (hbackend : backend.IsConsistent) {history : List Visit}
    (hsame : ∀ v ∈ history, v.occasion.backend = backend)
    (h : state.connections.HoldsOnly (d.Grants backend)) (hcontext : d.Grants backend context)
    (now : Int) :
    (d.after state history).connections.resolve now context = .ofContext context := by
  have hsaves : ∀ v ∈ history, ∀ context, d.saves? v = some context → d.Grants backend context :=
    fun v hv context hc => hsame v hv ▸ grants_of_saves? hc
  refine (holdsOnly_after hsaves h).resolve now fun other hother hid => ?_
  rw [eq_of_grants hbackend hother hcontext hid]

end Deployment

end SignOn
