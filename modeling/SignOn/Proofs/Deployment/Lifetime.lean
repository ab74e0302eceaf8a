import SignOn.Proofs.Deployment.Basic
import SignOn.Proofs.Logout.Completeness
import SignOn.Proofs.Storage.Turns

/-!
# Lifetime of server sessions

Which keys work is decided by the history alone: a key works if a callback issued it, if it was
never presented to a logout or to another callback that saved a context, and if it was never left
unread for longer than the window. `tracks_serve` says what one visit does to the session of a key,
`tracks_after` what a history does.
-/

namespace SignOn.Deployment

open Session (advance follow given)

variable (d : Deployment)

/-- The context that a visit comes to save, as a callback. -/
def saves? (v : Visit) : Option SecurityContext :=
  if v.request.target.path ∉ d.gate.excludedPaths ∧
      v.request.target.path = d.site.client.callbackPath then
    Gate.built? d.gate d.site v.occasion v.request
  else none

/-- Whether a visit is one to log out. -/
def LogsOut (v : Visit) : Prop :=
  d.logsOut v.request = true ∧
    (v.request.target.path ∈ d.gate.excludedPaths ∨
      v.request.target.path ≠ d.site.client.callbackPath)

/-- Whether a callback issued a key for a context: it saved the context and sent the browser on. -/
def Issues (e : Exchange) (key : String) (context : SecurityContext) : Prop :=
  d.saves? e.visit = some context ∧ e.served.response.status = 302 ∧ key = e.visit.freshKey

/-- Whether a key is presented to a logout or to a callback that saves a context. -/
def Revokes (v : Visit) (key : String) : Prop :=
  v.Presents key ∧ (d.LogsOut v ∨ (d.saves? v).isSome = true)

/-- Whether a visit loads the session of a key. -/
def Loads (v : Visit) (key : String) : Prop :=
  Gate.Guards d.gate d.site v.request ∧ v.Presents key

instance (v : Visit) : Decidable (d.LogsOut v) := inferInstanceAs (Decidable (_ ∧ _))

instance (v : Visit) (key : String) : Decidable (d.Revokes v key) :=
  inferInstanceAs (Decidable (_ ∧ _))

instance (v : Visit) (key : String) : Decidable (d.Loads v key) :=
  inferInstanceAs (Decidable (_ ∧ _))

/-- The turn that an exchange is for the session of a key. -/
def turn (key : String) (e : Exchange) : Turn :=
  match d.saves? e.visit with
  | some context =>
    if e.served.response.status = 302 ∧ key = e.visit.freshKey then .begins context
    else if e.visit.Presents key then .ends
    else .rests
  | none =>
    if e.visit.Presents key then
      if d.LogsOut e.visit then .ends
      else if Gate.Guards d.gate d.site e.visit.request then .reads
      else .rests
    else .rests

/-- A key that is not empty is presented as the session's key. -/
theorem presentedKey?_eq_some_iff {v : Visit} {key : String} (hkey : key ≠ "") :
    Storage.presentedKey? v.request.headers = some key ↔ v.Presents key := by
  rw [Storage.presentedKey?, Cookie.findNonempty?, Visit.Presents, Option.filter_eq_some_iff]
  simp [hkey]

/-- A presented key is not empty. -/
theorem ne_empty_of_presentedKey? {request : Http.Headers} {key : String}
    (h : Storage.presentedKey? request = some key) : key ≠ "" := by
  rintro rfl
  simp [Storage.presentedKey?, Cookie.findNonempty?, Option.filter_eq_some_iff] at h

/-- Keys are not empty. -/
theorem freshKey_ne_empty (v : Visit) : v.freshKey ≠ "" := by
  intro h
  have hread := Text.octetsOfHex?_hexOfOctets (SessionKey.mark v.occasion.fresh.sessionKey)
  rw [show Text.hexOfOctets _ = "" from h] at hread
  have hlen := congrArg List.length (Option.some.inj hread)
  rw [SessionKey.mark, Vector.length_toList] at hlen
  cases hlen

variable {d} {v : Visit} {state : SharedState} {key : String} {held : Option Session}

/-- A page leaves the sessions alone and a logout ends the one that is presented. -/
private theorem tracks_inner (delivery : Delivery)
    (hlogout : d.logsOut delivery.request = true →
      Storage.presentedKey? delivery.request.headers = some key →
        d.logout.storageMethod = .session)
    (holder : Holder) (state : SharedState) (h : state.sessions.Tracks key held v.time) :
    (d.inner v delivery holder state).state.sessions.Tracks key
      (if d.logsOut delivery.request = true ∧
        Storage.presentedKey? delivery.request.headers = some key then none else held) v.time := by
  unfold inner
  by_cases hl : d.logsOut delivery.request = true
  · simp only [hl, if_true, true_and]
    exact Logout.tracks_serve (hlogout hl) h
  · simpa [hl] using h

/-- What an excluded visit does to the session of a key. -/
private theorem tracks_serve_of_excluded
    (hlogout : d.LogsOut v → v.Presents key → d.logout.storageMethod = .session)
    (hkey : key ≠ "") (hx : v.request.target.path ∈ d.gate.excludedPaths)
    (h : state.sessions.Tracks key held v.time) :
    (d.serve v state).state.sessions.Tracks key
      (advance state.sessions.window v.time held (d.turn key ⟨v, d.serve v state⟩)) v.time := by
  have hrevokes : d.logsOut v.request = true → Storage.presentedKey? v.request.headers = some key →
      d.logout.storageMethod = .session := fun hl hp =>
    hlogout ⟨hl, .inl hx⟩ ((presentedKey?_eq_some_iff hkey).mp hp)
  have hinner := tracks_inner (v := v) { request := v.request } hrevokes .outside state h
  have hturn : d.turn key ⟨v, d.serve v state⟩ =
      if d.logsOut v.request = true ∧ v.Presents key then .ends else .rests := by
    simp only [turn, saves?, LogsOut, Gate.Guards, hx]
    by_cases hp : v.Presents key
    · simp [hp]
    · simp [hp]
  rw [hturn, serve_of_excluded hx]
  simp only [presentedKey?_eq_some_iff hkey] at hinner
  by_cases hl : d.logsOut v.request = true ∧ v.Presents key
  · simpa [hl, advance] using hinner
  · simpa [hl, advance] using hinner

/-- What a callback does to the session of a key. -/
private theorem tracks_serve_of_callback (hgate : d.gate.storageMethod = .session)
    (hkey : key ≠ "") (hx : v.request.target.path ∉ d.gate.excludedPaths)
    (hpath : v.request.target.path = d.site.client.callbackPath)
    (h : state.sessions.Tracks key held v.time) :
    (d.serve v state).state.sessions.Tracks key
      (advance state.sessions.window v.time held (d.turn key ⟨v, d.serve v state⟩)) v.time := by
  have hsaves : d.saves? v = Gate.built? d.gate d.site v.occasion v.request := if_pos ⟨hx, hpath⟩
  have hsave := Storage.tracks_save (s := d.site.storage d.gate.storageMethod) hgate h
    v.occasion.fresh v.request.headers .empty
  have houtcome := Storage.outcome_save (s := d.site.storage d.gate.storageMethod) hgate
    state.sessions v.time v.occasion.fresh v.request.headers .empty
  cases completed_serve state hx hpath with
  | refused hbuilt hstatus hstate =>
    have hlogs : ¬ d.LogsOut v := by
      rintro ⟨-, hx' | hpath'⟩
      · exact absurd hx' (by simp [hx])
      · exact hpath' hpath
    have hguards : ¬ Gate.Guards d.gate d.site v.request := fun hg => hg.2 hpath
    have hturn : d.turn key ⟨v, d.serve v state⟩ = .rests := by
      simp [turn, hsaves, hbuilt, hlogs, hguards]
    rw [hturn, hstate]
    exact h
  | unwritten context hbuilt e hsaved hstatus hstate =>
    have hno : ¬ (d.site.storage d.gate.storageMethod).CanWriteKey v.occasion.fresh := by
      rw [← houtcome context]
      intro hok
      cases hsaved.symm.trans hok
    have hturn : d.turn key ⟨v, d.serve v state⟩ =
        (d.site.storage d.gate.storageMethod).saveTurn v.occasion.fresh v.request.headers key
          context := by
      simp [turn, hsaves, hbuilt, hstatus, Storage.saveTurn, hno, presentedKey?_eq_some_iff hkey]
    rw [hturn, hstate]
    exact hsave context
  | done context hbuilt hgranted hsaved hresponse hstate =>
    have hyes : (d.site.storage d.gate.storageMethod).CanWriteKey v.occasion.fresh :=
      (houtcome context).mp hsaved
    have hturn : d.turn key ⟨v, d.serve v state⟩ =
        (d.site.storage d.gate.storageMethod).saveTurn v.occasion.fresh v.request.headers key
          context := by
      simp [turn, hsaves, hbuilt, hresponse, Http.redirect, Storage.saveTurn, hyes,
        presentedKey?_eq_some_iff hkey, Visit.freshKey]
    rw [hturn, hstate]
    exact hsave context

/-- What a guarded visit does to the session of a key. -/
private theorem tracks_serve_of_guards (hgate : d.gate.storageMethod = .session)
    (hlogout : d.LogsOut v → v.Presents key → d.logout.storageMethod = .session) (hkey : key ≠ "")
    (hg : Gate.Guards d.gate d.site v.request) (h : state.sessions.Tracks key held v.time) :
    (d.serve v state).state.sessions.Tracks key
      (advance state.sessions.window v.time held (d.turn key ⟨v, d.serve v state⟩)) v.time := by
  have hturn : d.turn key ⟨v, d.serve v state⟩ =
      if v.Presents key then if d.logsOut v.request = true then .ends else .reads else .rests := by
    simp [turn, saves?, LogsOut, hg, hg.1, hg.2]
  have hload : (Gate.lookUp d.gate d.site v.occasion v.request state).2.Tracks key
      (advance state.sessions.window v.time held (if v.Presents key then .reads else .rests))
      v.time := by
    have hload := Storage.tracks_load (s := d.site.storage d.gate.storageMethod) hgate h
      v.request.headers
    simp only [presentedKey?_eq_some_iff hkey] at hload
    exact hload
  rw [hturn]
  cases hl : (Gate.lookUp d.gate d.site v.occasion v.request state).1 with
  | error e =>
    -- only the cookie storage has contexts that cannot be read
    have hcookie := (Storage.load_of_error hl).1
    cases hgate.symm.trans hcookie
  | ok found =>
    cases found with
    | none =>
      rw [serve_of_absent hg hl]
      by_cases hp : v.Presents key
      · -- reading has found nothing, so nothing is left to log out
        have hnone : advance state.sessions.window v.time held .reads = none := by
          have hgiven := Storage.load_of_presented (s := d.site.storage d.gate.storageMethod)
            hgate h ((presentedKey?_eq_some_iff hkey).mpr hp)
          have hgiven' := Except.ok.inj (hgiven.symm.trans hl)
          exact Option.map_eq_none_iff.mpr (Option.map_eq_none_iff.mp hgiven')
        rw [if_pos hp, hnone] at hload
        rw [if_pos hp]
        by_cases hlogs : d.logsOut v.request = true
        · rw [if_pos hlogs]
          exact hload
        · rw [if_neg hlogs, hnone]
          exact hload
      · rw [if_neg hp] at hload ⊢
        exact hload
    | some context =>
      rw [serve_of_found hg hl]
      have hrevokes : d.logsOut v.request = true →
          Storage.presentedKey? v.request.headers = some key → d.logout.storageMethod = .session :=
        fun hl hp => hlogout ⟨hl, .inr hg.2⟩ ((presentedKey?_eq_some_iff hkey).mp hp)
      have hinner := tracks_inner (d := d) (v := v)
        { request := v.request, attached := some context } hrevokes (.inside (some context))
        { state with sessions := (Gate.lookUp d.gate d.site v.occasion v.request state).2 } hload
      simp only [presentedKey?_eq_some_iff hkey] at hinner
      by_cases hp : v.Presents key
      · by_cases hlogs : d.logsOut v.request = true
        · simpa [hp, hlogs, advance] using hinner
        · simpa [hp, hlogs] using hinner
      · simpa [hp] using hinner

/-- What a visit does to the session of a key is its turn. -/
theorem tracks_serve (hgate : d.gate.storageMethod = .session)
    (hlogout : d.LogsOut v → v.Presents key → d.logout.storageMethod = .session) (hkey : key ≠ "")
    (h : state.sessions.Tracks key held v.time) :
    (d.serve v state).state.sessions.Tracks key
      (advance state.sessions.window v.time held (d.turn key ⟨v, d.serve v state⟩)) v.time := by
  rcases Gate.excluded_or_callback_or_guards d.gate d.site v.request with hx | ⟨hx, hpath⟩ | hg
  · exact tracks_serve_of_excluded hlogout hkey hx h
  · exact tracks_serve_of_callback hgate hkey hx hpath h
  · exact tracks_serve_of_guards hgate hlogout hkey hg h

/-- What a visit can leave of the shared state: all of it as it was, the sessions after the gate has
looked for a context, what a logout leaves of either, or what saving a context adds. -/
inductive Leaves (d : Deployment) (v : Visit) (state : SharedState) : SharedState → Prop where
  | unchanged : Leaves d v state state
  | lookedUp : Leaves d v state
    { state with sessions := (Gate.lookUp d.gate d.site v.occasion v.request state).2 }
  | loggedOut {before : SharedState} (h : Leaves d v state before) (delivery : Delivery)
    (holder : Holder) :
    Leaves d v state (Logout.serve d.logout d.site v.occasion delivery holder before).state
  | unwritten (context : SecurityContext) (hsaves : d.saves? v = some context) : Leaves d v state
    { state with
      sessions := (Gate.saved d.gate d.site v.occasion v.request state context).sessions }
  | saved (context : SecurityContext) (hsaves : d.saves? v = some context) : Leaves d v state {
      sessions := (Gate.saved d.gate d.site v.occasion v.request state context).sessions
      connections := state.connections.put v.time context }

/-- A page leaves the shared state alone. -/
private theorem Leaves.inner {before : SharedState} (h : d.Leaves v state before)
    (delivery : Delivery) (holder : Holder) :
    d.Leaves v state (d.inner v delivery holder before).state := by
  unfold Deployment.inner
  split
  · exact h.loggedOut delivery holder
  · exact h

/-- A visit leaves nothing else. -/
theorem leaves_serve (d : Deployment) (v : Visit) (state : SharedState) :
    d.Leaves v state (d.serve v state).state := by
  rcases Gate.excluded_or_callback_or_guards d.gate d.site v.request with hx | ⟨hx, hpath⟩ | hg
  · rw [serve_of_excluded hx]
    exact Leaves.unchanged.inner _ _
  · have hsaves : d.saves? v = Gate.built? d.gate d.site v.occasion v.request :=
      if_pos ⟨hx, hpath⟩
    cases completed_serve state hx hpath with
    | refused _ _ hstate =>
      rw [hstate]
      exact .unchanged
    | unwritten context hbuilt _ _ _ hstate =>
      rw [hstate]
      exact .unwritten context (hsaves.trans hbuilt)
    | done context hbuilt _ _ _ hstate =>
      rw [hstate]
      exact .saved context (hsaves.trans hbuilt)
  · cases hl : (Gate.lookUp d.gate d.site v.occasion v.request state).1 with
    | error e =>
      rw [serve_of_unreadable hg hl]
      exact .unchanged
    | ok found =>
      cases found with
      | none =>
        rw [serve_of_absent hg hl]
        exact .lookedUp
      | some context =>
        rw [serve_of_found hg hl]
        exact Leaves.lookedUp.inner _ _

private theorem Leaves.window {after : SharedState} (h : d.Leaves v state after) :
    after.sessions.window = state.sessions.window := by
  induction h with
  | unchanged => rfl
  | lookedUp => exact Storage.window_load _ _ _ _
  | loggedOut _ delivery holder ih => exact (Logout.window_serve _ _ _ _ _ _).trans ih
  | unwritten context => exact Storage.window_save _ _ _ _ _ _ _
  | saved context => exact Storage.window_save _ _ _ _ _ _ _

/-- No visit changes how long sessions live. -/
theorem window_serve (d : Deployment) (v : Visit) (state : SharedState) :
    (d.serve v state).state.sessions.window = state.sessions.window :=
  (leaves_serve d v state).window

/-- No history changes how long sessions live. -/
theorem window_after (d : Deployment) (state : SharedState) (history : List Visit) :
    (d.after state history).sessions.window = state.sessions.window := by
  induction history generalizing state with
  | nil => rfl
  | cons v history ih => rw [after, ih, window_serve]

/-- What a history does to the session of a key is to take the turns of its exchanges. -/
theorem tracks_after (hgate : d.gate.storageMethod = .session) (hkey : key ≠ "")
    (state : SharedState) (history : List Visit)
    (hlogout : ∀ v ∈ history, d.LogsOut v → v.Presents key → d.logout.storageMethod = .session)
    {start now : Int} (hclock : (start :: (history.map Visit.time ++ [now])).IsChain (· ≤ ·))
    (h : state.sessions.Tracks key held start) :
    (d.after state history).sessions.Tracks key
      (follow state.sessions.window (·.visit.time) (d.turn key) held (d.transcript state history))
      now := by
  induction history generalizing state held start with
  | nil =>
    have hle : start ≤ now := by simpa using hclock
    exact h.mono hle
  | cons v history ih =>
    rw [List.map_cons, List.cons_append, List.isChain_cons_cons] at hclock
    have hserve := tracks_serve hgate (hlogout v List.mem_cons_self) hkey (h.mono hclock.1)
    have hrest := ih _ (fun w hw => hlogout w (List.mem_cons_of_mem _ hw)) hclock.2 hserve
    rw [window_serve] at hrest
    exact hrest

/-! ## Which keys work -/

/-- A guarded visit is admitted with what the session of its key gives. -/
theorem admits_iff_given (hgate : d.gate.storageMethod = .session) (hkey : key ≠ "")
    (hg : Gate.Guards d.gate d.site v.request) (hp : v.Presents key)
    (h : state.sessions.Tracks key held v.time) (context : SecurityContext) :
    d.Admits v state context ↔ given state.sessions.window v.time held = some context := by
  have hload := Storage.load_of_presented (s := d.site.storage d.gate.storageMethod)
    hgate h ((presentedKey?_eq_some_iff hkey).mpr hp)
  rw [admits_iff d hg, Gate.lookUp]
  rw [show v.occasion.now = v.time from rfl, hload, Except.ok.injEq]

/-- The turn of an exchange begins a session exactly when the key was issued. -/
theorem turn_eq_begins_iff {e : Exchange} {context : SecurityContext} :
    d.turn key e = .begins context ↔ d.Issues e key context := by
  unfold turn Issues
  cases hs : d.saves? e.visit with
  | none =>
    simp only [reduceCtorEq, false_and, iff_false]
    split
    · split
      · exact Turn.noConfusion
      · split
        · exact Turn.noConfusion
        · exact Turn.noConfusion
    · exact Turn.noConfusion
  | some saved =>
    by_cases hi : e.served.response.status = 302 ∧ key = e.visit.freshKey
    · simp [hi]
    · simp only [hi, if_false, Option.some.injEq, and_false, iff_false]
      split
      · exact Turn.noConfusion
      · exact Turn.noConfusion

/-- The turn of an exchange that does not issue the key. -/
theorem turn_of_not_issues {e : Exchange} (h : ∀ context, ¬ d.Issues e key context) :
    d.turn key e =
      if d.Revokes e.visit key then .ends else if d.Loads e.visit key then .reads else .rests := by
  have hloads : d.Loads e.visit key ↔
      Gate.Guards d.gate d.site e.visit.request ∧ e.visit.Presents key := Iff.rfl
  have hrevokes : d.Revokes e.visit key ↔
      e.visit.Presents key ∧ (d.LogsOut e.visit ∨ (d.saves? e.visit).isSome = true) := Iff.rfl
  cases hs : d.saves? e.visit with
  | none =>
    simp only [turn, hs]
    by_cases hp : e.visit.Presents key
    · by_cases hl : d.LogsOut e.visit
      · simp [hp, hl, hrevokes]
      · simp [hp, hl, hs, hrevokes, hloads]
    · simp [hp, hrevokes, hloads]
  | some saved =>
    have hno : ¬ (e.served.response.status = 302 ∧ key = e.visit.freshKey) :=
      fun hi => h saved ⟨hs, hi⟩
    simp only [turn, hs]
    by_cases hp : e.visit.Presents key
    · simp [hno, hp, hs, hrevokes]
    · simp [hno, hp, hrevokes, hloads]

/-- The keys that the callbacks of a history draw, one for each context that they save. -/
def drawn (d : Deployment) (history : List Visit) : List String :=
  (history.filter fun v => (d.saves? v).isSome).map Visit.freshKey

/-- A key that was issued was drawn. -/
theorem mem_drawn_of_issues {history : List Visit} {e : Exchange} {context : SecurityContext}
    (he : e.visit ∈ history) (hissue : d.Issues e key context) : key ∈ d.drawn history := by
  rw [hissue.2.2, drawn]
  apply List.mem_map_of_mem
  rw [List.mem_filter]
  exact ⟨he, by simp [hissue.1]⟩

/-- A key that was drawn once is issued once. -/
theorem not_issues_of_nodup {history : List Visit} (hfresh : (d.drawn history).Nodup)
    {before since : List Exchange} {issue : Exchange} {context : SecurityContext}
    (hsplit : d.transcript state history = before ++ issue :: since)
    (hissue : d.Issues issue key context) :
    ∀ e ∈ since, ∀ other, ¬ d.Issues e key other := by
  intro e he other hagain
  have hvisits := d.map_visit_transcript state history
  rw [hsplit, List.map_append, List.map_cons] at hvisits
  have hsaved : (d.saves? issue.visit).isSome = true := by simp [hissue.1]
  rw [← hvisits, drawn, List.filter_append,
    List.filter_cons_of_pos (p := fun v => (d.saves? v).isSome) hsaved, List.map_append,
    List.map_cons] at hfresh
  have hnot := (List.nodup_cons.mp (List.nodup_append.mp hfresh).2.1).1
  rw [← hissue.2.2] at hnot
  exact hnot (mem_drawn_of_issues (List.mem_map_of_mem he) hagain)

/-- After a key was issued once its session lasts exactly as long as nothing revokes the key and it
is not left unread for longer than the window. -/
theorem lasts_iff_of_issued {window now : Int} {issue : Exchange} {since : List Exchange}
    (honce : ∀ e ∈ since, ∀ context, ¬ d.Issues e key context) :
    Session.Lasts window (·.visit.time) (d.turn key) now issue since ↔
      (∀ e ∈ since, ¬ d.Revokes e.visit key) ∧
        Session.Unbroken window
          ((issue :: since.filter fun e => d.Loads e.visit key).map (·.visit.time) ++ [now]) := by
  have hturn := fun e he => turn_of_not_issues (honce e he)
  have hkept : (∀ e ∈ since, d.turn key e = .reads ∨ d.turn key e = .rests) ↔
      ∀ e ∈ since, ¬ d.Revokes e.visit key := by
    apply forall₂_congr
    intro e he
    rw [hturn e he]
    by_cases hr : d.Revokes e.visit key
    · simp [hr]
    · by_cases hl : d.Loads e.visit key
      · simp [hr, hl]
      · simp [hr, hl]
  have hreads : (∀ e ∈ since, ¬ d.Revokes e.visit key) →
      since.filter (d.turn key · = .reads) = since.filter fun e => d.Loads e.visit key := by
    intro hno
    apply List.filter_congr
    intro e he
    rw [hturn e he, if_neg (hno e he)]
    by_cases hl : d.Loads e.visit key
    · simp [hl]
    · simp [hl]
  constructor
  · rintro ⟨hk, hu⟩
    have hno := hkept.mp hk
    rw [hreads hno] at hu
    exact ⟨hno, hu⟩
  · rintro ⟨hno, hu⟩
    rw [← hreads hno] at hu
    exact ⟨hkept.mpr hno, hu⟩

/-- A key gives a guarded visit a context exactly when an earlier callback issued the key for this
context, nothing has revoked it since, and neither between its issue, its later loads and this visit
did more than the window pass. -/
theorem admits_iff_issued (d : Deployment) (hgate : d.gate.storageMethod = .session)
    (hlogout : d.logout.storageMethod = .session) (window start : Int)
    (connections : ConnectionCache) (history : List Visit) (v : Visit)
    (hclock : (start :: (history.map Visit.time ++ [v.time])).IsChain (· ≤ ·))
    (hfresh : (d.drawn history).Nodup) (hg : Gate.Guards d.gate d.site v.request) (key : String)
    (hp : v.Presents key) (context : SecurityContext) :
    d.Admits v (d.after ⟨.create window start, connections⟩ history) context ↔
      ∃ before issue since,
        d.transcript ⟨.create window start, connections⟩ history = before ++ issue :: since ∧
        d.Issues issue key context ∧ (∀ e ∈ since, ¬ d.Revokes e.visit key) ∧
        Session.Unbroken window
          ((issue :: since.filter fun e => d.Loads e.visit key).map (·.visit.time) ++
            [v.time]) := by
  by_cases hkey : key = ""
  · -- the empty text is no key, and a request that presents it presents none
    subst hkey
    have hnone : Storage.presentedKey? v.request.headers = none := by
      rw [Storage.presentedKey?, Cookie.findNonempty?, show Cookie.find? _ _ = _ from hp]
      rfl
    rw [admits_iff d hg, Gate.lookUp, Storage.load_of_not_presented hgate hnone]
    constructor
    · intro h
      cases h
    · rintro ⟨-, issue, -, -, hissue, -⟩
      exact absurd hissue.2.2.symm (freshKey_ne_empty issue.visit)
  have htracks := tracks_after hgate hkey ⟨.create window start, connections⟩ history
    (fun _ _ _ _ => hlogout) hclock (SessionStore.tracks_create window start key)
  have hwindow := window_after d ⟨.create window start, connections⟩ history
  rw [admits_iff_given hgate hkey hg hp htracks, hwindow]
  change given window v.time (follow window (·.visit.time) (d.turn key) none _) = some context ↔ _
  rw [Session.given_follow_eq_some_iff]
  constructor
  · rintro ⟨before, issue, since, hsplit, hbegun, hlasts⟩
    have hissue := turn_eq_begins_iff.mp hbegun
    rw [lasts_iff_of_issued (not_issues_of_nodup hfresh hsplit hissue)] at hlasts
    exact ⟨before, issue, since, hsplit, hissue, hlasts⟩
  · rintro ⟨before, issue, since, hsplit, hissue, hlasts⟩
    rw [← lasts_iff_of_issued (not_issues_of_nodup hfresh hsplit hissue)] at hlasts
    exact ⟨before, issue, since, hsplit, turn_eq_begins_iff.mpr hissue, hlasts⟩

/-- A session that is read in time lives on: at time 14 it works under a window of 10, since it
began at time 0 and was read at time 5. -/
theorem admits_sample :
    (sample .session ⟨[]⟩).Admits
      (sampleVisit 14 "/" none "force_session=00000000000040008000000000000000")
      ((sample .session ⟨[]⟩).after ⟨.create 10 0, { timeToLive := 0 }⟩
        [sampleVisit 0 "/_auth" (some "code=1") "",
          sampleVisit 5 "/" none "force_session=00000000000040008000000000000000"])
      sampleContext := by
  refine (admits_iff_issued (sample .session ⟨[]⟩) rfl rfl 10 0 { timeToLive := 0 } _ _
    (by decide +kernel) (by decide +kernel) (by decide +kernel) "00000000000040008000000000000000"
    (by decide +kernel) sampleContext).mpr ⟨[], _, _, rfl, ?_, ?_, ?_⟩
  · exact ⟨by decide +kernel, by decide +kernel, by decide +kernel⟩
  · intro e he
    rw [List.mem_singleton.mp he]
    decide +kernel
  · unfold Session.Unbroken
    decide +kernel

end SignOn.Deployment
