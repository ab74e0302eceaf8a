import SignOn.Connection.Cache
import SignOn.Proofs.Session.History

/-!
# Histories of connection caches

A cache is used through puts, reads, evictions, clearings and sweeps, at times that do not go back.
A cached connection is like a session that is never read: it begins with a put of its user and ends
with an eviction of this user or a clearing. `Tracks` ties the cache to the session that its history
leaves, one law for each operation, so that what is said of histories of sessions holds here too.
What is given out for a user is the connection of the last put, until its time to live has passed.
-/

namespace SignOn

/-- The entry that the connection of a session has in a cache. -/
def CachedConnection.ofSession (s : Session) : CachedConnection := ⟨.ofContext s.context, s.lastAccess⟩

namespace ConnectionCache

open Session (advance follow given isLive)

/-! ## One operation -/

/-- The cache holds for a user what `held` says, except for a connection that is out of date at
`now`. -/
def Tracks (c : ConnectionCache) (userId : String) (held : Option Session) (now : Int) : Prop :=
  ∀ later, now ≤ later →
    (c.connections.get? userId).filter (fun cached => !c.isExpired later cached) =
      (held.map .ofSession).filter fun cached => !c.isExpired later cached

variable {c : ConnectionCache} {userId : String} {held : Option Session} {now later : Int}

/-- An empty cache holds nothing for any user. -/
theorem tracks_empty (timeToLive now : Int) (userId : String) :
    Tracks { timeToLive } userId none now := fun _ _ => rfl

/-- What a cache holds stays true as time passes. -/
theorem Tracks.mono (h : c.Tracks userId held now) (hle : now ≤ later) :
    c.Tracks userId held later :=
  fun t ht => h t (by omega)

/-- A sweep drops what is out of date only. -/
theorem Tracks.sweep (h : c.Tracks userId held now) : (c.sweep now).Tracks userId held now := by
  intro t ht
  have hstays : ∀ cached, (!c.isExpired now cached && !c.isExpired t cached) =
      !c.isExpired t cached := by
    intro cached
    by_cases hx : c.isExpired t cached = true
    · simp [hx]
    · have hnow : c.isExpired now cached = false := by
        simp only [isExpired, decide_eq_true_eq, decide_eq_false_iff_not] at hx ⊢
        omega
      simp [hx, hnow]
  rw [ConnectionCache.sweep, Table.get?_filter, Option.filter_filter]
  simp only [isExpired] at hstays h ⊢
  simp only [hstays]
  exact h t ht

/-- Storing a connection begins it for its own user, and the cache is swept first. -/
theorem Tracks.put (h : c.Tracks userId held now) (context : SecurityContext) :
    (c.put now context).Tracks userId (advance c.timeToLive now held
      (if context.userId = userId then .begins context else .rests)) now := by
  intro t ht
  rw [ConnectionCache.put, Table.get?_put]
  by_cases hu : context.userId = userId
  · rw [if_pos hu, if_pos hu.symm]
    rfl
  · rw [if_neg hu, if_neg (Ne.symm hu)]
    exact h.sweep t ht

/-- Dropping a connection is seen for its own user only. -/
theorem Tracks.erase (h : c.Tracks userId held now) (other : String) :
    (c.erase other).Tracks userId (advance c.timeToLive now held
      (if other = userId then .ends else .rests)) now := by
  intro t ht
  rw [ConnectionCache.erase, Table.get?_erase]
  by_cases hu : other = userId
  · rw [if_pos hu, if_pos hu.symm]
    rfl
  · rw [if_neg hu, if_neg (Ne.symm hu)]
    exact h t ht

/-- Clearing ends the connections of all users. -/
theorem tracks_clear (c : ConnectionCache) (userId : String) (held : Option Session) (now : Int) :
    c.clear.Tracks userId (advance c.timeToLive now held .ends) now := fun _ _ => rfl

/-- What is given out for a user. -/
theorem Tracks.get?_eq (h : c.Tracks userId held now) :
    c.get? now userId = (given c.timeToLive now held).map .ofContext := by
  rw [get?, h now (Int.le_refl now), given]
  cases held with
  | none => rfl
  | some s =>
    have htest : (!c.isExpired now (.ofSession s)) = s.isLive c.timeToLive now := by
      rw [isExpired, isLive, ← decide_not]
      exact decide_eq_decide.mpr Int.not_lt
    simp only [Option.map_some, Option.filter_some, htest]
    split
    · rfl
    · rfl

/-- What a sweep leaves is what was there and is not out of date. -/
theorem get?_sweep_eq_some_iff {cached : CachedConnection} :
    (c.sweep now).connections.get? userId = some cached ↔
      c.connections.get? userId = some cached ∧ now - cached.storedAt ≤ c.timeToLive := by
  rw [ConnectionCache.sweep, Table.get?_filter, Option.filter_eq_some_iff]
  simp [isExpired]

/-- What a put leaves for other users was there before and is not out of date. -/
theorem of_get?_put {context : SecurityContext} {cached : CachedConnection}
    (h : (c.put now context).connections.get? userId = some cached)
    (hother : userId ≠ context.userId) :
    c.connections.get? userId = some cached ∧ now - cached.storedAt ≤ c.timeToLive := by
  rw [ConnectionCache.put, Table.get?_put, if_neg hother] at h
  exact get?_sweep_eq_some_iff.mp h

/-- The connection for a context always belongs to its session. -/
theorem sessionId_resolve (c : ConnectionCache) (now : Int) (context : SecurityContext) :
    (c.resolve now context).sessionId = context.sessionId := by
  unfold resolve
  split
  · split
    · next hid => exact hid
    · rfl
  · rfl

/-! ## Histories -/

/-- What can be done to a cache. -/
inductive Operation where
  | put (context : SecurityContext)
  | get (userId : String)
  | erase (userId : String)
  | clear
  | sweep
  deriving DecidableEq

/-- An operation and when it takes place. -/
structure Event where
  time : Int
  operation : Operation
  deriving DecidableEq

namespace Event

/-- The cache after an event. -/
def apply (c : ConnectionCache) (e : Event) : ConnectionCache :=
  match e.operation with
  | .put context => c.put e.time context
  | .get _ => c
  | .erase userId => c.erase userId
  | .clear => c.clear
  | .sweep => c.sweep e.time

/-- Whether an event stores or drops the connection of a user. -/
def concerns (userId : String) (e : Event) : Bool :=
  match e.operation with
  | .put context => context.userId = userId
  | .erase other => other = userId
  | .clear => true
  | .get _ => false
  | .sweep => false

/-- Whether an event leaves the entry that was stored for a user at some time. -/
def Spares (timeToLive : Int) (userId : String) (storedAt : Int) (e : Event) : Prop :=
  match e.operation with
  | .put context => userId ≠ context.userId ∧ e.time - storedAt ≤ timeToLive
  | .get _ => True
  | .erase other => userId ≠ other
  | .clear => False
  | .sweep => e.time - storedAt ≤ timeToLive

/-- The turn that an event is for the connection of a user. -/
def turn (userId : String) (e : Event) : Turn :=
  match e.operation with
  | .put context => if context.userId = userId then .begins context else .rests
  | .erase other => if other = userId then .ends else .rests
  | .clear => .ends
  | .get _ => .rests
  | .sweep => .rests

variable {e : Event}

theorem turn_ne_reads : e.turn userId ≠ .reads := by
  unfold turn
  cases e.operation <;> grind

theorem turn_eq_begins_iff {context : SecurityContext} :
    e.turn userId = .begins context ↔ e.operation = .put context ∧ context.userId = userId := by
  unfold turn
  cases e.operation <;> grind

theorem turn_eq_rests_iff : e.turn userId = .rests ↔ e.concerns userId = false := by
  unfold turn concerns
  cases e.operation <;> grind

end Event

/-- The cache after a history. -/
def after (c : ConnectionCache) (history : List Event) : ConnectionCache :=
  history.foldl Event.apply c

/-- Whether a context is the one whose connection was last stored for its user, not longer ago than
the time to live, and nothing has dropped the connection since. -/
def IsCurrent (timeToLive : Int) (history : List Event) (now : Int) (context : SecurityContext) :
    Prop :=
  ∃ before stored since, history = before ++ stored :: since ∧ stored.operation = .put context ∧
    (∀ e ∈ since, e.operation ≠ .erase context.userId ∧ e.operation ≠ .clear ∧
      ∀ other, e.operation = .put other → other.userId ≠ context.userId) ∧
    now - stored.time ≤ timeToLive

/-- Whether an entry is the one that an event puts into the cache for a user. -/
def IsEntryOf (stored : Event) (userId : String) (entry : CachedConnection) : Prop :=
  ∃ context, stored.operation = .put context ∧ context.userId = userId ∧
    entry = ⟨.ofContext context, stored.time⟩

/-- What a cache with a history does at a time. -/
structure GivesOutLastPut (timeToLive : Int) (history : List Event) (now : Int) : Prop where
  /-- A user gets the connection of the last put while it is current, and nothing else. -/
  get : ∀ userId connection,
    (({ timeToLive } : ConnectionCache).after history).get? now userId = some connection ↔
      ∃ context, context.userId = userId ∧ IsCurrent timeToLive history now context ∧
        connection = .ofContext context
  /-- A context gets the current connection of its user if that belongs to the same session. -/
  cached : ∀ context current, current.userId = context.userId →
    current.sessionId = context.sessionId → IsCurrent timeToLive history now current →
      (({ timeToLive } : ConnectionCache).after history).resolve now context = .ofContext current
  /-- Otherwise it gets its own. -/
  own : ∀ context,
    (∀ current, current.userId = context.userId → IsCurrent timeToLive history now current →
      current.sessionId ≠ context.sessionId) →
      (({ timeToLive } : ConnectionCache).after history).resolve now context = .ofContext context
  /-- Either way the connection belongs to the session of the context. -/
  session : ∀ context,
    ((({ timeToLive } : ConnectionCache).after history).resolve now context).sessionId =
      context.sessionId
  /-- Reads, sweeps and what happens to other users make no difference. -/
  others : ∀ userId (other : List Event), (other.map Event.time ++ [now]).IsChain (· ≤ ·) →
    other.filter (Event.concerns userId) = history.filter (Event.concerns userId) →
      (({ timeToLive } : ConnectionCache).after other).get? now userId =
        (({ timeToLive } : ConnectionCache).after history).get? now userId ∧
      ∀ context, context.userId = userId →
        (({ timeToLive } : ConnectionCache).after other).resolve now context =
          (({ timeToLive } : ConnectionCache).after history).resolve now context
  /-- After a put all that is held for other users was put there within the time to live. -/
  reclaimed : ∀ context userId entry,
    ((({ timeToLive } : ConnectionCache).after history).put now context).connections.get? userId =
      some entry → userId ≠ context.userId →
        (∃ stored ∈ history, IsEntryOf stored userId entry) ∧ now - entry.storedAt ≤ timeToLive

variable {history : List Event}

@[simp] theorem timeToLive_apply (c : ConnectionCache) (e : Event) :
    (e.apply c).timeToLive = c.timeToLive := by
  unfold Event.apply
  cases e.operation with
  | put context => rfl
  | get userId => rfl
  | erase userId => rfl
  | clear => rfl
  | sweep => rfl

theorem after_concat (c : ConnectionCache) (history : List Event) (e : Event) :
    c.after (history ++ [e]) = e.apply (c.after history) := by
  simp [after]

@[simp] theorem timeToLive_after (c : ConnectionCache) (history : List Event) :
    (c.after history).timeToLive = c.timeToLive := by
  induction history using List.reverseRecOn with
  | nil => rfl
  | append_singleton history e ih => rw [after_concat, timeToLive_apply, ih]

/-- What is held after an event is what it puts, or was held before and is spared. -/
theorem get?_apply_eq_some_iff {e : Event} {entry : CachedConnection} :
    (e.apply c).connections.get? userId = some entry ↔
      IsEntryOf e userId entry ∨
        c.connections.get? userId = some entry ∧ e.Spares c.timeToLive userId entry.storedAt := by
  unfold Event.apply Event.Spares IsEntryOf
  cases he : e.operation with
  | put context =>
    simp only [ConnectionCache.put, Table.get?_put]
    by_cases hu : userId = context.userId
    · simp [hu, eq_comm]
    · have hne : ¬ context.userId = userId := Ne.symm hu
      simp [hu, hne, get?_sweep_eq_some_iff]
  | get other => simp
  | erase other =>
    simp only [ConnectionCache.erase, Table.get?_erase]
    by_cases hu : userId = other <;> simp [hu]
  | clear => simp [ConnectionCache.clear]
  | sweep => simp [get?_sweep_eq_some_iff]

/-- What is held after a history was put by an event that all later ones have spared. -/
theorem get?_after_eq_some_iff {timeToLive : Int} {entry : CachedConnection} :
    (({ timeToLive } : ConnectionCache).after history).connections.get? userId = some entry ↔
      ∃ before stored since, history = before ++ stored :: since ∧ IsEntryOf stored userId entry ∧
        ∀ e ∈ since, e.Spares timeToLive userId entry.storedAt := by
  induction history using List.reverseRecOn with
  | nil => simp [after]
  | append_singleton history e ih =>
    rw [after_concat, get?_apply_eq_some_iff, timeToLive_after, ih]
    constructor
    · rintro (hput | ⟨⟨before, stored, since, rfl, hstored, hspared⟩, he⟩)
      · exact ⟨history, e, [], rfl, hput, fun _ h => absurd h List.not_mem_nil⟩
      · refine ⟨before, stored, since ++ [e], by simp, hstored, ?_⟩
        exact List.forall_mem_append.mpr ⟨hspared, List.forall_mem_singleton.mpr he⟩
    · rintro ⟨before, stored, since, hsplit, hstored, hspared⟩
      rcases List.eq_nil_or_concat since with rfl | ⟨front, last, rfl⟩
      · obtain ⟨-, rfl⟩ := List.append_inj' hsplit rfl |>.imp id List.singleton_inj.mp
        exact .inl hstored
      · rw [List.concat_eq_append] at hsplit hspared
        rw [← List.cons_append, ← List.append_assoc] at hsplit
        obtain ⟨rfl, hlast⟩ := List.append_inj' hsplit rfl
        obtain rfl := List.singleton_inj.mp hlast
        obtain ⟨hfront, hend⟩ := List.forall_mem_append.mp hspared
        exact .inr ⟨⟨before, stored, front, rfl, hstored, hfront⟩,
          List.forall_mem_singleton.mp hend⟩

/-- All that a cache holds after a history was put there. -/
theorem exists_entry_of_get?_after {timeToLive : Int} {entry : CachedConnection}
    (h : (({ timeToLive } : ConnectionCache).after history).connections.get? userId = some entry) :
    ∃ stored ∈ history, IsEntryOf stored userId entry := by
  obtain ⟨before, stored, since, rfl, hentry, -⟩ := get?_after_eq_some_iff.mp h
  exact ⟨stored, by simp, hentry⟩

/-- What an event does to the connection of a user is its turn. -/
theorem Tracks.apply {e : Event} (h : c.Tracks userId held e.time) :
    (e.apply c).Tracks userId (advance c.timeToLive e.time held (e.turn userId)) e.time := by
  unfold Event.apply Event.turn
  cases e.operation with
  | put context => exact h.put context
  | get other => exact h
  | erase other => exact h.erase other
  | clear => exact tracks_clear c userId held e.time
  | sweep => exact h.sweep

/-- What a history does to the connection of a user is to take the turns of its events. -/
theorem tracks_after (c : ConnectionCache) (h : ∀ now, c.Tracks userId held now)
    (hclock : (history.map Event.time ++ [now]).IsChain (· ≤ ·)) :
    (c.after history).Tracks userId
      (follow c.timeToLive Event.time (Event.turn userId) held history) now := by
  induction history using List.reverseRecOn generalizing now with
  | nil => exact h now
  | append_singleton history e ih =>
    rw [List.map_append, List.append_assoc, List.map_singleton, List.singleton_append,
      List.isChain_append_cons_cons] at hclock
    have he := (ih hclock.1).apply
    rw [timeToLive_after] at he
    rw [after_concat, Session.follow_concat]
    exact he.mono hclock.2.1

/-- A connection lasts for its time to live, unless it is dropped or another one stored. -/
theorem lasts_iff {timeToLive : Int} {stored : Event} {since : List Event} :
    Session.Lasts timeToLive Event.time (Event.turn userId) now stored since ↔
      (∀ e ∈ since, e.operation ≠ .erase userId ∧ e.operation ≠ .clear ∧
        ∀ other, e.operation = .put other → other.userId ≠ userId) ∧
        now - stored.time ≤ timeToLive := by
  have hreads : since.filter (Event.turn userId · = .reads) = [] :=
    List.filter_eq_nil_iff.mpr fun e _ => by simp [Event.turn_ne_reads]
  have hkept : ∀ e : Event, (e.turn userId = .reads ∨ e.turn userId = .rests) ↔
      e.operation ≠ .erase userId ∧ e.operation ≠ .clear ∧
        ∀ other, e.operation = .put other → other.userId ≠ userId := by
    intro e
    unfold Event.turn
    cases e.operation <;> grind
  have hage : Session.Unbroken timeToLive ([stored.time] ++ [now]) ↔
      now - stored.time ≤ timeToLive := by
    simp [Session.Unbroken]
  constructor
  · intro h
    have hunbroken := h.unbroken
    rw [hreads] at hunbroken
    exact ⟨fun e he => (hkept e).mp (h.kept e he), hage.mp hunbroken⟩
  · rintro ⟨hsince, hle⟩
    refine ⟨fun e he => (hkept e).mpr (hsince e he), ?_⟩
    rw [hreads]
    exact hage.mpr hle

/-- What the history of a user leaves is the current context. -/
theorem given_follow_eq_some_iff {timeToLive : Int} {context : SecurityContext} :
    given timeToLive now (follow timeToLive Event.time (Event.turn userId) none history) =
        some context ↔
      context.userId = userId ∧ IsCurrent timeToLive history now context := by
  rw [Session.given_follow_eq_some_iff]
  simp only [Event.turn_eq_begins_iff, lasts_iff, IsCurrent]
  constructor
  · rintro ⟨before, stored, since, rfl, ⟨hput, rfl⟩, hsince, hle⟩
    exact ⟨rfl, before, stored, since, rfl, hput, hsince, hle⟩
  · rintro ⟨rfl, before, stored, since, rfl, hput, hsince, hle⟩
    exact ⟨before, stored, since, rfl, ⟨hput, rfl⟩, hsince, hle⟩

/-- What is given out for a user after a history. -/
theorem get?_after {timeToLive : Int} (hclock : (history.map Event.time ++ [now]).IsChain (· ≤ ·))
    (userId : String) :
    (({ timeToLive } : ConnectionCache).after history).get? now userId =
      (given timeToLive now (follow timeToLive Event.time (Event.turn userId) none history)).map
        .ofContext := by
  have htracks := tracks_after _ (fun now => tracks_empty timeToLive now userId) hclock
  rw [htracks.get?_eq, timeToLive_after]

/-- Only events that concern a user count for what is given out. -/
theorem follow_filter_concerns (timeToLive : Int) (userId : String) (history : List Event) :
    follow timeToLive Event.time (Event.turn userId) none
        (history.filter (Event.concerns userId)) =
      follow timeToLive Event.time (Event.turn userId) none history := by
  apply Session.follow_filter
  intro before e since _ hno
  have hrests := Event.turn_eq_rests_iff.mpr hno
  exact ⟨fun context => by simp [hrests], .inl hrests⟩

/-- A cache gives out the connection of the last put of a user for as long as its time to live,
whatever is read, swept or done to other users in between. -/
theorem gives_out_last_put (timeToLive : Int) (history : List Event) (now : Int)
    (hclock : (history.map Event.time ++ [now]).IsChain (· ≤ ·)) :
    GivesOutLastPut timeToLive history now := by
  have hget : ∀ userId connection,
      (({ timeToLive } : ConnectionCache).after history).get? now userId = some connection ↔
        ∃ context, context.userId = userId ∧ IsCurrent timeToLive history now context ∧
          connection = .ofContext context := by
    intro userId connection
    rw [get?_after hclock, Option.map_eq_some_iff]
    refine exists_congr fun context => ?_
    rw [given_follow_eq_some_iff, and_assoc, eq_comm (a := Connection.ofContext context)]
  refine ⟨hget, ?_, ?_, fun context => sessionId_resolve _ _ _, ?_, ?_⟩
  · intro context current huser hid hcurrent
    have hfound := (hget context.userId (.ofContext current)).mpr ⟨current, huser, hcurrent, rfl⟩
    simp only [resolve, hfound]
    rw [if_pos]
    exact hid
  · intro context hnone
    unfold resolve
    split
    · next connection hfound =>
      obtain ⟨current, huser, hcurrent, rfl⟩ := (hget _ _).mp hfound
      rw [if_neg]
      exact hnone current huser hcurrent
    · rfl
  · intro userId other hother hsame
    have heq : (({ timeToLive } : ConnectionCache).after other).get? now userId =
        (({ timeToLive } : ConnectionCache).after history).get? now userId := by
      rw [get?_after hother, get?_after hclock, ← follow_filter_concerns timeToLive userId other,
        hsame, follow_filter_concerns]
    refine ⟨heq, ?_⟩
    rintro context rfl
    rw [resolve, resolve, heq]
  · intro context userId entry hentry hother
    obtain ⟨hheld, hle⟩ := of_get?_put hentry hother
    rw [timeToLive_after] at hle
    exact ⟨exists_entry_of_get?_after hheld, hle⟩

/-- A context of a user. -/
def sampleOf (userId sessionId : String) : SecurityContext where
  sessionId
  endpoint := { scheme := "https", authority := none, path := .rooted [] }
  userId

/-- One user's connection is put, another user's too, the first is read, and what is out of date is
swept. -/
def sampleEvents : List Event := [
  ⟨0, .put (sampleOf "mine" "old")⟩, ⟨2, .put (sampleOf "mine" "id")⟩,
  ⟨4, .put (sampleOf "other" "id")⟩, ⟨11, .get "mine"⟩, ⟨11, .sweep⟩, ⟨11, .erase "other"⟩]

/-- At time 12, a whole time to live of 10 after the put, the connection is given out. -/
theorem gives_out_sampleEvents :
    (sampleEvents.map Event.time ++ [12]).IsChain (· ≤ ·) ∧
      (({ timeToLive := 10 } : ConnectionCache).after sampleEvents).get? 12 "mine" =
        some (.ofContext (sampleOf "mine" "id")) := by
  have hclock : (sampleEvents.map Event.time ++ [12]).IsChain (· ≤ ·) := by decide
  refine ⟨hclock, ((gives_out_last_put 10 sampleEvents 12 hclock).get _ _).mpr ?_⟩
  exact ⟨sampleOf "mine" "id", rfl, ⟨[_], _, _, rfl, rfl, by simp [sampleOf], by decide⟩, rfl⟩

/-- A moment later it is out of date, although it was read. -/
example : (({ timeToLive := 10 } : ConnectionCache).after sampleEvents).get? 13 "mine" = none := by
  decide

end ConnectionCache

end SignOn
