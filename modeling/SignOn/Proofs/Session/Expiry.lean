import SignOn.Proofs.Session.History

/-!
# Expiry of server sessions

A store is used through reads, puts, drops and sweeps, at times that do not go back. What a read
gives is decided by the key's own past: the last put, no drop since, and no gap between that put,
the reads since and the read itself that is longer than the window. When the store was swept, and
what happened to other keys, makes no difference to any read.
-/

namespace SignOn.SessionStore

open Session (advance follow given)

/-- What can be done to a store. -/
inductive Operation where
  | get (key : String)
  | put (key : String) (context : SecurityContext)
  | erase (key : String)
  | sweep
  deriving DecidableEq

/-- The key that an operation is about. -/
def Operation.key? : Operation → Option String
  | get key => some key
  | put key _ => some key
  | erase key => some key
  | sweep => none

/-- What an operation does to the session of its key. -/
def Operation.turn : Operation → Turn
  | get _ => .reads
  | put _ context => .begins context
  | erase _ => .ends
  | sweep => .rests

/-- An operation and when it takes place. -/
structure Event where
  time : Int
  operation : Operation
  deriving DecidableEq

namespace Event

/-- The store after an event. -/
def apply (s : SessionStore) (e : Event) : SessionStore :=
  match e.operation with
  | .get key => (s.get e.time key).2
  | .put key context => s.put e.time key context
  | .erase key => s.erase key
  | .sweep => s.sweep e.time

/-- What an event reads under a key: nothing if it is no read of this key. -/
def reading (key : String) (s : SessionStore) (e : Event) : List (Option SecurityContext) :=
  if e.operation = .get key then [(s.get e.time key).1] else []

/-- Whether an event is about a key. -/
def concerns (key : String) (e : Event) : Bool := e.operation.key? = some key

/-- The turn that an event is for the session of a key. -/
def turn (key : String) (e : Event) : Turn :=
  if e.concerns key then e.operation.turn else .rests

variable {key : String} {e : Event}

theorem turn_eq_reads_iff : e.turn key = .reads ↔ e.operation = .get key := by
  unfold turn concerns
  cases e.operation <;> grind [Operation.key?, Operation.turn]

theorem turn_eq_begins_iff {context : SecurityContext} :
    e.turn key = .begins context ↔ e.operation = .put key context := by
  unfold turn concerns
  cases e.operation <;> grind [Operation.key?, Operation.turn]

theorem turn_eq_ends_iff : e.turn key = .ends ↔ e.operation = .erase key := by
  unfold turn concerns
  cases e.operation <;> grind [Operation.key?, Operation.turn]

end Event

/-- The store after a history. -/
def after (s : SessionStore) (history : List Event) : SessionStore := history.foldl Event.apply s

/-- What the reads of a key give in a history, in order. -/
def readings (key : String) (s : SessionStore) : List Event → List (Option SecurityContext)
  | [] => []
  | e :: history => e.reading key s ++ readings key (e.apply s) history

variable {s : SessionStore} {key : String} {held : Option Session}

@[simp] theorem window_apply (s : SessionStore) (e : Event) : (e.apply s).window = s.window := by
  unfold Event.apply
  cases e.operation with
  | get key => exact window_get s e.time key
  | put key context => exact window_put s e.time key context
  | erase key => rfl
  | sweep => rfl

@[simp] theorem window_after (s : SessionStore) (history : List Event) :
    (s.after history).window = s.window := by
  induction history generalizing s with
  | nil => rfl
  | cons e history ih => rw [after, List.foldl_cons, ← after, ih, window_apply]

/-- What an event does to the session of a key is its turn. -/
theorem Tracks.apply {e : Event} (h : s.Tracks key held e.time) :
    (e.apply s).Tracks key (advance s.window e.time held (e.turn key)) e.time := by
  unfold Event.apply Event.turn Event.concerns
  cases e.operation with
  | get other => simpa [Operation.key?, Operation.turn, eq_comm] using h.get_snd other
  | put other context => simpa [Operation.key?, Operation.turn, eq_comm] using h.put other context
  | erase other => simpa [Operation.key?, Operation.turn, eq_comm] using h.erase other
  | sweep => exact h.sweep

/-- What a history does to the session of a key is to take the turns of its events. -/
theorem tracks_after {start now : Int} {history : List Event}
    (hclock : (start :: (history.map Event.time ++ [now])).IsChain (· ≤ ·))
    (h : s.Tracks key held start) :
    (s.after history).Tracks key (follow s.window Event.time (Event.turn key) held history)
      now := by
  induction history generalizing s held start with
  | nil =>
    have hle : start ≤ now := by simpa using hclock
    exact h.mono hle
  | cons e history ih =>
    rw [List.map_cons, List.cons_append, List.isChain_cons_cons] at hclock
    have hrest := ih hclock.2 (h.mono hclock.1).apply
    rw [window_apply] at hrest
    exact hrest

/-- A session lasts exactly as long as it is not dropped or put anew and no gap in its reads is
longer than the window. -/
theorem lasts_iff {window now : Int} {stored : Event} {since : List Event} :
    Session.Lasts window Event.time (Event.turn key) now stored since ↔
      (∀ e ∈ since, e.operation ≠ .erase key ∧ ∀ other, e.operation ≠ .put key other) ∧
        Session.Unbroken window
          ((stored :: since.filter (·.operation = .get key)).map Event.time ++ [now]) := by
  have hreads : since.filter (Event.turn key · = .reads) =
      since.filter (·.operation = .get key) :=
    List.filter_congr fun e _ => decide_eq_decide.mpr Event.turn_eq_reads_iff
  have hkept : (∀ e ∈ since, e.turn key = .reads ∨ e.turn key = .rests) ↔
      ∀ e ∈ since, e.operation ≠ .erase key ∧ ∀ other, e.operation ≠ .put key other := by
    apply forall₂_congr
    intro e _
    simp only [ne_eq, ← Event.turn_eq_ends_iff, ← Event.turn_eq_begins_iff]
    cases e.turn key with
    | begins context => simp
    | reads => simp
    | ends => simp
    | rests => simp
  constructor
  · rintro ⟨hk, hu⟩
    rw [hreads] at hu
    exact ⟨hkept.mp hk, hu⟩
  · rintro ⟨hk, hu⟩
    rw [← hreads] at hu
    exact ⟨hkept.mpr hk, hu⟩

/-- What the reads of a key give, from the session that is held for it. -/
def given? (window : Int) (key : String) (held : Option Session) :
    List Event → List (Option SecurityContext)
  | [] => []
  | e :: history =>
    (if e.operation = .get key then [given window e.time held] else []) ++
      given? window key (advance window e.time held (e.turn key)) history

/-- A store reads what the session of the key gives. -/
theorem readings_eq {start : Int} {history : List Event}
    (hclock : (start :: history.map Event.time).IsChain (· ≤ ·)) (h : s.Tracks key held start) :
    readings key s history = given? s.window key held history := by
  induction history generalizing s held start with
  | nil => rfl
  | cons e history ih =>
    rw [List.map_cons, List.isChain_cons_cons] at hclock
    have hnow := h.mono hclock.1
    rw [readings, given?, Event.reading, hnow.get_fst, ih hclock.2 hnow.apply, window_apply]

/-- Only events about a key count for its reads. -/
theorem given?_filter (window : Int) (key : String) (held : Option Session)
    (history : List Event) :
    given? window key held (history.filter (Event.concerns key)) =
      given? window key held history := by
  induction history generalizing held with
  | nil => rfl
  | cons e history ih =>
    cases hc : e.concerns key with
    | true => rw [List.filter_cons_of_pos hc, given?, given?, ih]
    | false =>
      have hturn : e.turn key = .rests := by simp [Event.turn, hc]
      have hget : e.operation ≠ .get key := by
        rw [ne_eq, ← Event.turn_eq_reads_iff, hturn]
        exact Turn.noConfusion
      rw [List.filter_cons_of_neg (by simp [hc]), given?, hturn, if_neg hget, advance,
        List.nil_append, ih]

/-- A store gives out a context exactly until it expires: the last put of the key stored it, the key
was not dropped since, and nowhere between the put, the reads since and now did more than the window
pass. Histories that agree on the events about a key, whatever else happens in them, give the same
reads of this key. -/
theorem expires_exactly (window start : Int) (key : String) (history : List Event) (now : Int)
    (hclock : (start :: (history.map Event.time ++ [now])).IsChain (· ≤ ·)) :
    (∀ context, (((create window start).after history).get now key).1 = some context ↔
      ∃ before stored since, history = before ++ stored :: since ∧
        stored.operation = .put key context ∧
        (∀ e ∈ since, e.operation ≠ .erase key ∧ ∀ other, e.operation ≠ .put key other) ∧
        Session.Unbroken window
          ((stored :: since.filter (·.operation = .get key)).map Event.time ++ [now])) ∧
    ∀ (begun : Int) (other : List Event),
      (begun :: other.map Event.time).IsChain (· ≤ ·) →
      other.filter (Event.concerns key) = history.filter (Event.concerns key) →
      readings key (create window begun) other = readings key (create window start) history := by
  constructor
  · intro context
    have htracks := tracks_after hclock (tracks_create window start key)
    rw [htracks.get_fst, window_after]
    change given window now (follow window Event.time (Event.turn key) none history) = _ ↔ _
    rw [Session.given_follow_eq_some_iff]
    simp only [Event.turn_eq_begins_iff, lasts_iff]
  · intro begun other hother hsame
    rw [← List.cons_append] at hclock
    rw [readings_eq hother (tracks_create window begun key),
      readings_eq hclock.left_of_append (tracks_create window start key)]
    change given? window key none other = given? window key none history
    rw [← given?_filter window key none other, hsame, given?_filter]

/-- A context without user. -/
def sampleContext : SecurityContext where
  sessionId := "id"
  endpoint := { scheme := "https", authority := none, path := .rooted [] }

/-- A session of a store with a window of 10, read at time 5: a put and a sweep lie between. -/
def sampleHistory : List Event := [
  ⟨0, .put "mine" sampleContext⟩, ⟨4, .put "other" sampleContext⟩, ⟨5, .get "mine"⟩, ⟨12, .sweep⟩]

/-- At time 15, a whole window after it was read, the session still lives. Without the put of the
other key and the sweep its reads are the same. -/
theorem expires_exactly_sampleHistory :
    (((create 10 0).after sampleHistory).get 15 "mine").1 = some sampleContext ∧
      readings "mine" (create 10 0) [⟨0, .put "mine" sampleContext⟩, ⟨5, .get "mine"⟩] =
        readings "mine" (create 10 0) sampleHistory := by
  obtain ⟨hgiven, hsame⟩ := expires_exactly 10 0 "mine" sampleHistory 15 (by decide)
  refine ⟨(hgiven sampleContext).mpr ⟨[], _, _, rfl, rfl, by simp, ?_⟩,
    hsame 0 _ (by decide) (by decide)⟩
  unfold Session.Unbroken
  decide

/-- A moment later it has expired. -/
example : (((create 10 0).after sampleHistory).get 16 "mine").1 = none := by decide

end SignOn.SessionStore
