import Mathlib.Data.List.Perm.Subperm
import SignOn.Proofs.Session.Expiry

/-!
# Abandoned sessions

A session that nobody reads any more stays in the store until a sweep, and sweeps are rare: storing
a session begins one only if the last one lies a window back. What a store holds was used no more
than a window before the last sweep all the same, so storing a session leaves nothing that was used
more than two windows before (`reclaims_abandoned`).
-/

namespace SignOn.SessionStore

open Session (isLive)

/-- The key whose session an operation uses: by reading or by storing it. -/
def Operation.usedKey? : Operation → Option String
  | get key => some key
  | put key _ => some key
  | erase _ => none
  | sweep => none

/-- Whether an operation stores a session. -/
def Operation.isPut : Operation → Bool
  | put _ _ => true
  | _ => false

namespace Event

/-- Whether an event stores a session after a sweep. -/
def reclaims (s : SessionStore) (e : Event) : Bool := e.operation.isPut && s.sweepDue e.time

/-- Whether an event sweeps the store, because it is due or because it was asked for. -/
def sweeps (s : SessionStore) (e : Event) : Bool := e.reclaims s || e.operation = .sweep

end Event

/-- The events of a history that store a session after a sweep. -/
def reclaiming (s : SessionStore) : List Event → List Event
  | [] => []
  | e :: history =>
    if e.reclaims s then e :: reclaiming (e.apply s) history else reclaiming (e.apply s) history

/-- Whether all sessions that a store holds were used at some time or later. -/
def HoldsSince (s : SessionStore) (bound : Int) : Prop :=
  ∀ key session, s.sessions.get? key = some session → bound ≤ session.lastAccess

/-- Whether nothing that a store holds was used more than a window before the last sweep, which lies
in the past. -/
structure UpToDate (s : SessionStore) (now : Int) : Prop where
  held : s.HoldsSince (s.lastSweep - s.window)
  past : s.lastSweep ≤ now

variable {s : SessionStore} {e : Event} {key : String} {session : Session} {bound : Int}

/-- What was used later was used at an earlier bound or later, too. -/
theorem HoldsSince.mono (h : s.HoldsSince bound) {earlier : Int} (hle : earlier ≤ bound) :
    s.HoldsSince earlier :=
  fun key session hheld => Int.le_trans hle (h key session hheld)

theorem isLive_iff {window now : Int} :
    session.isLive window now = true ↔ now - session.lastAccess ≤ window := by
  rw [isLive, decide_eq_true_eq]

/-! ## One event -/

/-- Sessions that an event is not about are touched by sweeps only, which drop what has passed. -/
theorem get?_apply_of_not_concerns (s : SessionStore) (h : e.concerns key = false) :
    (e.apply s).sessions.get? key =
      if e.sweeps s then (s.sessions.get? key).filter (isLive s.window e.time)
      else s.sessions.get? key := by
  obtain ⟨time, operation⟩ := e
  rw [Event.concerns, decide_eq_false_iff_not] at h
  cases operation with
  | get other =>
    have hother : key ≠ other := fun heq => h (heq ▸ rfl)
    exact (get?_get_snd s time other key).trans (if_neg hother)
  | put other context =>
    have hother : key ≠ other := fun heq => h (heq ▸ rfl)
    refine ((get?_put s time other key context).trans (if_neg hother)).trans ?_
    simp [Event.sweeps, Event.reclaims, Operation.isPut]
  | erase other =>
    have hother : key ≠ other := fun heq => h (heq ▸ rfl)
    exact (Table.get?_erase s.sessions other key).trans (if_neg hother)
  | sweep => exact get?_sweep s time key

/-- A session that is held after an event was held before it or is used by it. -/
theorem get?_apply_cases (h : (e.apply s).sessions.get? key = some session) :
    (s.sessions.get? key = some session ∧ (e.sweeps s = true → session.isLive s.window e.time)) ∨
      (e.operation.usedKey? = some key ∧ session.lastAccess = e.time) := by
  cases hc : e.concerns key with
  | false =>
    rw [get?_apply_of_not_concerns s hc] at h
    split at h
    · obtain ⟨hheld, hlive⟩ := Option.filter_eq_some_iff.mp h
      exact .inl ⟨hheld, fun _ => hlive⟩
    · next hno => exact .inl ⟨h, fun hyes => absurd hyes hno⟩
  | true =>
    obtain ⟨time, operation⟩ := e
    rw [Event.concerns, decide_eq_true_eq] at hc
    cases operation with
    | get other =>
      obtain rfl : other = key := Option.some.inj hc
      have hread := (get?_get_snd s time other other).symm.trans h
      rw [if_pos rfl] at hread
      obtain ⟨old, -, rfl⟩ := Option.map_eq_some_iff.mp hread
      exact .inr ⟨rfl, rfl⟩
    | put other context =>
      obtain rfl : other = key := Option.some.inj hc
      have hstored := (get?_put s time other other context).symm.trans h
      rw [if_pos rfl] at hstored
      obtain rfl := Option.some.inj hstored
      exact .inr ⟨rfl, rfl⟩
    | erase other =>
      obtain rfl : other = key := Option.some.inj hc
      have hdropped := (Table.get?_erase s.sessions other other).symm.trans h
      rw [if_pos rfl] at hdropped
      cases hdropped
    | sweep => cases hc

/-- The time of the last sweep is noted by the events that store a session after one. -/
theorem lastSweep_apply (s : SessionStore) (e : Event) :
    (e.apply s).lastSweep = if e.reclaims s then e.time else s.lastSweep := by
  obtain ⟨time, operation⟩ := e
  cases operation with
  | get key =>
    change (s.get time key).2.lastSweep = s.lastSweep
    unfold SessionStore.get
    split
    · rfl
    · split <;> rfl
  | put key context =>
    change (s.put time key context).lastSweep =
      if true && s.sweepDue time then time else s.lastSweep
    unfold SessionStore.put
    simp only [Bool.true_and]
    split <;> rfl
  | erase key => rfl
  | sweep => rfl

/-- An event uses sessions when it takes place. -/
theorem HoldsSince.apply (h : s.HoldsSince bound) (hle : bound ≤ e.time) :
    (e.apply s).HoldsSince bound := by
  intro key session hheld
  rcases get?_apply_cases hheld with ⟨hbefore, -⟩ | ⟨-, hused⟩
  · exact h key session hbefore
  · omega

/-- A sweep leaves nothing that was used more than a window before. -/
theorem holdsSince_apply_of_sweeps (hw : 0 ≤ s.window) (h : e.sweeps s = true) :
    (e.apply s).HoldsSince (e.time - s.window) := by
  intro key session hheld
  rcases get?_apply_cases hheld with ⟨-, hlive⟩ | ⟨-, hused⟩
  · have := isLive_iff.mp (hlive h)
    omega
  · omega

/-- Each event keeps a store up to date. -/
theorem UpToDate.apply (hw : 0 ≤ s.window) {now : Int} (h : s.UpToDate now) (hle : now ≤ e.time) :
    (e.apply s).UpToDate e.time := by
  have hpast := h.past
  cases hr : e.reclaims s with
  | true =>
    have hsweeps : e.sweeps s = true := by rw [Event.sweeps, hr, Bool.true_or]
    have hnow : (e.apply s).lastSweep = e.time := by rw [lastSweep_apply, if_pos hr]
    refine ⟨?_, Int.le_of_eq hnow⟩
    rw [hnow, window_apply]
    exact holdsSince_apply_of_sweeps hw hsweeps
  | false =>
    have hsame : (e.apply s).lastSweep = s.lastSweep := by
      rw [lastSweep_apply, if_neg (by simp [hr])]
    refine ⟨?_, ?_⟩
    · rw [hsame, window_apply]
      exact h.held.apply (by omega)
    · rw [hsame]
      omega

/-- After a session was stored nothing is left that was used more than two windows before. -/
theorem UpToDate.holdsSince_of_isPut (hw : 0 ≤ s.window) {now : Int} (h : s.UpToDate now)
    (hle : now ≤ e.time) (hput : e.operation.isPut = true) :
    (e.apply s).HoldsSince (e.time - 2 * s.window) := by
  have hpast := h.past
  have hlater := h.apply hw hle
  cases hr : e.reclaims s with
  | true =>
    refine hlater.held.mono ?_
    rw [lastSweep_apply, if_pos hr, window_apply]
    omega
  | false =>
    -- no sweep was due, so the last one lies less than a window back
    have hrecent : e.time - s.lastSweep < s.window := by
      simpa [Event.reclaims, hput, sweepDue] using hr
    refine hlater.held.mono ?_
    rw [lastSweep_apply, if_neg (by simp [hr]), window_apply]
    omega

/-! ## Histories -/

/-- A history keeps a store up to date. -/
theorem upToDate_after {start now : Int} {history : List Event} (hw : 0 ≤ s.window)
    (hclock : (start :: (history.map Event.time ++ [now])).IsChain (· ≤ ·))
    (h : s.UpToDate start) : (s.after history).UpToDate now := by
  induction history generalizing s start with
  | nil =>
    have hle : start ≤ now := by simpa using hclock
    exact ⟨h.held, Int.le_trans h.past hle⟩
  | cons e history ih =>
    rw [List.map_cons, List.cons_append, List.isChain_cons_cons] at hclock
    exact ih (by rwa [window_apply]) hclock.2 (h.apply hw hclock.1)

/-- The last sweep is that of the last event that stored a session after one. -/
theorem lastSweep_after (s : SessionStore) (history : List Event) :
    (s.after history).lastSweep =
      (s.lastSweep :: (reclaiming s history).map Event.time).getLast (List.cons_ne_nil _ _) := by
  induction history generalizing s with
  | nil => rfl
  | cons e history ih =>
    change ((e.apply s).after history).lastSweep = _
    rw [ih]
    cases hr : e.reclaims s with
    | true => simp [reclaiming, hr, lastSweep_apply]
    | false => simp [reclaiming, hr, lastSweep_apply]

/-- Sweeps lie a window apart from each other and from the one before. -/
theorem pairwise_reclaiming (hw : 0 ≤ s.window) (history : List Event) :
    (s.lastSweep :: (reclaiming s history).map Event.time).Pairwise
      fun earlier later => s.window ≤ later - earlier := by
  induction history generalizing s with
  | nil => exact List.pairwise_singleton _ _
  | cons e history ih =>
    have hrest := ih (s := e.apply s) (by rwa [window_apply])
    rw [lastSweep_apply, window_apply] at hrest
    rw [reclaiming]
    cases hr : e.reclaims s with
    | true =>
      have hdue : s.window ≤ e.time - s.lastSweep := by
        simp only [Event.reclaims, sweepDue, Bool.and_eq_true, decide_eq_true_eq] at hr
        exact hr.2
      rw [hr, if_pos rfl] at hrest
      rw [if_pos rfl, List.map_cons]
      refine List.pairwise_cons.mpr ⟨?_, hrest⟩
      intro later hlater
      rcases List.mem_cons.mp hlater with rfl | hlater
      · exact hdue
      · have := List.rel_of_pairwise_cons hrest hlater
        omega
    | false =>
      rw [hr, if_neg Bool.false_ne_true] at hrest
      rwa [if_neg Bool.false_ne_true]

/-- Events that store a session after a sweep are events of the history that store a session. -/
theorem of_mem_reclaiming {history : List Event} (h : e ∈ reclaiming s history) :
    e ∈ history ∧ e.operation.isPut = true := by
  induction history generalizing s with
  | nil => cases h
  | cons x history ih =>
    rw [reclaiming] at h
    split at h
    · next hr =>
      rcases List.mem_cons.mp h with rfl | h
      · rw [Event.reclaims, Bool.and_eq_true] at hr
        exact ⟨List.mem_cons_self, hr.1⟩
      · exact ⟨List.mem_cons_of_mem _ (ih h).1, (ih h).2⟩
    · exact ⟨List.mem_cons_of_mem _ (ih h).1, (ih h).2⟩

/-- Each session that is held was last used by an event of the history. -/
theorem exists_used_of_get?_after {window start : Int} {history : List Event}
    (h : ((create window start).after history).sessions.get? key = some session) :
    ∃ e ∈ history, e.operation.usedKey? = some key ∧ session.lastAccess = e.time := by
  induction history using List.reverseRecOn generalizing session with
  | nil => cases h
  | append_singleton history e ih =>
    rw [after, List.foldl_append, ← after] at h
    rcases get?_apply_cases h with ⟨hbefore, -⟩ | hused
    · obtain ⟨x, hx, hused⟩ := ih hbefore
      exact ⟨x, List.mem_append_left _ hx, hused⟩
    · exact ⟨e, List.mem_append_right _ (List.mem_singleton_self e), hused⟩

/-- The keys that a history uses from some time on, each as often as it does. -/
def usedSince (bound : Int) (history : List Event) : List String :=
  (history.filter (bound ≤ ·.time)).filterMap (·.operation.usedKey?)

/-- A store that holds only what was used since some time is no larger than what was used. -/
theorem size_le_of_holdsSince {window start : Int} {history : List Event}
    (h : ((create window start).after history).HoldsSince bound) :
    ((create window start).after history).size ≤ (usedSince bound history).length := by
  have hsub : ((create window start).after history).sessions.entries.map Prod.fst ⊆
      usedSince bound history := by
    intro key hkey
    obtain ⟨session, hheld⟩ := Table.exists_get?_of_mem hkey
    obtain ⟨e, he, hused, htime⟩ := exists_used_of_get?_after hheld
    have hrecent := h key session hheld
    exact List.mem_filterMap.mpr
      ⟨e, List.mem_filter.mpr ⟨he, decide_eq_true (htime ▸ hrecent)⟩, hused⟩
  have hle := (List.subperm_of_subset (Table.distinct _) hsub).length_le
  rwa [List.length_map] at hle

/-- What a history leaves in a store, made at a time: how old it can be, and when it was swept. -/
structure Reclaims (window start : Int) (history : List Event) (s : SessionStore) : Prop where
  /-- Nothing was used more than a window before the last sweep. -/
  held : s.HoldsSince (s.lastSweep - window)
  /-- What is held was used when the store says so. -/
  used : ∀ key session, s.sessions.get? key = some session →
    ∃ e ∈ history, e.operation.usedKey? = some key ∧ session.lastAccess = e.time
  /-- The last sweep is that of the last event that stored a session after one, if there was any. -/
  lastSweep : s.lastSweep =
    (start :: (reclaiming (create window start) history).map Event.time).getLast
      (List.cons_ne_nil _ _)
  /-- Only storing a session begins a sweep. -/
  puts : ∀ e ∈ reclaiming (create window start) history, e ∈ history ∧ e.operation.isPut = true
  /-- The sweeps lie a window apart from each other and from the creation of the store. -/
  apart : (start :: (reclaiming (create window start) history).map Event.time).Pairwise
    fun earlier later => window ≤ later - earlier
  /-- When a session has just been stored, all that is held was used in the last two windows, and
  there is no more of it. -/
  recent : ∀ e, history.getLast? = some e → e.operation.isPut = true →
    s.HoldsSince (e.time - 2 * window) ∧
      s.size ≤ (usedSince (e.time - 2 * window) history).length
  /-- No further event drops a session that it is not about, unless it sweeps the store and the
  session was not used within a window. -/
  kept : ∀ (e : Event) key session, s.sessions.get? key = some session → e.concerns key = false →
    (e.sweeps s = true → e.time - session.lastAccess ≤ window) →
    (e.apply s).sessions.get? key = some session

/-- Sessions that were abandoned are reclaimed, and no others: every history leaves a store in which
nothing was used more than a window before the last sweep, although sweeps are at least a window
apart and drop nothing that was used within a window. -/
theorem reclaims_abandoned {window start : Int} {history : List Event} (hw : 0 ≤ window)
    (hclock : (start :: history.map Event.time).IsChain (· ≤ ·)) :
    Reclaims window start history ((create window start).after history) := by
  have hnew : (create window start).UpToDate start := ⟨fun _ _ h => (by cases h), Int.le_refl _⟩
  have hbefore : ∀ before e, history = before ++ [e] →
      ((create window start).after before).UpToDate e.time ∧
        (create window start).after history = e.apply ((create window start).after before) := by
    rintro before e rfl
    rw [List.map_append] at hclock
    exact ⟨upToDate_after hw hclock hnew, by rw [after, List.foldl_append]; rfl⟩
  have hwindow : ∀ before, ((create window start).after before).window = window :=
    window_after (create window start)
  refine ⟨?_, fun _ _ => exists_used_of_get?_after, lastSweep_after _ history,
    fun _ => of_mem_reclaiming, pairwise_reclaiming (s := create window start) hw history,
    fun e he hput => ?_,
    fun e key session hheld hother hrecent => ?_⟩
  · rcases List.eq_nil_or_concat history with rfl | ⟨before, e, hlast⟩
    · exact hnew.held
    · rw [List.concat_eq_append] at hlast
      obtain ⟨hstore, happly⟩ := hbefore before e hlast
      have hheld := (hstore.apply (by rwa [hwindow]) (Int.le_refl _)).held
      rwa [← happly, hwindow] at hheld
  · obtain ⟨before, hlast⟩ := List.getLast?_eq_some_iff.mp he
    obtain ⟨hstore, happly⟩ := hbefore before e hlast
    have hheld := hstore.holdsSince_of_isPut (by rwa [hwindow]) (Int.le_refl _) hput
    rw [← happly, hwindow] at hheld
    exact ⟨hheld, size_le_of_holdsSince hheld⟩
  · rw [get?_apply_of_not_concerns _ hother, hheld]
    split
    · next hsweeps =>
      rw [Option.filter_some, if_pos (isLive_iff.mpr (by rw [hwindow]; exact hrecent hsweeps))]
    · rfl

/-- A store with a window of 10: one session is read until time 5, another one is stored at time 12,
which sweeps the store but leaves the first. -/
def sampleAbandoned : List Event := [
  ⟨0, .put "mine" sampleContext⟩, ⟨5, .get "mine"⟩, ⟨12, .put "other" sampleContext⟩]

/-- The sweep was at time 12, and both sessions are still held then. -/
theorem reclaims_sampleAbandoned :
    (0 : Int) ≤ 10 ∧ (0 :: sampleAbandoned.map Event.time).IsChain (· ≤ ·) ∧
      ((create 10 0).after sampleAbandoned).lastSweep = 12 ∧
      ((create 10 0).after sampleAbandoned).size = 2 ∧
      ((create 10 0).after sampleAbandoned).HoldsSince 2 := by
  have hwindow : (0 : Int) ≤ 10 := by decide
  have hclock : (0 :: sampleAbandoned.map Event.time).IsChain (· ≤ ·) := by decide
  have hreclaims := reclaims_abandoned hwindow hclock
  exact ⟨hwindow, hclock, hreclaims.lastSweep.trans (by decide), by decide, hreclaims.held⟩

/-- The next sweep is due a window later and drops the first session, not the second. -/
example : ((⟨22, .put "third" sampleContext⟩ : Event).apply
    ((create 10 0).after sampleAbandoned)).sessions.entries.map Prod.fst = ["third", "other"] := by
  decide

end SignOn.SessionStore
