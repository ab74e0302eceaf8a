import Mathlib.Data.List.Chain
import SignOn.Session.Store

/-!
# Histories of server sessions

What a store gives out under a key is decided by the turns that the session of this key took: where
it began, when it was read since then and whether it was dropped. Sweeps, and whatever happens to
other keys, are not seen. `Tracks` ties the store to the session that its history leaves, one law
for each operation; `follow_eq_some_iff` says of a whole history which context is left.
-/

namespace SignOn

/-- What an event does to the session of one key. -/
inductive Turn where
  /-- The session begins anew with a context. -/
  | begins (context : SecurityContext)
  /-- The session is read. -/
  | reads
  /-- The session is dropped. -/
  | ends
  /-- The session is left alone. -/
  | rests
  deriving DecidableEq

namespace Session

/-- Whether a session may still be given out under a window. -/
def isLive (window now : Int) (s : Session) : Bool := now - s.lastAccess ≤ window

/-- The session after a turn: reading makes its life start anew if it has not passed. -/
def advance (window now : Int) (held : Option Session) : Turn → Option Session
  | .begins context => some ⟨context, now⟩
  | .reads => (held.filter (isLive window now)).map fun s => { s with lastAccess := now }
  | .ends => none
  | .rests => held

/-- The session after a history, whose events have a time and a turn each. -/
def follow {ε : Type} (window : Int) (time : ε → Int) (turn : ε → Turn) (held : Option Session)
    (history : List ε) : Option Session :=
  history.foldl (fun held e => advance window (time e) held (turn e)) held

/-- Whether no two neighbouring times are more than a window apart. -/
def Unbroken (window : Int) (times : List Int) : Prop :=
  times.IsChain fun earlier later => later - earlier ≤ window

/-- The context that a session gives out at a time. -/
def given (window now : Int) (held : Option Session) : Option SecurityContext :=
  (held.filter (isLive window now)).map (·.context)

/-- A session that has passed stays so. -/
theorem isLive_of_le {window now later : Int} {s : Session} (hle : now ≤ later)
    (h : s.isLive window later = true) : s.isLive window now = true := by
  simp only [isLive, decide_eq_true_eq] at h ⊢
  omega

/-- What is live later is what is live now and then. -/
theorem filter_isLive_filter {window now later : Int} (hle : now ≤ later) (held : Option Session) :
    (held.filter (isLive window now)).filter (isLive window later) =
      held.filter (isLive window later) := by
  rw [Option.filter_filter]
  congr 1
  funext s
  by_cases h : s.isLive window later = true
  · rw [h, isLive_of_le hle h]
    rfl
  · simp [h]

section Follow

variable {ε : Type} {window : Int} {time : ε → Int} {turn : ε → Turn}

/-- The last event of a history takes its turn last. -/
theorem follow_concat (held : Option Session) (history : List ε) (e : ε) :
    follow window time turn held (history ++ [e]) =
      advance window (time e) (follow window time turn held history) (turn e) := by
  simp [follow]

/-- What was held before a session begins does not count. -/
theorem follow_cons_of_begins {e : ε} {context : SecurityContext} (h : turn e = .begins context)
    (held : Option Session) (history : List ε) :
    follow window time turn held (e :: history) = follow window time turn none (e :: history) := by
  simp only [follow, List.foldl_cons, h, advance]

/-- A session that never begins is not there. -/
theorem follow_eq_none {history : List ε}
    (h : ∀ e ∈ history, ∀ context, turn e ≠ .begins context) :
    follow window time turn none history = none := by
  induction history with
  | nil => rfl
  | cons e history ih =>
    have hrest := ih fun x hx => h x (List.mem_cons_of_mem e hx)
    have he := h e List.mem_cons_self
    rw [follow, List.foldl_cons]
    cases ht : turn e with
    | begins context => exact absurd ht (he context)
    | reads => exact hrest
    | ends => exact hrest
    | rests => exact hrest

/-- A history that is looked at in another way, event by event, leaves the same session. -/
theorem follow_eq_of_map_eq {δ σ : Type} {time' : δ → Int} {turn' : δ → Turn} {f : ε → σ}
    {g : δ → σ} (hseen : ∀ e e', f e = g e' → time e = time' e' ∧ turn e = turn' e')
    (held : Option Session) {history : List ε} {history' : List δ}
    (h : history.map f = history'.map g) :
    follow window time turn held history = follow window time' turn' held history' := by
  induction history generalizing history' held with
  | nil =>
    obtain rfl := List.map_eq_nil_iff.mp h.symm
    rfl
  | cons e history ih =>
    cases history' with
    | nil => cases h
    | cons e' history' =>
      rw [List.map_cons, List.map_cons, List.cons.injEq] at h
      obtain ⟨htime, hturn⟩ := hseen e e' h.1
      rw [follow, follow, List.foldl_cons, List.foldl_cons, htime, hturn]
      exact ih _ h.2

/-- Events that begin no session and act on one only before it has begun may be left out. -/
theorem follow_filter {mine : ε → Bool} {history : List ε}
    (h : ∀ before e since, history = before ++ e :: since → mine e = false →
      (∀ context, turn e ≠ .begins context) ∧
        (turn e = .rests ∨ ∀ x ∈ before, ∀ context, turn x ≠ .begins context)) :
    follow window time turn none (history.filter mine) = follow window time turn none history := by
  induction history using List.reverseRecOn with
  | nil => rfl
  | append_singleton history e ih =>
    have hrest := ih fun before x since heq => h before x (since ++ [e]) (by rw [heq]; simp)
    rw [List.filter_append, follow_concat]
    cases hm : mine e with
    | true =>
      rw [List.filter_cons_of_pos hm, List.filter_nil, follow_concat, hrest]
    | false =>
      rw [List.filter_cons_of_neg (by simp [hm]), List.filter_nil, List.append_nil, hrest]
      obtain ⟨hbegins, hrests | hnone⟩ := h history e [] rfl hm
      · rw [hrests, advance]
      · -- whatever the event does, it finds nothing
        rw [follow_eq_none hnone]
        cases ht : turn e with
        | begins context => exact absurd ht (hbegins context)
        | reads => rfl
        | ends => rfl
        | rests => rfl

/-- A history that was begun by `begun` and left the session alive: nothing ended it or began it
anew, and it was never left unread for longer than the window. -/
structure Lasts (window : Int) (time : ε → Int) (turn : ε → Turn) (now : Int) (begun : ε)
    (since : List ε) : Prop where
  kept : ∀ e ∈ since, turn e = .reads ∨ turn e = .rests
  unbroken : Unbroken window ((begun :: since.filter (turn · = .reads)).map time ++ [now])

/-- A session that has just begun lasts for a window. -/
theorem lasts_nil_iff {now : Int} {begun : ε} :
    Lasts window time turn now begun [] ↔ now - time begun ≤ window := by
  constructor
  · intro h
    simpa [Unbroken] using h.unbroken
  · intro h
    exact ⟨by simp, by simpa [Unbroken] using h⟩

/-- An event that leaves the session alone makes no difference. -/
theorem lasts_concat_rests_iff {now : Int} {begun e : ε} {since : List ε} (he : turn e = .rests) :
    Lasts window time turn now begun (since ++ [e]) ↔ Lasts window time turn now begun since := by
  have hf : (since ++ [e]).filter (turn · = .reads) = since.filter (turn · = .reads) := by
    simp [List.filter_append, he]
  constructor
  · rintro ⟨hk, hu⟩
    rw [hf] at hu
    exact ⟨fun x hx => hk x (List.mem_append_left _ hx), hu⟩
  · rintro ⟨hk, hu⟩
    refine ⟨?_, by rw [hf]; exact hu⟩
    intro x hx
    rcases List.mem_append.mp hx with hx | hx
    · exact hk x hx
    · rw [List.mem_singleton.mp hx]
      exact .inr he

/-- A session that is read must be alive then, and lasts for a window from there. -/
theorem lasts_concat_reads_iff {now : Int} {begun e : ε} {since : List ε} (he : turn e = .reads) :
    Lasts window time turn now begun (since ++ [e]) ↔
      Lasts window time turn (time e) begun since ∧ now - time e ≤ window := by
  have hf : (begun :: (since ++ [e]).filter (turn · = .reads)).map time ++ [now] =
      (begun :: since.filter (turn · = .reads)).map time ++ time e :: now :: [] := by
    simp [List.filter_append, he]
  have hu : Unbroken window ((begun :: (since ++ [e]).filter (turn · = .reads)).map time ++ [now]) ↔
      Unbroken window ((begun :: since.filter (turn · = .reads)).map time ++ [time e]) ∧
        now - time e ≤ window := by
    rw [hf, Unbroken, Unbroken, List.isChain_append_cons_cons]
    simp
  constructor
  · rintro ⟨hk, h⟩
    obtain ⟨hl, hg⟩ := hu.mp h
    exact ⟨⟨fun x hx => hk x (List.mem_append_left _ hx), hl⟩, hg⟩
  · rintro ⟨⟨hk, hl⟩, hg⟩
    refine ⟨?_, hu.mpr ⟨hl, hg⟩⟩
    intro x hx
    rcases List.mem_append.mp hx with hx | hx
    · exact hk x hx
    · rw [List.mem_singleton.mp hx]
      exact .inl he

/-- An event that ends or begins a session does not let another one last. -/
theorem not_lasts_concat {now : Int} {begun e : ε} {since : List ε} (hr : turn e ≠ .reads)
    (hn : turn e ≠ .rests) : ¬ Lasts window time turn now begun (since ++ [e]) := by
  intro h
  rcases h.kept e (by simp) with he | he
  · exact hr he
  · exact hn he

/-- Where in a history with a last event the session began: at that event or before it. -/
theorem exists_begun_concat_iff {history : List ε} {e : ε} {P : ε → List ε → Prop} :
    (∃ before begun since, history ++ [e] = before ++ begun :: since ∧ P begun since) ↔
      P e [] ∨ ∃ before begun since, history = before ++ begun :: since ∧
        P begun (since ++ [e]) := by
  constructor
  · rintro ⟨before, begun, since, heq, h⟩
    rcases List.eq_nil_or_concat since with rfl | ⟨since, last, rfl⟩
    · obtain ⟨-, he⟩ := List.append_inj' heq rfl
      obtain rfl := List.singleton_inj.mp he
      exact .inl h
    · rw [List.concat_eq_append] at heq h
      rw [← List.cons_append, ← List.append_assoc] at heq
      obtain ⟨rfl, he⟩ := List.append_inj' heq rfl
      obtain rfl := List.singleton_inj.mp he
      exact .inr ⟨before, begun, since, rfl, h⟩
  · rintro (h | ⟨before, begun, since, rfl, h⟩)
    · exact ⟨history, e, [], rfl, h⟩
    · exact ⟨before, begun, since ++ [e], by simp, h⟩

/-- A history leaves a context alive exactly when a session of this context began in it and lasts.
-/
theorem given_follow_eq_some_iff (history : List ε) (now : Int) (context : SecurityContext) :
    given window now (follow window time turn none history) = some context ↔
      ∃ before begun since, history = before ++ begun :: since ∧
        turn begun = .begins context ∧ Lasts window time turn now begun since := by
  induction history using List.reverseRecOn generalizing now with
  | nil => simp [follow, given]
  | append_singleton history e ih =>
    rw [follow_concat, exists_begun_concat_iff (P := fun begun since =>
      turn begun = .begins context ∧ Lasts window time turn now begun since), lasts_nil_iff]
    -- what the last event does decides which side of the disjunction remains
    cases he : turn e with
    | begins other =>
      have hno : ∀ begun since, ¬ Lasts window time turn now begun (since ++ [e]) :=
        fun _ _ => not_lasts_concat (by simp [he]) (by simp [he])
      have hgiven : given window now (some ⟨other, time e⟩) =
          if now - time e ≤ window then some other else none := by
        simp only [given, isLive, Option.filter_some, decide_eq_true_eq]
        split
        · rfl
        · rfl
      rw [advance, hgiven]
      by_cases hl : now - time e ≤ window
      · simp [hl, hno]
      · simp [hl, hno]
    | reads =>
      simp only [lasts_concat_reads_iff he, advance, reduceCtorEq, false_and, false_or]
      have hstep : ∀ held : Option Session,
          given window now ((held.filter (isLive window (time e))).map
              fun s => { s with lastAccess := time e }) = some context ↔
            given window (time e) held = some context ∧ now - time e ≤ window := by
        intro held
        cases held with
        | none => simp [given]
        | some s => simp [given, isLive, Option.filter]; grind
      rw [hstep, ih]
      constructor
      · rintro ⟨⟨before, begun, since, h, hb, hs⟩, hg⟩
        exact ⟨before, begun, since, h, hb, hs, hg⟩
      · rintro ⟨before, begun, since, h, hb, hs, hg⟩
        exact ⟨⟨before, begun, since, h, hb, hs⟩, hg⟩
    | ends =>
      have hno : ∀ begun since, ¬ Lasts window time turn now begun (since ++ [e]) :=
        fun _ _ => not_lasts_concat (by simp [he]) (by simp [he])
      simp [advance, given, hno]
    | rests =>
      simp only [lasts_concat_rests_iff he, advance, reduceCtorEq, false_and, false_or]
      exact ih now

end Follow

end Session

namespace SessionStore

open Session (isLive advance given)

/-- Whether a session has expired is whether it is not live. -/
theorem isExpired_eq (s : SessionStore) (now : Int) (session : Session) :
    s.isExpired now session = !session.isLive s.window now := by
  rw [isExpired, isLive, ← decide_not]
  exact decide_eq_decide.mpr Int.not_le.symm

/-- The store holds under a key what `held` says, except for sessions that have passed at `now`. -/
def Tracks (s : SessionStore) (key : String) (held : Option Session) (now : Int) : Prop :=
  ∀ later, now ≤ later →
    (s.sessions.get? key).filter (isLive s.window later) = held.filter (isLive s.window later)

variable {s : SessionStore} {key : String} {held : Option Session} {now later : Int}

/-- A store without sessions holds nothing under any key. -/
theorem tracks_create (window now : Int) (key : String) :
    (create window now).Tracks key none now := fun _ _ => rfl

/-- A store tracks what it holds. -/
theorem tracks_self (s : SessionStore) (key : String) (now : Int) :
    s.Tracks key (s.sessions.get? key) now := fun _ _ => rfl

/-- What a store holds stays true as time passes. -/
theorem Tracks.mono (h : s.Tracks key held now) (hle : now ≤ later) : s.Tracks key held later :=
  fun t ht => h t (by omega)

/-- A sweep leaves what is live. -/
theorem get?_sweep (s : SessionStore) (now : Int) (key : String) :
    (s.sweep now).sessions.get? key = (s.sessions.get? key).filter (isLive s.window now) := by
  have hf : (fun session => !s.isExpired now session) = isLive s.window now := by
    funext session
    rw [isExpired_eq, Bool.not_not]
  rw [SessionStore.sweep, Table.get?_filter, hf]

/-- Storing does not change the window. -/
@[simp] theorem window_put (s : SessionStore) (now : Int) (key : String)
    (context : SecurityContext) : (s.put now key context).window = s.window := by
  unfold SessionStore.put
  simp only
  split <;> rfl

/-- Storing a session is seen under its own key, and under the others if the store is swept. -/
theorem get?_put (s : SessionStore) (now : Int) (key other : String) (context : SecurityContext) :
    (s.put now key context).sessions.get? other =
      if other = key then some ⟨context, now⟩
      else if s.sweepDue now then (s.sessions.get? other).filter (isLive s.window now)
      else s.sessions.get? other := by
  unfold SessionStore.put
  simp only [Table.get?_put]
  split
  · rfl
  · split
    · exact get?_sweep s now other
    · rfl

/-- A sweep drops what has passed only. -/
theorem Tracks.sweep (h : s.Tracks key held now) : (s.sweep now).Tracks key held now := by
  intro t ht
  rw [get?_sweep]
  exact (Session.filter_isLive_filter ht _).trans (h t ht)

/-- Storing a session begins it under its own key, whether the store is swept first or not. -/
theorem Tracks.put (h : s.Tracks key held now) (other : String) (context : SecurityContext) :
    (s.put now other context).Tracks key
      (advance s.window now held (if key = other then .begins context else .rests)) now := by
  intro t ht
  rw [window_put, get?_put]
  by_cases hk : key = other
  · rw [if_pos hk, if_pos hk]
    rfl
  · rw [if_neg hk, if_neg hk]
    split
    · exact (Session.filter_isLive_filter ht _).trans (h t ht)
    · exact h t ht

/-- Dropping a session is seen under its own key only. -/
theorem Tracks.erase (h : s.Tracks key held now) (other : String) :
    (s.erase other).Tracks key
      (advance s.window now held (if key = other then .ends else .rests)) now := by
  intro t ht
  rw [SessionStore.erase, Table.get?_erase]
  by_cases hk : key = other
  · simp [hk, advance]
  · simpa [hk, advance] using h t ht

/-- What reading a key gives. -/
theorem Tracks.get_fst (h : s.Tracks key held now) :
    (s.get now key).1 = given s.window now held := by
  rw [given, ← h now (Int.le_refl now), SessionStore.get]
  cases hk : s.sessions.get? key with
  | none => rfl
  | some session =>
    simp only [isExpired_eq]
    by_cases hl : session.isLive s.window now = true
    · simp [hl, Option.filter_some]
    · simp [hl, Option.filter_some]

/-- Reading does not change the window. -/
@[simp] theorem window_get (s : SessionStore) (now : Int) (key : String) :
    (s.get now key).2.window = s.window := by
  unfold SessionStore.get
  split
  · rfl
  · split <;> rfl

/-- The sessions after reading a key: that of the key is dropped if it has passed and lives anew if
not. -/
theorem get?_get_snd (s : SessionStore) (now : Int) (key other : String) :
    (s.get now key).2.sessions.get? other =
      if other = key then
        ((s.sessions.get? key).filter (isLive s.window now)).map ({ · with lastAccess := now })
      else s.sessions.get? other := by
  unfold SessionStore.get
  cases hk : s.sessions.get? key with
  | none =>
    by_cases ho : other = key
    · simp [ho, hk]
    · simp [ho]
  | some session =>
    simp only [isExpired_eq]
    by_cases hl : session.isLive s.window now = true
    · simp [hl, Table.get?_put, Option.filter_some]
    · simp [hl, Table.get?_erase, Option.filter_some]

/-- Reading a key is a turn of its own session only. -/
theorem Tracks.get_snd (h : s.Tracks key held now) (other : String) :
    (s.get now other).2.Tracks key
      (advance s.window now held (if key = other then .reads else .rests)) now := by
  intro t ht
  rw [window_get, get?_get_snd]
  by_cases hk : key = other
  · subst hk
    rw [if_pos rfl, if_pos rfl, h now (Int.le_refl now)]
    rfl
  · rw [if_neg hk, if_neg hk]
    exact h t ht

end SessionStore

end SignOn
