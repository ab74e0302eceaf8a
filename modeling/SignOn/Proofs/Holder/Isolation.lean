import SignOn.Holder.Program

/-!
# Isolation of holders

Scopes, tasks and pairs of scopes keep to themselves. A run that is `Isolated` gives back whatever
holder it finds in the thread, each time it stops, and its result does not depend on what it finds.
`Weaves` lets two runs take turns in any way at all, and `Runs` lets every pair of scopes in a
program do so, at any depth. The main statement is that nested scopes, new tasks and pairs of scopes
are isolated under every such interleaving, and that outside every scope nothing has an effect.
-/

namespace SignOn

namespace Run

variable {α β : Type} {a : α} {b : β} {h : Holder}

/-- The result of a run to which every time the holder is given back that it left, and the holder at
its end. -/
def settle : Run α → α × Holder
  | done holder result => (result, holder)
  | paused holder resume => (resume holder).settle

/-- Whether a run leaves a holder, and whenever it is given this holder back leaves it again. -/
inductive Keeps (h : Holder) : Run α → Prop where
  | done (result : α) : Keeps h (.done h result)
  | paused {resume : Holder → Run α} (hresume : Keeps h (resume h)) : Keeps h (.paused h resume)

/-- Whether a run leaves the holder that it finds, whichever that is, each time it stops, and has a
result that does not depend on it. -/
inductive Isolated (a : α) : Holder → Run α → Prop where
  | done (h : Holder) : Isolated a h (.done h a)
  | paused (h : Holder) {resume : Holder → Run α} (hresume : ∀ k, Isolated a k (resume k)) :
    Isolated a h (.paused h resume)

/-- The ways in which two runs can take turns, begun with a holder in the thread: whenever neither
has to go on both may wait, and either may go on alone from the holder that stands there. -/
inductive Weaves : Holder → Run α → Run β → Run (α × β) → Prop where
  | ended (h k l : Holder) (a : α) (b : β) : Weaves h (.done k a) (.done l b) (.done h (a, b))
  | waits {h : Holder} {left : Run α} {right : Run β} {next : Holder → Run (α × β)}
    (hnext : ∀ k, Weaves k left right (next k)) : Weaves h left right (.paused h next)
  | left {h k : Holder} {resume : Holder → Run α} {right : Run β} {w : Run (α × β)}
    (hw : Weaves (resume h).holder (resume h) right w) : Weaves h (.paused k resume) right w
  | right {h k : Holder} {left : Run α} {resume : Holder → Run β} {w : Run (α × β)}
    (hw : Weaves (resume h).holder left (resume h) w) : Weaves h left (.paused k resume) w

theorem settle_map (f : α → β) (r : Run α) : (r.map f).settle = (f r.settle.1, r.settle.2) := by
  induction r with
  | done holder result => rfl
  | paused holder resume ih => exact ih holder

theorem settle_bind (next : Holder → α → Run β) (r : Run α) :
    (r.bind next).settle = (next r.settle.2 r.settle.1).settle := by
  induction r with
  | done holder result => rfl
  | paused holder resume ih => exact ih holder

/-- A task of its own that stays outside every scope is given back what it left. -/
theorem Keeps.finish_eq {r : Run α} (hr : r.Keeps .outside) : r.finish = r.settle.1 := by
  induction hr with
  | done result => rfl
  | paused _ ih => exact ih

theorem Keeps.map {r : Run α} (hr : r.Keeps h) (f : α → β) : (r.map f).Keeps h := by
  induction hr with
  | done result => exact .done (f result)
  | paused _ ih => exact .paused ih

theorem Keeps.bind {r : Run α} (hr : r.Keeps h) {next : Holder → α → Run β}
    (hnext : ∀ a, (next h a).Keeps h) : (r.bind next).Keeps h := by
  induction hr with
  | done result => exact hnext result
  | paused _ ih => exact .paused ih

namespace Isolated

variable {r : Run α}

theorem holder_eq (hr : r.Isolated a h) : r.holder = h := by
  cases hr with
  | done => rfl
  | paused => rfl

theorem keeps (hr : r.Isolated a h) : r.Keeps h := by
  induction hr with
  | done h => exact .done a
  | paused h _ ih => exact .paused (ih h)

theorem settle_eq (hr : r.Isolated a h) : r.settle = (a, h) := by
  induction hr with
  | done h => rfl
  | paused h _ ih => exact ih h

theorem map (hr : r.Isolated a h) (f : α → β) : (r.map f).Isolated (f a) h := by
  induction hr with
  | done h => exact .done h
  | paused h _ ih => exact .paused h ih

end Isolated

/-- A run in a scope of its own is isolated: what it leaves in the thread is kept for it. -/
theorem isolated_enclosed (r : Run α) (h : Holder) : (r.enclosed h).Isolated r.settle.1 h := by
  induction r generalizing h with
  | done holder result => exact .done h
  | paused holder resume ih => exact .paused h fun k => ih holder k

/-- However isolated runs take turns, the pair of them is isolated. -/
theorem Weaves.isolated {left : Run α} {right : Run β} {w : Run (α × β)}
    (hw : Weaves h left right w) (hleft : ∃ k, left.Isolated a k)
    (hright : ∃ k, right.Isolated b k) : w.Isolated (a, b) h := by
  induction hw with
  | ended h k l a b =>
    obtain ⟨_, ⟨⟩⟩ := hleft
    obtain ⟨_, ⟨⟩⟩ := hright
    exact .done h
  | waits _ ih => exact .paused _ fun k => ih k hleft hright
  | @left h k resume right w _ ih =>
    obtain ⟨_, hleft⟩ := hleft
    cases hleft with
    | paused _ hresume =>
      -- the left run gives back what it found, so the pair goes on from the same holder
      have hw := ih ⟨h, hresume h⟩ hright
      rwa [(hresume h).holder_eq] at hw
  | @right h k left resume w _ ih =>
    obtain ⟨_, hright⟩ := hright
    cases hright with
    | paused _ hresume =>
      have hw := ih hleft ⟨h, hresume h⟩
      rwa [(hresume h).holder_eq] at hw

/-- A run beside one that has ended goes on by itself. -/
theorem weaves_map_left (r : Run α) (l : Holder) (b : β) :
    Weaves r.holder r (.done l b) (r.map (·, b)) := by
  induction r with
  | done holder result => exact .ended _ _ _ _ _
  | paused holder resume ih => exact .waits fun k => .left (ih k)

theorem weaves_map_right (k : Holder) (a : α) (r : Run β) :
    Weaves r.holder (.done k a) r (r.map (a, ·)) := by
  induction r with
  | done holder result => exact .ended _ _ _ _ _
  | paused holder resume ih => exact .waits fun k => .right (ih k)

/-- Going on in rounds is one way to take turns. -/
theorem weaves_join (turns : List Bool) (h : Holder) (left : Run α) (right : Run β) :
    Weaves h left right (join turns h left right) := by
  induction left generalizing turns h right with
  | done k a =>
    cases right with
    | done l b => exact .ended h k l a b
    | paused l resume => exact .waits fun g => .right (weaves_map_right k a (resume g))
  | paused k resumeLeft ih =>
    cases right with
    | done l b => exact .waits fun g => .left (weaves_map_left (resumeLeft g) l b)
    | paused l resumeRight =>
      refine .waits fun g => ?_
      simp only
      split
      · exact .left (.right (ih g _ _ _))
      · exact .right (.left (ih _ _ _ _))

end Run

namespace HolderStep

mutual

/-- Whether a run is one of a step: as the step runs by itself, but for the scopes that take turns
in it, which may do so in any way. -/
def Runs : HolderStep → Holder → Run HolderAnswer → Prop
  | .scope context steps, h, r =>
    ∃ inner, RunsAll steps (.inside context) inner ∧ r = (inner.enclosed h).map .answers
  | .spawn steps, h, r =>
    ∃ task, RunsAll steps .outside task ∧
      r = .paused h fun h => .done h (.answers task.finish)
  | .join _ leftContext left rightContext right, h, r =>
    ∃ leftRun rightRun both, RunsAll left (.inside leftContext) leftRun ∧
      RunsAll right (.inside rightContext) rightRun ∧
      Run.Weaves h (leftRun.enclosed h) (rightRun.enclosed h) both ∧
      r = both.map fun (l, r) => .pair l r
  | .get, h, r => r = HolderStep.get.run h
  | .set context, h, r => r = (HolderStep.set context).run h
  | .release, h, r => r = HolderStep.release.run h
  | .isInside, h, r => r = HolderStep.isInside.run h
  | .pause, h, r => r = HolderStep.pause.run h

/-- Whether a run is one of steps, one after the other. -/
def RunsAll : List HolderStep → Holder → Run (List HolderAnswer) → Prop
  | [], h, r => r = .done h []
  | step :: steps, h, r =>
    ∃ (first : Run HolderAnswer) (rest : Holder → Run (List HolderAnswer)), Runs step h first ∧
      (∀ k, RunsAll steps k (rest k)) ∧ r = first.bind fun k answer => (rest k).map (answer :: ·)

end

mutual

/-- What runs is one of the runs. -/
theorem runs_run : ∀ (step : HolderStep) (h : Holder), step.Runs h (step.run h)
  | .scope _ steps, _ => ⟨_, runsAll_runAll steps _, rfl⟩
  | .spawn steps, _ => ⟨_, runsAll_runAll steps _, rfl⟩
  | .join _ _ left _ right, _ =>
    ⟨_, _, _, runsAll_runAll left _, runsAll_runAll right _, Run.weaves_join _ _ _ _, rfl⟩
  | .get, _ => rfl
  | .set _, _ => rfl
  | .release, _ => rfl
  | .isInside, _ => rfl
  | .pause, _ => rfl

theorem runsAll_runAll : ∀ (steps : List HolderStep) (h : Holder), RunsAll steps h (runAll steps h)
  | [], h => by rw [RunsAll, runAll]
  | step :: steps, h => ⟨_, _, runs_run step h, fun k => runsAll_runAll steps k, rfl⟩

end

/-- The answers of steps that run in a scope when nothing else does. -/
def alone (context : Option SecurityContext) (steps : List HolderStep) : List HolderAnswer :=
  ((runAll steps (.inside context)).enclosed .outside).finish

theorem alone_eq (context : Option SecurityContext) (steps : List HolderStep) :
    alone context steps = (runAll steps (.inside context)).settle.1 := by
  have hrun := Run.isolated_enclosed (runAll steps (.inside context)) .outside
  rw [alone, hrun.keeps.finish_eq, hrun.settle_eq]

/-- What a step answers outside every scope. -/
def outsideAnswer : HolderStep → HolderAnswer
  | .get | .release => .context none
  | .set _ | .isInside => .truth false
  | .pause => .nothing
  | .scope context steps => .answers (alone context steps)
  | .spawn steps => .answers (answers steps)
  | .join _ leftContext left rightContext right =>
    .pair (alone leftContext left) (alone rightContext right)

/-- Whether a step runs other steps, in scopes or a task of their own. -/
def nests : HolderStep → Bool
  | .scope _ _ | .spawn _ | .join _ _ _ _ _ => true
  | _ => false

mutual

/-- A run from outside every scope stays there, and so do those that take turns in it. -/
theorem keeps_of_runs : ∀ (step : HolderStep) (r : Run HolderAnswer),
    step.Runs .outside r → r.Keeps .outside
  | .scope context steps, _, ⟨inner, _, hr⟩ => by
    rw [hr]
    exact ((Run.isolated_enclosed inner .outside).map HolderAnswer.answers).keeps
  | .spawn _, _, ⟨_, _, hr⟩ => by
    rw [hr]
    exact .paused (.done _)
  | .join _ _ _ _ _, _, ⟨left, right, both, _, _, hweaves, hr⟩ => by
    rw [hr]
    exact ((hweaves.isolated ⟨_, Run.isolated_enclosed left _⟩
      ⟨_, Run.isolated_enclosed right _⟩).map _).keeps
  | .get, _, hr => hr ▸ .done _
  | .set _, _, hr => hr ▸ .done _
  | .release, _, hr => hr ▸ .done _
  | .isInside, _, hr => hr ▸ .done _
  | .pause, _, hr => hr ▸ .paused (.done _)

theorem keeps_of_runsAll : ∀ (steps : List HolderStep) (r : Run (List HolderAnswer)),
    RunsAll steps .outside r → r.Keeps .outside
  | [], _, hr => by
    rw [RunsAll] at hr
    rw [hr]
    exact .done []
  | step :: steps, _, ⟨first, rest, hfirst, hrest, hr⟩ => by
    rw [hr]
    exact (keeps_of_runs step first hfirst).bind fun a =>
      (keeps_of_runsAll steps _ (hrest .outside)).map _

end

mutual

/-- However the scopes of a step take turns, it ends as it does when they go on in rounds. -/
theorem settle_of_runs : ∀ (step : HolderStep) (h : Holder) (r : Run HolderAnswer),
    step.Runs h r → r.settle = (step.run h).settle
  | .scope context steps, h, _, ⟨inner, hinner, hr⟩ => by
    have hsame := settle_of_runsAll steps _ inner hinner
    rw [hr, run, Run.settle_map, Run.settle_map, (Run.isolated_enclosed _ h).settle_eq,
      (Run.isolated_enclosed _ h).settle_eq, hsame]
  | .spawn steps, h, _, ⟨task, htask, hr⟩ => by
    have hsame := settle_of_runsAll steps _ task htask
    have hfinish := (keeps_of_runsAll steps task htask).finish_eq
    have hanswers := (keeps_of_runsAll steps _ (runsAll_runAll steps .outside)).finish_eq
    rw [hr, run, hfinish, hanswers, hsame]
  | .join turns leftContext left rightContext right, h, _,
      ⟨leftRun, rightRun, both, hleft, hright, hweaves, hr⟩ => by
    have hsameLeft := settle_of_runsAll left _ leftRun hleft
    have hsameRight := settle_of_runsAll right _ rightRun hright
    have hboth := hweaves.isolated ⟨_, Run.isolated_enclosed leftRun h⟩
      ⟨_, Run.isolated_enclosed rightRun h⟩
    have hrounds := (Run.weaves_join turns h _ _).isolated
      ⟨_, Run.isolated_enclosed (runAll left (.inside leftContext)) h⟩
      ⟨_, Run.isolated_enclosed (runAll right (.inside rightContext)) h⟩
    rw [hr, run, Run.settle_map, Run.settle_map, hboth.settle_eq, hrounds.settle_eq, hsameLeft,
      hsameRight]
  | .get, _, _, hr => by rw [hr]
  | .set _, _, _, hr => by rw [hr]
  | .release, _, _, hr => by rw [hr]
  | .isInside, _, _, hr => by rw [hr]
  | .pause, _, _, hr => by rw [hr]

theorem settle_of_runsAll : ∀ (steps : List HolderStep) (h : Holder)
    (r : Run (List HolderAnswer)), RunsAll steps h r → r.settle = (runAll steps h).settle
  | [], _, _, hr => by
    rw [RunsAll] at hr
    rw [hr, runAll]
  | step :: steps, h, _, ⟨first, rest, hfirst, hrest, hr⟩ => by
    rw [hr, runAll, Run.settle_bind, Run.settle_bind, Run.settle_map, Run.settle_map,
      settle_of_runs step h first hfirst, settle_of_runsAll steps _ _ (hrest _)]

end

/-- Steps that are run by another keep to themselves, and answer as they do outside every scope. -/
theorem isolated_of_runs {step : HolderStep} (hnests : step.nests = true) {h : Holder}
    {r : Run HolderAnswer} (hr : step.Runs h r) : r.Isolated step.outsideAnswer h := by
  cases step with
  | scope context steps =>
    obtain ⟨inner, hinner, rfl⟩ := hr
    rw [outsideAnswer, alone_eq, ← settle_of_runsAll steps _ inner hinner]
    exact (Run.isolated_enclosed inner h).map HolderAnswer.answers
  | spawn steps =>
    obtain ⟨task, htask, rfl⟩ := hr
    have htaskFinish := (keeps_of_runsAll steps task htask).finish_eq
    have hfinish := (keeps_of_runsAll steps _ (runsAll_runAll steps .outside)).finish_eq
    rw [settle_of_runsAll steps _ task htask, ← hfinish] at htaskFinish
    rw [outsideAnswer, answers, ← htaskFinish]
    exact .paused h fun k => .done k
  | join turns leftContext left rightContext right =>
    obtain ⟨leftRun, rightRun, both, hleft, hright, hweaves, rfl⟩ := hr
    rw [outsideAnswer, alone_eq, alone_eq, ← settle_of_runsAll left _ leftRun hleft,
      ← settle_of_runsAll right _ rightRun hright]
    exact (hweaves.isolated ⟨h, Run.isolated_enclosed leftRun h⟩
      ⟨h, Run.isolated_enclosed rightRun h⟩).map fun (l, r) => HolderAnswer.pair l r
  | _ => cases hnests

/-- Outside every scope a step leaves nothing behind. -/
theorem settle_run_outside (step : HolderStep) :
    (step.run .outside).settle = (step.outsideAnswer, .outside) := by
  cases hnests : step.nests with
  | true => exact (isolated_of_runs hnests (runs_run step .outside)).settle_eq
  | false =>
    cases step with
    | get => rfl
    | set context => rfl
    | release => rfl
    | isInside => rfl
    | pause => rfl
    | _ => cases hnests

theorem settle_runAll_outside (steps : List HolderStep) :
    (runAll steps .outside).settle = (steps.map outsideAnswer, .outside) := by
  induction steps with
  | nil => rw [runAll, Run.settle, List.map_nil]
  | cons step steps ih =>
    rw [runAll, Run.settle_bind, Run.settle_map, settle_run_outside, ih, List.map_cons]

/-- Steps after others begin with the holder that those leave. -/
theorem settle_runAll_append (steps others : List HolderStep) (h : Holder) :
    (runAll (steps ++ others) h).settle =
      ((runAll steps h).settle.1 ++ (runAll others (runAll steps h).settle.2).settle.1,
        (runAll others (runAll steps h).settle.2).settle.2) := by
  induction steps generalizing h with
  | nil => rw [List.nil_append, runAll, Run.settle, List.nil_append]
  | cons step steps ih =>
    rw [List.cons_append, runAll, runAll, Run.settle_bind, Run.settle_bind, Run.settle_map,
      Run.settle_map, ih, List.cons_append]

/-- How steps that run others stand apart from what is around them, begun with a holder in the
thread. -/
structure Isolates (h : Holder) : Prop where
  /-- A nested scope gives back what it finds, and answers what its steps answer alone. -/
  scope : ∀ context steps r, (HolderStep.scope context steps).Runs h r →
    r.Isolated (.answers (alone context steps)) h
  /-- A new task is in no scope, wherever it is begun, and changes nothing there. -/
  spawn : ∀ steps r, (HolderStep.spawn steps).Runs h r →
    r.Isolated (.answers (steps.map outsideAnswer)) h
  /-- Two scopes that take turns answer what each answers alone, and give back what they find. -/
  join : ∀ turns leftContext left rightContext right r,
    (HolderStep.join turns leftContext left rightContext right).Runs h r →
    r.Isolated (.pair (alone leftContext left) (alone rightContext right)) h
  /-- In a program, what comes after any of these finds the holder that was there before. -/
  between : ∀ before step after r, step.nests = true → RunsAll (before ++ step :: after) h r →
    r.settle =
      ((runAll before h).settle.1 ++ step.outsideAnswer ::
          (runAll after (runAll before h).settle.2).settle.1,
        (runAll after (runAll before h).settle.2).settle.2)
  /-- Outside every scope no step has an effect: each answers by itself, and a run stays there. -/
  outside : ∀ steps r, RunsAll steps .outside r →
    r.Keeps .outside ∧ r.finish = steps.map outsideAnswer
  /-- What runs is one of these runs. -/
  runs : ∀ steps, RunsAll steps h (runAll steps h)

/-- Scopes, tasks and pairs of scopes are isolated, at any depth and however scopes take turns. -/
theorem isolates_under_every_interleaving (h : Holder) : Isolates h where
  scope _ _ _ hr := isolated_of_runs rfl hr
  spawn steps r hr := by
    have hsteps : answers steps = steps.map outsideAnswer := by
      rw [answers, (keeps_of_runsAll steps _ (runsAll_runAll steps .outside)).finish_eq,
        settle_runAll_outside]
    rw [← hsteps]
    exact isolated_of_runs rfl hr
  join _ _ _ _ _ _ hr := isolated_of_runs rfl hr
  between before step after r hnests hr := by
    have hstep := (isolated_of_runs hnests (runs_run step (runAll before h).settle.2)).settle_eq
    rw [settle_of_runsAll _ h r hr, settle_runAll_append, runAll, Run.settle_bind, Run.settle_map,
      hstep]
  outside steps r hr := by
    have hkeeps := keeps_of_runsAll steps r hr
    refine ⟨hkeeps, ?_⟩
    rw [hkeeps.finish_eq, settle_of_runsAll steps _ r hr, settle_runAll_outside]
  runs steps := runsAll_runAll steps h

/-- One scope gives its context up before it pauses, and the other still finds its own after. -/
example (mine other : SecurityContext) :
    answers [.join [] (some mine) [.pause, .get] (some other) [.release, .pause, .get]] =
      [.pair [.nothing, .context (some mine)] [.context (some other), .nothing, .context none]] :=
  rfl

end HolderStep

end SignOn
