import SignOn.Holder.Basic

/-!
# Tasks that share a thread

A program is a list of steps of one task: steps on its holder, pauses at which other work runs,
nested scopes, new tasks and pairs of scopes that take turns. A program runs up to its next pause at
a time. The holder that stands in the thread is exchanged whenever a scope starts, pauses, goes on
or ends, and a run says what it leaves there, so that one can state what the surroundings see.
-/

namespace SignOn

/-- A computation up to its end or its next pause, with the holder that it leaves in the thread
there. -/
inductive Run (α : Type) where
  | done (holder : Holder) (result : α)
  | paused (holder : Holder) (resume : Holder → Run α)

namespace Run

variable {α β : Type}

/-- The holder that is left in the thread. -/
def holder : Run α → Holder
  | done holder _ => holder
  | paused holder _ => holder

/-- A run with its result changed. -/
def map (f : α → β) : Run α → Run β
  | done holder result => done holder (f result)
  | paused holder resume => paused holder fun h => (resume h).map f

/-- A run and what follows it. -/
def bind (next : Holder → α → Run β) : Run α → Run β
  | done holder result => next holder result
  | paused holder resume => paused holder fun h => (resume h).bind next

/-- A run in a scope of its own: whenever it stops, the surrounding holder stands in the thread
again, and when it goes on, its own. -/
def enclosed (outer : Holder) : Run α → Run α
  | done _ result => done outer result
  | paused inner resume => paused outer fun outer => (resume inner).enclosed outer

/-- Two runs that started, left before right, and take turns. Each round lets both go on to their
next pause, in the order that `turns` gives for the round, the left one first when it says nothing.
-/
def join (turns : List Bool) (holder : Holder) (left : Run α) (right : Run β) : Run (α × β) :=
  match left, right with
  | done _ a, done _ b => done holder (a, b)
  | done _ a, paused _ resume => paused holder fun h => (resume h).map fun b => (a, b)
  | paused _ resume, done _ b => paused holder fun h => (resume h).map fun a => (a, b)
  | paused _ resumeLeft, paused _ resumeRight =>
    paused holder fun h =>
      if turns.head?.getD true then
        let left := resumeLeft h
        let right := resumeRight left.holder
        join turns.tail right.holder left right
      else
        let right := resumeRight h
        let left := resumeLeft right.holder
        join turns.tail left.holder left right

/-- The result of a run that is a task of its own: it goes on outside every scope. -/
def finish : Run α → α
  | done _ result => result
  | paused _ resume => (resume .outside).finish

end Run

/-- A step of a program. -/
inductive HolderStep where
  /-- Read the holder. -/
  | get
  /-- Replace the held context. -/
  | set (context : SecurityContext)
  /-- Take the context out of the holder. -/
  | release
  /-- Ask whether there is a holder. -/
  | isInside
  /-- Let other work run. -/
  | pause
  /-- Run steps in a new scope. -/
  | scope (context : Option SecurityContext) (steps : List HolderStep)
  /-- Run steps as a task of their own and wait for it. -/
  | spawn (steps : List HolderStep)
  /-- Run two scopes that take turns at their pauses. -/
  | join (turns : List Bool) (leftContext : Option SecurityContext) (left : List HolderStep)
      (rightContext : Option SecurityContext) (right : List HolderStep)

/-- What a step answers. -/
inductive HolderAnswer where
  | context (context : Option SecurityContext)
  | truth (value : Bool)
  | nothing
  | answers (answers : List HolderAnswer)
  | pair (left right : List HolderAnswer)

mutual

/-- Run a step from the holder in the thread. -/
def HolderStep.run : HolderStep → Holder → Run HolderAnswer
  | .get, h => .done h (.context h.context?)
  | .set context, h => .done (h.set context) (.truth h.isInside)
  | .release, h => .done h.release (.context h.context?)
  | .isInside, h => .done h (.truth h.isInside)
  | .pause, h => .paused h fun h => .done h .nothing
  | .scope context steps, h => ((HolderStep.runAll steps (.inside context)).enclosed h).map .answers
  | .spawn steps, h =>
    .paused h fun h => .done h (.answers (HolderStep.runAll steps .outside).finish)
  | .join turns leftContext left rightContext right, h =>
    let leftRun := (HolderStep.runAll left (.inside leftContext)).enclosed h
    let rightRun := (HolderStep.runAll right (.inside rightContext)).enclosed h
    (Run.join turns h leftRun rightRun).map fun (l, r) => .pair l r

/-- Run steps one after the other. -/
def HolderStep.runAll : List HolderStep → Holder → Run (List HolderAnswer)
  | [], h => .done h []
  | step :: steps, h =>
    (step.run h).bind fun h answer => (HolderStep.runAll steps h).map (answer :: ·)

end

/-- The answers of a program that is a task of its own. -/
def HolderStep.answers (steps : List HolderStep) : List HolderAnswer :=
  (HolderStep.runAll steps .outside).finish

end SignOn
