import SignOn.Context

/-!
# The context of the running task

While a request is served its security context stands in a holder that belongs to the running task.
A scope gives the task a holder; outside every scope there is none and nothing can be kept.
-/

namespace SignOn

/-- What the running task holds. -/
inductive Holder where
  /-- The task is in no scope. -/
  | outside
  /-- The task is in a scope, which may be empty. -/
  | inside (context : Option SecurityContext)
  deriving DecidableEq

namespace Holder

/-- The context that is held. -/
def context? : Holder → Option SecurityContext
  | outside => none
  | inside context => context

/-- Whether the task is in a scope. -/
def isInside : Holder → Bool
  | outside => false
  | inside _ => true

/-- The holder with another context; a task outside every scope has none to replace. -/
def set (h : Holder) (context : SecurityContext) : Holder :=
  match h with
  | outside => outside
  | inside _ => inside (some context)

/-- The holder after its context was released. -/
def release : Holder → Holder
  | outside => outside
  | inside _ => inside none

@[simp] theorem context?_release (h : Holder) : h.release.context? = none := by cases h <;> rfl

@[simp] theorem isInside_release (h : Holder) : h.release.isInside = h.isInside := by
  cases h <;> rfl

@[simp] theorem isInside_set (h : Holder) (context : SecurityContext) :
    (h.set context).isInside = h.isInside := by cases h <;> rfl

end Holder

end SignOn
