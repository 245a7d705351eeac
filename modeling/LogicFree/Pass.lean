import LogicFree.Event
import LogicFree.Failure

/-! One pass over a file: the mode, what has been refused so far, the number of
elements met and the log. The pass keeps all of this when it stops early. -/

namespace LogicFree

structure Pass where
  mode : Mode
  /-- The violations in the order in which they were met. -/
  violations : Array Violation := #[]
  elements : Nat := 0
  events : Array Event := #[]

/-- A step of a pass. It may stop at a violation, and the state survives that. -/
abbrev PassM := ExceptT Violation (StateM Pass)

namespace Pass

def log (event : Event) (pass : Pass) : Pass :=
  { pass with events := pass.events.push event }

/-- Keeps a violation for the end of the pass. -/
def record (violation : Violation) (pass : Pass) : Pass :=
  { pass with violations := pass.violations.push violation }

def countElement (pass : Pass) : Pass :=
  { pass with elements := pass.elements + 1 }

/-- A violation always enters the log. It then stops the pass or is recorded,
as the mode says. -/
def reject (violation : Violation) : PassM Unit := do
  modify (log (.rejected violation))
  match (← get).mode with
  | .first => throw violation
  | .collect => modify (record violation)

/-- Passes a checked value on. After a recorded violation there is none, and the
caller leaves the node out. -/
def check (result : Except Violation α) : PassM (Option α) :=
  match result with
  | .ok value => pure (some value)
  | .error violation => do
    reject violation
    pure none

/-- Two steps in a row: the second one runs only if the first did not stop. -/
theorem run_bind (first : PassM α) (second : α → PassM β) (pass : Pass) :
    (first >>= second).run.run pass =
      match first.run.run pass with
      | (.ok value, next) => (second value).run.run next
      | (.error violation, next) => (.error violation, next) := by
  simp only [ExceptT.run_bind, StateT.run_bind]
  change (match first.run.run pass with | (result, next) => _) = _
  rcases first.run.run pass with ⟨_ | _, _⟩ <;> rfl

@[simp] theorem check_ok (value : α) : check (.ok value) = pure (some value) := rfl

/-- In the first mode a rejected violation stops the pass and nothing is kept. -/
theorem reject_first (violation : Violation) (pass : Pass) (first : pass.mode = .first) :
    (reject violation).run.run pass =
      (.error violation, pass.log (.rejected violation)) := by
  cases pass
  cases first
  rfl

/-- In the collecting mode a rejected violation is kept and the pass goes on. -/
theorem reject_collect (violation : Violation) (pass : Pass) (collect : pass.mode = .collect) :
    (reject violation).run.run pass =
      (.ok (), (pass.log (.rejected violation)).record violation) := by
  cases pass
  cases collect
  rfl

/-- Runs a step on a pass. A step that stops early fails with its violation alone. -/
def step (action : PassM α) (pass : Pass) : Except Failure α × Pass :=
  match action.run.run pass with
  | (.ok value, next) => (.ok value, next)
  | (.error violation, next) => (.error violation.toFailure, next)

/-- The violations in source order. Those that begin at one place keep their order. -/
def sorted (pass : Pass) : List Violation :=
  pass.violations.toList.mergeSort fun a b => a.span.start ≤ b.span.start

/-- A pass ends well if nothing was recorded. -/
def finish (pass : Pass) : Except Failure Unit :=
  if pass.violations.isEmpty then .ok () else .error (.policy pass.sorted)

end Pass

end LogicFree
