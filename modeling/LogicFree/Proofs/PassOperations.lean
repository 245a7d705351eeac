import LogicFree.Proofs.ErrorModes

/-! A pass as a state machine. Its operations may come in any order and go on after
one that failed. No answer depends on what came before: the state only gathers
elements and, in the collecting mode, violations. -/

namespace LogicFree

/-- What can be done with a pass: compile an element, compile an embedded expression,
pass on a checked value, or refuse a node. -/
inductive Operation where
  | element (inner : Template.Element)
  | embed (expr : Template.Expr)
  | check {α : Type} (result : Except Violation α)
  | reject (violation : Violation)

namespace Operation

def Answer : Operation → Type
  | .element _ => Output.CreateCall
  | .embed _ => Option Output.Argument
  | @check α _ => Option α
  | .reject _ => Unit

def action : (operation : Operation) → PassM operation.Answer
  | .element inner => inner.compile
  | .embed expr => expr.compile
  | .check result => Pass.check result
  | .reject violation => Pass.reject violation

def run (operation : Operation) (pass : Pass) : Except Failure operation.Answer × Pass :=
  Pass.step operation.action pass

def visits : Operation → List Visit
  | .element inner => inner.visits
  | .embed expr => expr.visits
  | .check result => Pass.checkVisits result
  | .reject violation => [.refused violation]

def met (operation : Operation) : List Violation := refusals operation.visits

def answer : (operation : Operation) → operation.Answer
  | .element inner => inner.image
  | .embed expr => expr.image
  | .check result => result.toOption
  | .reject _ => ()

private theorem action_follows (operation : Operation) :
    Pass.Follows operation.action operation.visits operation.answer := by
  cases operation with
  | element inner => exact inner.compile_follows
  | embed expr => exact expr.compile_follows
  | check result => exact Pass.check_follows result
  | reject violation => exact Pass.reject_follows violation

end Operation

namespace Pass

def fresh (mode : Mode) : Pass := { mode }

/-- The state after some operations, whether they failed or not. -/
def after (pass : Pass) : List Operation → Pass
  | [] => pass
  | operation :: rest => (operation.run pass).2.after rest

private theorem replay_mode (value : α) (visits : List Visit) (pass : Pass) :
    (pass.replay value visits).2.mode = pass.mode := by
  induction visits generalizing pass with
  | nil => rfl
  | cons visit rest ih =>
    cases visit with
    | entered tag attributes children selfClosing => exact ih _
    | refused violation =>
      rw [replay]
      split
      · rfl
      · exact ih _

theorem replay_first_keeps (value : α) (visits : List Visit) (pass : Pass)
    (first : pass.mode = .first) : (pass.replay value visits).2.violations = pass.violations := by
  induction visits generalizing pass with
  | nil => rfl
  | cons visit rest ih =>
    cases visit with
    | entered tag attributes children selfClosing => exact ih _ first
    | refused violation => simp only [replay, first, log]

/-- Only the mode of the state decides how a run ends and how many elements it enters. -/
theorem replay_same_mode (value : α) (visits : List Visit) (pass other : Pass)
    (same : pass.mode = other.mode) :
    (pass.replay value visits).1 = (other.replay value visits).1 ∧
      (pass.replay value visits).2.elements + other.elements =
        pass.elements + (other.replay value visits).2.elements := by
  induction visits generalizing pass other with
  | nil => exact ⟨rfl, rfl⟩
  | cons visit rest ih =>
    cases visit with
    | entered tag attributes children selfClosing =>
      have enters (state : Pass) :
          (state.log (.element tag attributes children selfClosing)).countElement.elements =
            state.elements + 1 := rfl
      obtain ⟨ended, counted⟩ := ih (pass.log (.element tag attributes children selfClosing)).countElement
        (other.log (.element tag attributes children selfClosing)).countElement same
      refine ⟨ended, ?_⟩
      rw [enters, enters] at counted
      simp only [replay]
      omega
    | refused violation =>
      cases mode : other.mode with
      | first => simp only [replay, same, mode, log, and_self]
      | collect =>
        simp only [replay, same, mode]
        exact ih ((pass.log (.rejected violation)).record violation)
          ((other.log (.rejected violation)).record violation) same

private theorem step_of_follows {action : PassM α} {visits : List Visit} {value : α}
    (follows : Follows action visits value) (pass : Pass) :
    (step action pass).1 = (pass.replay value visits).1.mapError Violation.toFailure ∧
      (step action pass).2 = (pass.replay value visits).2 := by
  rw [step, follows pass]
  rcases pass.replay value visits with ⟨_ | _, _⟩ <;> exact ⟨rfl, rfl⟩

end Pass

namespace Operation

private theorem run_mode (operation : Operation) (pass : Pass) : (operation.run pass).2.mode = pass.mode := by
  rw [run, (Pass.step_of_follows operation.action_follows pass).2]
  exact Pass.replay_mode _ _ pass

/-- An operation answers alike in any two states of one mode, and enters as many elements. -/
theorem run_same_mode (operation : Operation) (pass other : Pass) (same : pass.mode = other.mode) :
    (operation.run pass).1 = (operation.run other).1 ∧
      (operation.run pass).2.elements + other.elements =
        pass.elements + (operation.run other).2.elements := by
  have here := Pass.step_of_follows operation.action_follows pass
  have there := Pass.step_of_follows operation.action_follows other
  obtain ⟨ended, counted⟩ :=
    Pass.replay_same_mode operation.answer operation.visits pass other same
  rw [run, run, here.1, here.2, there.1, there.2]
  exact ⟨congrArg _ ended, counted⟩

/-- In the first mode an operation answers, or fails with the first violation it meets. -/
theorem run_first (operation : Operation) (pass : Pass) (first : pass.mode = .first) :
    (operation.run pass).2.violations = pass.violations ∧
      (operation.met = [] ∧ (∃ answer, (operation.run pass).1 = .ok answer) ∨
        ∃ violation rest, operation.met = violation :: rest ∧
          (operation.run pass).1 = .error (.policy [violation])) := by
  obtain ⟨ended, next⟩ := Pass.step_of_follows operation.action_follows pass
  rw [run, ended, next]
  refine ⟨Pass.replay_first_keeps _ _ pass first, ?_⟩
  cases met : operation.met with
  | nil =>
    obtain ⟨last, run, -⟩ := Pass.replay_accepted operation.answer operation.visits pass met
    rw [run]
    exact .inl ⟨rfl, operation.answer, rfl⟩
  | cons violation rest =>
    obtain ⟨last, run⟩ := Pass.replay_first operation.answer operation.visits pass first violation rest met
    rw [run]
    exact .inr ⟨violation, rest, rfl, rfl⟩

theorem run_collect (operation : Operation) (pass : Pass) (collect : pass.mode = .collect) :
    (operation.run pass).2.violations = pass.violations ++ operation.met.toArray ∧
      ∃ answer, (operation.run pass).1 = .ok answer := by
  obtain ⟨ended, next⟩ := Pass.step_of_follows operation.action_follows pass
  obtain ⟨last, run, kept⟩ := Pass.replay_collect operation.answer operation.visits pass collect
  rw [Operation.run, ended, next, run]
  exact ⟨kept, operation.answer, rfl⟩

end Operation

namespace Pass

private theorem after_mode (pass : Pass) (history : List Operation) : (pass.after history).mode = pass.mode := by
  induction history generalizing pass with
  | nil => rfl
  | cons operation rest ih => rw [after, ih, operation.run_mode]

private theorem after_first (pass : Pass) (history : List Operation) (first : pass.mode = .first) :
    (pass.after history).violations = pass.violations := by
  induction history generalizing pass with
  | nil => rfl
  | cons operation rest ih =>
    rw [after, ih _ ((operation.run_mode pass).trans first), (operation.run_first pass first).1]

private theorem after_collect (pass : Pass) (history : List Operation) (collect : pass.mode = .collect) :
    (pass.after history).violations = pass.violations ++ (history.flatMap Operation.met).toArray := by
  induction history generalizing pass with
  | nil => simp [after]
  | cons operation rest ih =>
    rw [after, ih _ ((operation.run_mode pass).trans collect), (operation.run_collect pass collect).1]
    simp [List.flatMap_cons, Array.append_assoc]

/-- Whatever was done with a pass, the next operation answers as on a fresh one and
adds as many elements. The first mode stores nothing and ends well. The collecting mode
never fails before the end, and then reports everything that was met, by place. -/
theorem after_history (mode : Mode) (history : List Operation) :
    let pass := (fresh mode).after history
    (∀ operation : Operation,
      (operation.run pass).1 = (operation.run (fresh mode)).1 ∧
      (operation.run pass).2.elements = pass.elements + (operation.run (fresh mode)).2.elements) ∧
    (mode = .first →
      (∀ operation : Operation,
        operation.met = [] ∧ (∃ answer, (operation.run pass).1 = .ok answer) ∨
        ∃ violation rest, operation.met = violation :: rest ∧
          (operation.run pass).1 = .error (.policy [violation])) ∧
      pass.violations = #[] ∧ pass.finish = .ok ()) ∧
    (mode = .collect →
      (∀ operation : Operation,
        (operation.run pass).2.violations = pass.violations ++ operation.met.toArray ∧
        ∃ answer, (operation.run pass).1 = .ok answer) ∧
      (pass.finish = .ok () ↔ ∀ operation ∈ history, operation.met = []) ∧
      ((∃ operation ∈ history, operation.met ≠ []) → ∃ report,
        StablySorted (history.flatMap Operation.met) report ∧
          pass.finish = .error (.policy report))) := by
  intro pass
  have kept : pass.mode = mode := after_mode (fresh mode) history
  refine ⟨?_, ?_, ?_⟩
  · intro operation
    obtain ⟨answered, counted⟩ := operation.run_same_mode pass (fresh mode) kept
    exact ⟨answered, counted⟩
  · intro first
    have nothing : pass.violations = #[] := after_first (fresh mode) history first
    refine ⟨?_, nothing, by simp [finish, nothing]⟩
    intro operation
    exact (operation.run_first pass (kept.trans first)).2
  · intro collect
    have stored : pass.violations = (history.flatMap Operation.met).toArray :=
      (after_collect (fresh mode) history collect).trans Array.empty_append
    have ended := pass.finish_eq _ stored
    have nothing : history.flatMap Operation.met = [] ↔ ∀ operation ∈ history, operation.met = [] :=
      List.flatMap_eq_nil_iff
    refine ⟨?_, ?_, ?_⟩
    · intro operation
      exact operation.run_collect pass (kept.trans collect)
    · rw [ended, ← nothing]
      by_cases accepted : history.flatMap Operation.met = []
      · rw [if_pos accepted]
        exact iff_of_true rfl accepted
      · rw [if_neg accepted]
        exact iff_of_false (by simp) accepted
    · rintro ⟨operation, member, refused⟩
      have stopped : history.flatMap Operation.met ≠ [] := by
        intro accepted
        exact refused (nothing.mp accepted operation member)
      rw [ended, if_neg stopped]
      exact ⟨_, byPlace_stablySorted _, rfl⟩

end Pass

end LogicFree
