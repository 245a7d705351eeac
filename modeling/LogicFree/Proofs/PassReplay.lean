import LogicFree.Pass

/-! Steps of a pass described by what they meet. A step that follows a list of
visits returns one value in both modes: the mode only decides whether the first
refused node ends the run. -/

namespace LogicFree

/-- What a walk meets: an element that it enters, or a node that it refuses. -/
inductive Visit where
  | entered (tag : String) (attributes children : Nat) (selfClosing : Bool)
  | refused (violation : Violation)
deriving Repr, DecidableEq

def Visit.violation? : Visit → Option Violation
  | .entered .. => none
  | .refused violation => some violation

def refusals (visits : List Visit) : List Violation :=
  visits.filterMap Visit.violation?

@[simp] theorem refusals_nil : refusals [] = [] := rfl

@[simp] theorem refusals_entered (tag : String) (attributes children : Nat) (selfClosing : Bool)
    (rest : List Visit) :
    refusals (.entered tag attributes children selfClosing :: rest) = refusals rest := rfl

@[simp] theorem refusals_refused (violation : Violation) (rest : List Visit) :
    refusals (.refused violation :: rest) = violation :: refusals rest := rfl

@[simp] theorem refusals_append (first second : List Visit) :
    refusals (first ++ second) = refusals first ++ refusals second :=
  List.filterMap_append

theorem refusals_flatMap (items : List α) (visits : α → List Visit) :
    refusals (items.flatMap visits) = items.flatMap fun item => refusals (visits item) :=
  List.filterMap_flatMap

namespace Pass

/-- A run that makes the given visits and would then return the given value. -/
def replay (value : α) : List Visit → Pass → Except Violation α × Pass
  | [], pass => (.ok value, pass)
  | .entered tag attributes children selfClosing :: rest, pass =>
    replay value rest (pass.log (.element tag attributes children selfClosing)).countElement
  | .refused violation :: rest, pass =>
    match pass.mode with
    | .first => (.error violation, pass.log (.rejected violation))
    | .collect => replay value rest ((pass.log (.rejected violation)).record violation)

/-- The collecting mode makes every visit and keeps every violation. -/
theorem replay_collect (value : α) (visits : List Visit) (pass : Pass)
    (collect : pass.mode = .collect) :
    ∃ next, pass.replay value visits = (.ok value, next) ∧
      next.violations = pass.violations ++ (refusals visits).toArray := by
  induction visits generalizing pass with
  | nil => exact ⟨pass, rfl, by simp⟩
  | cons visit rest ih =>
    cases visit with
    | entered tag attributes children selfClosing =>
      exact ih (pass.log (.element tag attributes children selfClosing)).countElement collect
    | refused violation =>
      obtain ⟨next, run, kept⟩ := ih ((pass.log (.rejected violation)).record violation) collect
      refine ⟨next, by simpa only [replay, collect] using run, ?_⟩
      rw [kept, refusals_refused]
      simp [record, log]

theorem replay_accepted (value : α) (visits : List Visit) (pass : Pass)
    (accepted : refusals visits = []) :
    ∃ next, pass.replay value visits = (.ok value, next) ∧ next.violations = pass.violations := by
  induction visits generalizing pass with
  | nil => exact ⟨pass, rfl, rfl⟩
  | cons visit rest ih =>
    cases visit with
    | entered tag attributes children selfClosing =>
      exact ih (pass.log (.element tag attributes children selfClosing)).countElement accepted
    | refused violation => cases accepted

/-- The first mode stops at the first refused node. -/
theorem replay_first (value : α) (visits : List Visit) (pass : Pass) (first : pass.mode = .first)
    (violation : Violation) (rest : List Violation) (met : refusals visits = violation :: rest) :
    ∃ next, pass.replay value visits = (.error violation, next) := by
  induction visits generalizing pass with
  | nil => cases met
  | cons visit later ih =>
    cases visit with
    | entered tag attributes children selfClosing =>
      exact ih (pass.log (.element tag attributes children selfClosing)).countElement first met
    | refused other =>
      obtain ⟨rfl, -⟩ := List.cons.inj met
      exact ⟨pass.log (.rejected other), by simp only [replay, first]⟩

/-- A step makes these visits from every state and returns this value. -/
def Follows (action : PassM α) (visits : List Visit) (value : α) : Prop :=
  ∀ pass, action.run.run pass = pass.replay value visits

theorem Follows.pure (value : α) : Follows (pure value) [] value := fun _ => rfl

/-- A run that has not stopped carries on with the value of its first part, and
that value is the same in both modes. -/
theorem Follows.bind {action : PassM α} {next : α → PassM β} {visits more : List Visit}
    {first : α} {second : β} (opening : Follows action visits first)
    (rest : Follows (next first) more second) :
    Follows (action >>= next) (visits ++ more) second := by
  intro pass
  rw [run_bind, opening pass]
  clear opening
  induction visits generalizing pass with
  | nil => exact rest pass
  | cons visit later ih =>
    cases visit with
    | entered tag attributes children selfClosing => exact ih _
    | refused violation =>
      cases mode : pass.mode with
      | first => simp only [List.cons_append, replay, mode]
      | collect => simpa only [List.cons_append, replay, mode] using ih _

theorem Follows.map {action : PassM α} {visits : List Visit} {value : α}
    (follows : Follows action visits value) (f : α → β) :
    Follows (action >>= fun value => Pure.pure (f value)) visits (f value) := by
  have mapped : Follows (action >>= fun value => Pure.pure (f value)) (visits ++ []) (f value) :=
    follows.bind (Follows.pure (f value))
  rwa [List.append_nil] at mapped

theorem Follows.seq {action : PassM α} {rest : PassM β} {visits more : List Visit}
    {first : α} {second : β} (opening : Follows action visits first)
    (later : Follows rest more second) :
    Follows (action >>= fun _ => rest) (visits ++ more) second :=
  opening.bind later

theorem reject_follows (violation : Violation) :
    Follows (reject violation) [.refused violation] () := by
  intro pass
  cases mode : pass.mode with
  | first => rw [reject_first violation pass mode]; simp only [replay, mode]
  | collect => rw [reject_collect violation pass mode]; simp only [replay, mode]

def checkVisits : Except Violation α → List Visit
  | .ok _ => []
  | .error violation => [.refused violation]

theorem check_follows (result : Except Violation α) :
    Follows (check result) (checkVisits result) result.toOption := by
  cases result with
  | ok value => exact Follows.pure (some value)
  | error violation => exact (reject_follows violation).map fun _ => none

theorem enter_follows (tag : String) (attributes children : Nat) (selfClosing : Bool)
    {rest : PassM α} {visits : List Visit} {value : α} (follows : Follows rest visits value) :
    Follows (do
      modify (log (.element tag attributes children selfClosing))
      modify countElement
      rest) (.entered tag attributes children selfClosing :: visits) value :=
  fun pass => follows (pass.log (.element tag attributes children selfClosing)).countElement

end Pass

end LogicFree
