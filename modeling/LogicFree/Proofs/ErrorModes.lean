import LogicFree.Proofs.TemplateWalk

/-! The two error modes judge a file alike. Both follow one list of violations:
the first mode reports its head, the collecting mode reports all of it by place. -/

namespace LogicFree

/-- A report holds what was met and nothing else, by the place where it begins.
What begins at one place keeps the order in which it was met. -/
structure StablySorted (met report : List Violation) : Prop where
  perm : report.Perm met
  ordered : report.Pairwise fun earlier later => earlier.span.start ≤ later.span.start
  stable : ∀ place, report.filter (·.span.start = place) = met.filter (·.span.start = place)

def byPlace (met : List Violation) : List Violation :=
  met.mergeSort fun a b => a.span.start ≤ b.span.start

theorem byPlace_stablySorted (met : List Violation) : StablySorted met (byPlace met) := by
  let le : Violation → Violation → Bool := fun a b => a.span.start ≤ b.span.start
  have trans : ∀ a b c, le a b → le b c → le a c := by
    intro a b c first second
    simp only [le, decide_eq_true_eq] at first second ⊢
    exact Nat.le_trans first second
  have total : ∀ a b, le a b || le b a := by
    intro a b
    simpa only [le, Bool.or_eq_true, decide_eq_true_eq] using Nat.le_total a.span.start b.span.start
  have perm : (byPlace met).Perm met := List.mergeSort_perm met le
  refine ⟨perm, ?_, ?_⟩
  · apply (List.pairwise_mergeSort trans total met).imp
    intro earlier later related
    simpa only [le, decide_eq_true_eq] using related
  · intro place
    -- What begins at one place is sorted already, so sorting the whole keeps it as it stands.
    have level : (met.filter (·.span.start = place)).Pairwise fun a b => le a b := by
      apply List.pairwise_of_forall_mem_list
      intro a first b second
      simp only [List.mem_filter, decide_eq_true_eq] at first second
      simp only [le, decide_eq_true_eq, first.2, second.2, Nat.le_refl]
    have kept : (met.filter (·.span.start = place)).Sublist (byPlace met) :=
      List.sublist_mergeSort trans total level List.filter_sublist
    have inside := kept.filter (·.span.start = place)
    rw [List.filter_filter] at inside
    simp only [Bool.and_self] at inside
    exact (inside.eq_of_length (perm.filter _).length_eq.symm).symm

theorem Pass.finish_eq (pass : Pass) (met : List Violation) (stored : pass.violations = met.toArray) :
    pass.finish = if met = [] then .ok () else .error (.policy (byPlace met)) := by
  rw [finish, sorted, stored]
  cases met with
  | nil => rfl
  | cons violation rest => rfl

namespace Template

def Program.opening (program : Program) (mode : Mode) : Pass :=
  { mode, events := #[.compiling program.body.length program.roots.length mode] }

theorem Program.compile_eq (program : Program) (mode : Mode) :
    program.compile mode =
      match program.compileBody.run.run (program.opening mode) with
      | (.error violation, pass) => (.error (.policy [violation]), pass.events)
      | (.ok output, pass) =>
        match pass.finish with
        | .error failure => (.error failure, pass.events)
        | .ok () => (.ok output, pass.events.push (.compiled pass.elements)) := by
  rw [compile, Pass.step, ← opening]
  rcases program.compileBody.run.run (program.opening mode) with ⟨_ | _, _⟩ <;> rfl

/-- The collecting mode goes through the whole file and keeps everything it refuses. -/
theorem Program.compileBody_keeps (program : Program) :
    ∃ pass, program.compileBody.run.run (program.opening .collect) = (.ok program.image, pass) ∧
      pass.violations = program.violations.toArray := by
  obtain ⟨pass, run, kept⟩ := Pass.replay_collect program.image
    (program.moduleViolations.map .refused ++ program.visits) (program.opening .collect) rfl
  have items : refusals (program.moduleViolations.map .refused) = program.moduleViolations := by
    simp [refusals, Function.comp_def, Visit.violation?]
  refine ⟨pass, (compileBody_collect program _ rfl).trans run, ?_⟩
  rw [kept, refusals_append, items, ← violations]
  exact Array.empty_append

theorem Program.compile_collect (program : Program) :
    (program.compile .collect).1 =
      if program.violations = [] then .ok program.image
      else .error (.policy (byPlace program.violations)) := by
  obtain ⟨pass, run, kept⟩ := program.compileBody_keeps
  rw [compile_eq, run]
  simp only [pass.finish_eq program.violations kept]
  cases program.violations with
  | nil => rfl
  | cons violation rest => rfl

theorem Program.compile_first (program : Program) :
    (program.compile .first).1 =
      match program.violations with
      | [] => .ok program.image
      | violation :: _ => .error (.policy [violation]) := by
  rw [compile_eq, compileBody_first program _ rfl, violations]
  cases program.moduleViolations with
  | cons violation rest => rfl
  | nil =>
    cases walk : refusals program.visits with
    | nil =>
      obtain ⟨next, run, kept⟩ := Pass.replay_accepted program.image program.visits
        (program.opening .first) walk
      simp only [run, Pass.finish, kept]
      rfl
    | cons violation rest =>
      obtain ⟨next, run⟩ := Pass.replay_first program.image program.visits
        (program.opening .first) rfl violation rest walk
      simp only [run]
      rfl

theorem Program.compile_eq_ok_iff (program : Program) (mode : Mode) (output : Output.Program) :
    (program.compile mode).1 = .ok output ↔ program.violations = [] ∧ output = program.image := by
  cases mode with
  | first =>
    rw [compile_first]
    cases program.violations with
    | nil => simp [eq_comm]
    | cons violation rest => simp
  | collect =>
    rw [compile_collect]
    cases program.violations with
    | nil => simp [eq_comm]
    | cons violation rest => simp

theorem Program.compile_ok_iff (program : Program) (mode : Mode) :
    (∃ output, (program.compile mode).1 = .ok output) ↔ program.violations = [] := by
  simp only [compile_eq_ok_iff, exists_and_left, exists_eq, and_true]

/-- The modes agree on every file. It compiles in both of them or in neither, and
to the same code. Otherwise the first mode reports the first violation that is met
and nothing else, and the collecting mode reports every violation once, by place. -/
theorem Program.error_modes_agree (program : Program) :
    ((∃ output, (program.compile .first).1 = .ok output) ↔ program.violations = []) ∧
    (∀ violation rest, program.violations = violation :: rest →
      (program.compile .first).1 = .error (.policy [violation])) ∧
    ((∃ output, (program.compile .collect).1 = .ok output) ↔ program.violations = []) ∧
    (program.violations ≠ [] → ∃ report, StablySorted program.violations report ∧
      (program.compile .collect).1 = .error (.policy report)) ∧
    (program.violations = [] → ∃ output,
      (program.compile .first).1 = .ok output ∧ (program.compile .collect).1 = .ok output) := by
  refine ⟨program.compile_ok_iff .first, ?_, program.compile_ok_iff .collect, ?_, ?_⟩
  · intro violation rest met
    rw [compile_first, met]
  · intro met
    refine ⟨byPlace program.violations, byPlace_stablySorted program.violations, ?_⟩
    rw [compile_collect, if_neg met]
  · intro accepted
    exact ⟨program.image, (program.compile_eq_ok_iff .first _).mpr ⟨accepted, rfl⟩,
      (program.compile_eq_ok_iff .collect _).mpr ⟨accepted, rfl⟩⟩

end Template

end LogicFree
