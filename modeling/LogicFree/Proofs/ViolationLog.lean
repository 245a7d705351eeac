import LogicFree.Proofs.ErrorModes

/-! The log against the report. A refused node enters the log where it goes through the
pass. The first mode looks for module-level declarations outside the pass, and that is
the one way in which a report and its log come apart. -/

namespace LogicFree

def policyEvents (log : Array Event) : List Event :=
  log.toList.filter (·.message = "policy violation")

private theorem policyEvents_push_rejected (log : Array Event) (violation : Violation) :
    policyEvents (log.push (.rejected violation)) = policyEvents log ++ [.rejected violation] := by
  simp [policyEvents, Event.message]

theorem policyEvents_push (log : Array Event) (event : Event)
    (other : event.message ≠ "policy violation") :
    policyEvents (log.push event) = policyEvents log := by
  simp [policyEvents, other]

/-- How many of the violations that lie ahead a pass meets: one, or all of them. -/
def Mode.meets : Mode → List Violation → List Violation
  | .first, violations => violations.take 1
  | .collect, violations => violations

/-- Every violation that a replay meets is logged once, and nothing else is logged as one. -/
theorem Pass.replay_logs (value : α) (visits : List Visit) (pass : Pass) :
    policyEvents (pass.replay value visits).2.events =
      policyEvents pass.events ++ (pass.mode.meets (refusals visits)).map .rejected := by
  induction visits generalizing pass with
  | nil => cases mode : pass.mode <;> simp [replay, Mode.meets]
  | cons visit rest ih =>
    cases visit with
    | entered tag attributes children selfClosing =>
      rw [replay, ih, refusals_entered]
      congr 1
      exact policyEvents_push _ _ (by simp [Event.message])
    | refused violation =>
      have logged : policyEvents (pass.log (.rejected violation)).events =
          policyEvents pass.events ++ [.rejected violation] :=
        policyEvents_push_rejected pass.events violation
      cases mode : pass.mode with
      | first => simp only [replay, mode, logged, refusals_refused, Mode.meets, List.take_succ_cons,
          List.take_zero, List.map_cons, List.map_nil]
      | collect =>
        have later := ih ((pass.log (.rejected violation)).record violation)
        rw [show ((pass.log (.rejected violation)).record violation).mode = .collect from mode,
          show ((pass.log (.rejected violation)).record violation).events =
            (pass.log (.rejected violation)).events from rfl, logged] at later
        simpa only [replay, mode, refusals_refused, Mode.meets, List.map_cons, List.append_assoc,
          List.singleton_append] using later

def reported : Except Failure α → List Violation
  | .ok _ => []
  | .error failure => failure.violations

def Violation.entry (violation : Violation) : Level × List (String × Field) :=
  (.debug, [("construct", .text violation.construct.text),
    ("start", .number violation.span.start), ("end", .number violation.span.stop)])

def Event.entry (event : Event) : Level × List (String × Field) := (event.level, event.fields)

namespace Template

private theorem Program.policyEvents_opening (program : Program) (mode : Mode) :
    policyEvents (program.opening mode).events = [] := by
  simp [policyEvents, opening, Event.message]

theorem Program.policyEvents_compile (program : Program) (mode : Mode) :
    policyEvents (program.compile mode).2 =
      policyEvents (program.compileBody.run.run (program.opening mode)).2.events := by
  rw [compile_eq]
  rcases program.compileBody.run.run (program.opening mode) with ⟨violation | output, pass⟩
  · rfl
  · cases finished : pass.finish with
    | error failure => simp only [finished]
    | ok done =>
      simp only [finished]
      exact policyEvents_push _ _ (by simp [Event.message])

private theorem Program.logged_collect (program : Program) :
    policyEvents (program.compile .collect).2 = program.violations.map .rejected := by
  have items : refusals (program.moduleViolations.map .refused) = program.moduleViolations := by
    simp [refusals, Function.comp_def, Visit.violation?]
  rw [policyEvents_compile, compileBody_collect program _ rfl, Pass.replay_logs,
    policyEvents_opening, refusals_append, items]
  rfl

/-- The search for module-level declarations logs nothing, also where it ends the run. -/
theorem Program.logged_first (program : Program) :
    policyEvents (program.compile .first).2 =
      if program.moduleViolations = [] then (program.violations.take 1).map .rejected else [] := by
  rw [policyEvents_compile, compileBody_first program _ rfl, violations]
  cases program.moduleViolations with
  | cons violation rest => exact program.policyEvents_opening .first
  | nil => rw [if_pos rfl, Pass.replay_logs, policyEvents_opening]; rfl

private theorem Program.reported_collect (program : Program) :
    (reported (program.compile .collect).1).Perm program.violations := by
  rw [compile_collect]
  split
  case isTrue none => rw [none]; exact .refl _
  case isFalse => exact (byPlace_stablySorted program.violations).perm

private theorem Program.reported_first (program : Program) :
    reported (program.compile .first).1 = program.violations.take 1 := by
  rw [compile_first]
  cases program.violations <;> rfl

private theorem map_entry_rejected (violations : List Violation) :
    (violations.map Event.rejected).map Event.entry = violations.map Violation.entry := by
  rw [List.map_map]
  rfl

/-- The log tells of every reported violation once, with its construct and its place, and
of no other, unless the first mode meets a module-level declaration. A compilation that
succeeds logs no violation. -/
theorem Program.logged_as_reported_iff (program : Program) (mode : Mode) :
    (((policyEvents (program.compile mode).2).map Event.entry).Perm
        ((reported (program.compile mode).1).map Violation.entry) ↔
      (mode = .first → program.moduleViolations = [])) ∧
    ∀ output, (program.compile mode).1 = .ok output →
      policyEvents (program.compile mode).2 = [] := by
  cases mode with
  | collect =>
    rw [logged_collect, map_entry_rejected]
    refine ⟨⟨nofun, fun _ => (program.reported_collect.map _).symm⟩, ?_⟩
    intro output compiled
    rw [((program.compile_eq_ok_iff .collect output).mp compiled).1]
    rfl
  | first =>
    rw [logged_first, reported_first]
    constructor
    · constructor
      · intro told _
        cases met : program.moduleViolations with
        | nil => rfl
        | cons violation rest =>
          rw [violations, met] at told
          exact absurd told.length_eq (by simp)
      · intro undeclared
        rw [if_pos (undeclared rfl), map_entry_rejected]
    · intro output compiled
      rw [((program.compile_eq_ok_iff .first output).mp compiled).1]
      split <;> rfl

/-- An import on its own is reported in the first mode and leaves no trace in the log. -/
theorem Program.import_not_logged :
    ∃ program : Program,
      (program.compile .first).1 = .error (.policy [⟨.importDeclaration, ⟨0, 11⟩⟩]) ∧
      policyEvents (program.compile .first).2 = [] :=
  ⟨⟨[.moduleItem .importDeclaration ⟨0, 11⟩], ⟨0, 11⟩⟩, rfl, by decide⟩

end Template

end LogicFree
