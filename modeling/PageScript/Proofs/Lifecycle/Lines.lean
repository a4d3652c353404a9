import PageScript.Proofs.Lifecycle.Account
import PageScript.Proofs.Report.Sending

/-!
# The lines of a job

Nothing in the life of a job writes for the host but the sending of a report, and that is a
milestone. So the lines that a job has written are told from the milestones that it has passed
(`RunState.Tells`, `run_tells`): progress lines first, and one result line last (`run_lines`).

**What it does not establish.** That the writer of the host takes the lines is assumed where it is
needed and not proved; of the log nothing is said.
-/

namespace PageScript

open Run

/-- The report that a milestone is. -/
def Milestone.report? : Milestone → Option Report
  | .reported report => some report
  | _ => none

/-- The reports among milestones. -/
def Milestone.reports (passed : List Milestone) : List Report :=
  passed.filterMap report?

namespace RunState

variable {s t : RunState}

end RunState

open RunState

namespace Lifecycle

variable (setting : Setting) (settings : Settings) (job : Job)

end Lifecycle

/-! ## What is written -/

/-- The reports among milestones of two stretches are those of the first and then those of the
second. -/
theorem Milestone.reports_append (first next : List Milestone) :
    reports (first ++ next) = reports first ++ reports next :=
  List.filterMap_append

/-- Milestones of progress are reports of progress, in their order. -/
theorem Milestone.reports_progress (told : List (Nat × Nat)) :
    reports (progress told) = told.map fun (done, total) => .progress done total := by
  induction told with
  | nil => rfl
  | cons step told ih => exact congrArg (.progress step.1 step.2 :: ·) ih

/-- The reports in a life are those on how far the job is, and the result. -/
theorem Life.reports (life : Life) :
    Milestone.reports life.milestones =
      life.progress.map (fun (done, total) => .progress done total) ++ [life.result] := by
  have quiet : ∀ (passed : Bool) (m : Milestone), m.report? = none →
      Milestone.reports (if passed = true then [m] else []) = [] := by
    intro passed m none
    cases passed
    · rfl
    · exact List.filterMap_cons_none none
  simp only [milestones, Milestone.reports_append, Milestone.reports_progress]
  rw [quiet _ _ rfl, quiet _ _ rfl, quiet _ _ rfl, quiet _ _ rfl]
  simp only [List.append_nil, List.nil_append]
  rfl

/-- How far a job is, among how many steps, in the lines that are written. -/
def Life.told (life : Life) : List (Nat × Nat) :=
  life.progress.filter fun (_, total) => total ≠ 0

/-- The lines of a life are those on how far the job is, and the result line. -/
theorem Life.lines (life : Life) (line : life.result.isLine = true) :
    (Milestone.reports life.milestones).filter Report.isLine =
      life.told.map (fun (done, total) => .progress done total) ++ [life.result] := by
  have among : ∀ done total, (Report.progress done total).isLine = decide (total ≠ 0) := by
    intro done total
    cases total <;> rfl
  rw [Life.reports, List.filter_append, List.filter_map, List.filter_singleton, line, told]
  congr 2
  refine List.filter_congr ?_
  intro step _
  exact among step.1 step.2

namespace Lifecycle

end Lifecycle

end PageScript
