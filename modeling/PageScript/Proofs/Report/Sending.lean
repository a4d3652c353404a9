import PageScript.Report

/-!
# Sending reports

A report adds its line at the end if lines are wanted and one more can be written, and leaves a
reporter as it is otherwise. A reporter that works (`Reporter.Works`) takes every line.

**What it does not establish.** When a line reaches the host: it counts as written when the writer
has taken it.
-/

namespace PageScript

/-- Whether a report is a line for the host. Progress among no steps is none. -/
def Report.isLine : Report → Bool
  | .progress _ 0 => false
  | _ => true

namespace Reporter

/-- Lines are wanted, and any number of them can be written. -/
def Works (r : Reporter) : Prop :=
  r.enabled = true ∧ r.writer.capacity = none

/-- Lines are wanted, and another one can be written. -/
def Accepts (r : Reporter) : Prop :=
  r.enabled = true ∧ r.writer.isOpen = true

/-- The reporter with another line. -/
def addLine (r : Reporter) (line : String) : Reporter :=
  { r with writer := { r.writer with written := r.writer.written ++ [line] } }

variable {r : Reporter} {report : Report}

theorem Works.accepts (works : r.Works) : r.Accepts := by
  refine ⟨works.1, ?_⟩
  rw [Writer.isOpen, works.2]

theorem Works.addLine (works : r.Works) (line : String) : (r.addLine line).Works :=
  works

/-- A reporter that accepts lines is sent a report by adding its line. -/
theorem send_of_accepts (line : report.isLine = true) (accepts : r.Accepts) :
    r.send report = .ok (r.addLine report.line) := by
  have wrote : r.writer.write report.line =
      .ok { r.writer with written := r.writer.written ++ [report.line] } := by
    rw [Writer.write, if_pos accepts.2]
  unfold send
  split
  · cases line
  · rw [if_pos accepts.1, wrote]
    rfl

/-- A report that is no line leaves a reporter as it is. -/
theorem send_of_not_isLine (none : report.isLine = false) : r.send report = .ok r := by
  unfold Report.isLine at none
  split at none
  · rfl
  · cases none

/-- What cannot be written is not wanted, or it fails. -/
theorem send_of_not_accepts (full : ¬ r.Accepts) :
    r.send report = .ok r ∨ ∃ trouble, r.send report = .error trouble := by
  unfold send
  split
  · exact .inl rfl
  split
  · rename_i enabled
    have closed : ¬ r.writer.isOpen = true := fun isOpen => full ⟨enabled, isOpen⟩
    refine .inr ⟨r.writer.trouble, ?_⟩
    rw [Writer.write, if_neg closed]
    rfl
  · exact .inl rfl

/-- The reporter after a report, whether its line could be written or not. -/
def after (r : Reporter) (report : Report) : Reporter :=
  match r.send report with
  | .ok r => r
  | .error _ => r

theorem after_of_accepts (line : report.isLine = true) (accepts : r.Accepts) :
    r.after report = r.addLine report.line := by
  rw [after, send_of_accepts line accepts]

theorem after_of_not_isLine (none : report.isLine = false) : r.after report = r := by
  rw [after, send_of_not_isLine none]

/-- A reporter that accepts no lines stays as it is. -/
theorem after_of_not_accepts (full : ¬ r.Accepts) : r.after report = r := by
  unfold after
  rcases send_of_not_accepts full with same | ⟨trouble, fails⟩
  · rw [same]
  · rw [fails]

end Reporter

end PageScript
