import PageScript.Proofs.Report.Sending
import PageScript.Proofs.Run.Computation

/-!
# Lines for the host are only told

A run tells the host how far it is and takes no notice of what becomes of that: whether lines are
wanted, and how many of them can be written, makes no difference to anything but the lines that are
there and the warnings in the log. A writer that stops working has the first of the lines that one
would have that does not (`Reporter.Trails`).

Two runs of the same steps in the same scene are compared. Their states are the same but for the
reporters and the logs (`RunState.Beside`), and a relation of the reporters that is kept by sending
both of them the same report holds after every step.

**What it does not establish.** A write of a line takes no time here, and a host that reads the
lines slowly is not told apart.
-/

namespace PageScript

open Run

/-! ## Reporters -/

namespace Reporter

/-- The lines of a reporter that may stop are the first of those of one that does not and of which
lines are wanted as well, and all of them as long as it accepts lines. -/
structure Trails (r r' : Reporter) : Prop where
  wanted : r.enabled = true → r'.enabled = true
  unlimited : r'.writer.capacity = none
  lines : r.writer.written <+: r'.writer.written
  all : r.Accepts → r.writer.written = r'.writer.written

/-- A relation of two reporters that sending both the same report keeps. -/
def KeptBySending (Q : Reporter → Reporter → Prop) : Prop :=
  ∀ r r' report, Q r r' → Q (r.after report) (r'.after report)

/-- Trailing is kept when both hosts are sent the same report. -/
theorem trails_keptBySending : KeptBySending Trails := by
  intro r r' report trails
  cases line : report.isLine with
  | false => rwa [after_of_not_isLine line, after_of_not_isLine line]
  | true =>
    by_cases enabled : r'.enabled = true
    · rw [after_of_accepts line (Works.accepts ⟨enabled, trails.unlimited⟩)]
      by_cases accepts : r.Accepts
      · rw [after_of_accepts line accepts]
        have same : (r.addLine report.line).writer.written =
            (r'.addLine report.line).writer.written :=
          congrArg (· ++ [report.line]) (trails.all accepts)
        exact ⟨trails.wanted, trails.unlimited, same ▸ List.prefix_rfl, fun _ => same⟩
      · rw [after_of_not_accepts accepts]
        exact ⟨trails.wanted, trails.unlimited, trails.lines.trans (List.prefix_append _ _),
          fun again => absurd again accepts⟩
    · -- Of neither are lines wanted.
      have closed : ¬ r.Accepts := fun accepts => enabled (trails.wanted accepts.1)
      rwa [after_of_not_accepts closed, after_of_not_accepts fun accepts => enabled accepts.1]

end Reporter

/-! ## States that differ in reporters and logs -/

namespace RunState

/-- The state without its reporter and its log. -/
def unreported (s : RunState) : RunState :=
  { s with reporter := ⟨false, .reliable⟩, log := [] }

/-- Nothing but the reporters and the logs tells two states apart, and the reporters stand in a
relation. -/
structure Beside (Q : Reporter → Reporter → Prop) (s t : RunState) : Prop where
  rest : s.unreported = t.unreported
  reporters : Q s.reporter t.reporter

/-- A change of states that does not depend on the reporter and the log, and leaves the reporter
alone. -/
structure Apart (f : RunState → RunState) : Prop where
  rest : ∀ s, (f s).unreported = (f s.unreported).unreported
  reporter : ∀ s, (f s).reporter = s.reporter

variable {Q : Reporter → Reporter → Prop} {s t : RunState}

/-- A change that looks neither at the reporter nor at the log keeps states beside each other. -/
theorem Beside.congr (h : Beside Q s t) {f : RunState → RunState} (apart : Apart f) :
    Beside Q (f s) (f t) := by
  refine ⟨?_, ?_⟩
  · rw [apart.rest, apart.rest t, h.rest]
  · rw [apart.reporter, apart.reporter]
    exact h.reporters

/-- A call keeps states beside each other. -/
theorem Beside.addCall (h : Beside Q s t) (call : Call) :
    Beside Q (s.addCall call) (t.addCall call) :=
  h.congr (f := fun s => s.addCall call) ⟨fun _ => rfl, fun _ => rfl⟩

/-- What is no matter of the reporter and the log is the same. -/
theorem Beside.view (h : Beside Q s t) {α : Type} {view : RunState → α}
    (rest : ∀ s, view s.unreported = view s) : view s = view t := by
  rw [← rest, h.rest, rest]

/-- States beside each other have the same history. -/
theorem Beside.history (h : Beside Q s t) : s.history = t.history :=
  h.view fun _ => rfl

/-- Being beside each other is a way in which runs can be compared. -/
theorem Beside.recalling : Recalling (Beside Q) where
  history h := h.history
  called call ms h :=
    h.congr (f := fun s => (s.addCall (.page call)).later ms) ⟨fun _ => rfl, fun _ => rfl⟩

/-- A change that looks neither at the reporter nor at the log is made alike. -/
theorem Apart.modify {f : RunState → RunState} (apart : Apart f) :
    Alike (Beside Q) (modify f) (modify f) :=
  alike_modify fun _ _ h => h.congr apart

end RunState

open RunState (Beside)

/-- An assistant takes no notice of the lines for the host and of the log, and does nothing to the
reporter: whatever is known of the reporters of two runs stays so. -/
structure Assistant.Detached (a : Assistant) : Prop where
  act : ∀ Q vars instruction timeout,
    Alike (Beside Q) (a.act vars instruction timeout) (a.act vars instruction timeout)
  extract : ∀ Q instruction timeout,
    Alike (Beside Q) (a.extract instruction timeout) (a.extract instruction timeout)

section Beside

variable {Q : Reporter → Reporter → Prop} {scene : Scene}

/-- An assistant that only answers takes no notice of the lines for the host. -/
theorem Assistant.answering_detached (act : History → Except Failure (Option ActOutcome))
    (extract : History → Except Failure (Option Json)) : (answering act extract).Detached where
  act Q vars instruction timeout s t h := by
    simp only [answering, outcome_respond, left_respond, h.history]
    exact ⟨trivial, h.addCall _⟩
  extract Q instruction timeout s t h := by
    simp only [answering, outcome_respond, left_respond, h.history]
    exact ⟨trivial, h.addCall _⟩

/-! ## Runs -/

/-- A line of the log is noted alike. -/
theorem note_beside (line : LogLine) : Alike (Beside Q) (note line) (note line) :=
  RunState.Apart.modify ⟨fun _ => rfl, fun _ => rfl⟩

/-- Telling how far a run is succeeds whether the line could be written or not. -/
theorem progress_eq_ok (done total : Nat) (s : RunState) :
    ∃ lines, progress done total s =
      .ok ()
        { s with
          milestones := s.milestones ++ [.reported (.progress done total)]
          reporter := s.reporter.after (.progress done total)
          log := s.log ++ lines } := by
  cases sent : s.reporter.send (.progress done total) with
  | ok reporter =>
    refine ⟨[], ?_⟩
    have first : send (.progress done total) s = .ok none
        { s with
          milestones := s.milestones ++ [.reported (.progress done total)]
          reporter := reporter } := by
      simp only [send, sent]
    rw [progress, bind_of_ok first, Reporter.after, sent, List.append_nil]
    rfl
  | error trouble =>
    refine ⟨[.warning ("failed to report progress: " ++ trouble)], ?_⟩
    have first : send (.progress done total) s = .ok (some trouble)
        { s with milestones := s.milestones ++ [.reported (.progress done total)] } := by
      simp only [send, sent]
    rw [progress, bind_of_ok first, Reporter.after, sent]
    rfl

/-- A progress line is sent alike. -/
theorem progress_beside (kept : Reporter.KeptBySending Q) (done total : Nat) :
    Alike (Beside Q) (progress done total) (progress done total) := by
  intro s t h
  obtain ⟨lines, here⟩ := progress_eq_ok done total s
  obtain ⟨lines', there⟩ := progress_eq_ok done total t
  rw [here, there]
  refine ⟨rfl, ?_, kept _ _ _ h.reporters⟩
  exact congrArg
    (fun s : RunState =>
      { s with milestones := s.milestones ++ [Milestone.reported (.progress done total)] }) h.rest

/-- An effect goes the same way in both runs. -/
theorem Effect.run_beside (detached : scene.assistant.Detached) (e : Effect) :
    Alike (Beside Q) (e.run scene) (e.run scene) := by
  cases e with
  | onPage call => exact (scene.page.ask_alike call Beside.recalling).bind fun _ => alike_pure ()
  | evaluate written filled =>
    exact (scene.page.ask_alike _ Beside.recalling).bind fun _ =>
      RunState.Apart.modify ⟨fun _ => rfl, fun _ => rfl⟩
  | act instruction timeout =>
    refine (detached.act Q _ _ _).bind fun outcome => ?_
    cases Effect.judge instruction outcome with
    | ok _ => exact alike_pure ()
    | error e => exact alike_throw e
  | extract instruction timeout =>
    refine (detached.extract Q _ _).bind fun found => ?_
    cases found with
    | some value => exact RunState.Apart.modify ⟨fun _ => rfl, fun _ => rfl⟩
    | none => exact alike_throw _
  | capture rule =>
    intro s t h
    simp only [Effect.run, Effect.register]
    cases scene.observed with
    | true => exact ⟨rfl, h.congr (f := fun s => s.addRule rule) ⟨fun _ => rfl, fun _ => rfl⟩⟩
    | false => exact ⟨rfl, h⟩
  | pause ms => exact RunState.Apart.modify ⟨fun _ => rfl, fun _ => rfl⟩

/-- A step goes the same way in both runs. -/
theorem Step.run_beside (detached : scene.assistant.Detached) (s : Step) :
    Alike (Beside Q) (s.run scene) (s.run scene) := by
  unfold Step.run
  split
  · exact Effect.run_beside detached _
  · exact alike_pure ()
  · exact alike_throw _

/-- Runs of the same steps differ in nothing but reporters and logs, and the reporters stand in any
relation that they stood in before and that sending the same reports keeps. -/
theorem steps_beside (detached : scene.assistant.Detached) (kept : Reporter.KeptBySending Q)
    (all : List Step) : Alike (Beside Q) (steps scene all) (steps scene all) := by
  unfold steps
  split
  · exact alike_throw _
  · exact stepsFrom_alike note_beside (fun done => progress_beside kept done _)
      (RunState.Apart.modify ⟨fun _ => rfl, fun _ => rfl⟩) all
      (fun s _ => s.run_beside detached) 0

end Beside

end PageScript
