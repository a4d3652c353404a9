import Mathlib.Data.List.Basic
import PageScript.Proofs.Report.Sending
import PageScript.Proofs.Run.Computation

/-!
# Runs stop at the first failure

A run goes through its steps one at a time, each from the state that the step before it left.
`attempts` lists the steps that are run, each with the state in which it begins. The calls of a run
are the calls of its attempts one after the other (`stepsFrom_calls`), and either every step is
attempted and succeeds, or the last attempt is the first that fails and the run ends with its
failure in the state it left (`completes_or_stops`).

Both cases say which progress lines were written: one for each step that succeeded. The lines are
only promised to a host that wants them, through a writer that has room for them all.

**What it does not establish.** Which steps succeed is left to the page and the assistant; an
assistant is assumed to add calls and to leave rules, output and reporter alone.
-/

namespace PageScript

/-! ## Calls of a step -/

/-- The calls of an effect that is run in a state, with their times: the page call that it consists
of, at the time of the state, or the calls that the assistant has added when it is done. -/
def Effect.calls (scene : Scene) (s : RunState) : Effect → List (Nat × Call)
  | .onPage call => [(s.now, .page call)]
  | .evaluate _ filled => [(s.now, .page (.evaluate filled))]
  | .act instruction timeout =>
    (Run.left (scene.assistant.act scene.vars instruction timeout s)).calls.drop s.calls.length
  | .extract instruction timeout =>
    (Run.left (scene.assistant.extract instruction timeout s)).calls.drop s.calls.length
  | .capture _ => []
  | .pause _ => []

/-- The calls of a step that is run in a state: those of its effect. A step that fails its checks
has no calls, and one of unknown kind neither. -/
def Step.calls (scene : Scene) (s : RunState) (step : Step) : List (Nat × Call) :=
  match step.effect scene.settings scene.vars with
  | .ok (some effect) => effect.calls scene s
  | .ok none => []
  | .error _ => []

/-- A step that is run, with the state in which it begins. -/
structure Attempt where
  step : Step
  begins : RunState

namespace Attempt

/-- How the step of an attempt ends, run from the state in which the attempt begins. -/
def result (scene : Scene) (a : Attempt) : EStateM.Result Failure RunState Unit :=
  a.step.run scene a.begins

/-- The calls of an attempt, each with the time of its making. -/
def calls (scene : Scene) (a : Attempt) : List (Nat × Call) :=
  a.step.calls scene a.begins

/-- The step of an attempt ends without an error. -/
def Succeeds (scene : Scene) (a : Attempt) : Prop :=
  ∃ t, a.result scene = .ok () t

end Attempt

/-- The attempt at a step from a state: the step begins when the line that announces it is in the
log. -/
def Run.announced (number total : Nat) (step : Step) (s : RunState) : Attempt :=
  ⟨step, s.addLog [step.announcement number total]⟩

/-- The attempts of a run that has done some steps and goes through a list of others: each begins in
the state that the one before it left, and after one that fails there is none. -/
def Run.attempts (scene : Scene) (total : Nat) : Nat → List Step → RunState → List Attempt
  | _, [], _ => []
  | done, step :: rest, s =>
    announced (done + 1) total step s ::
      match Run.step scene (done + 1) total step s with
      | .ok _ after => attempts scene total (done + 1) rest after
      | .error _ _ => []

/-! ## Lines for the host -/

/-- The progress lines of so many steps, the first of them with the number after those done. -/
def progressLines (total done count : Nat) : List String :=
  (List.range' (done + 1) count).map fun k => (Report.progress k total).line

/-- The host wants lines, and its writer takes so many more. -/
structure Reporter.Takes (r : Reporter) (count : Nat) : Prop where
  enabled : r.enabled = true
  room : ∀ n, r.writer.capacity = some n → r.writer.written.length + count ≤ n

namespace Reporter

/-- From one reporter to another a progress line was written, if the writer took one more at all,
and it takes one line less afterwards. -/
def Told (r : Reporter) (number total : Nat) (r' : Reporter) : Prop :=
  total ≠ 0 → ∀ count, r.Takes (count + 1) →
    r'.Takes count ∧
      r'.writer.written = r.writer.written ++ [(Report.progress number total).line]

/-- Who has room for at least one line accepts lines. -/
theorem Takes.accepts {r : Reporter} {count : Nat} (takes : r.Takes (count + 1)) :
    r.Accepts := by
  refine ⟨takes.enabled, ?_⟩
  unfold Writer.isOpen
  cases capacity : r.writer.capacity with
  | none => rfl
  | some c =>
    have := takes.room c capacity
    simp only [decide_eq_true_eq]
    omega

/-- A progress line is written where the writer takes one more. -/
theorem Takes.send {r : Reporter} {count : Nat} (takes : r.Takes (count + 1)) (done : Nat)
    {total : Nat} (some : total ≠ 0) :
    ∃ r', r.send (.progress done total) = .ok r' ∧ r'.Takes count ∧
      r'.writer.written = r.writer.written ++ [(Report.progress done total).line] := by
  obtain ⟨n, rfl⟩ := Nat.exists_eq_succ_of_ne_zero some
  refine ⟨_, send_of_accepts rfl takes.accepts, ⟨takes.enabled, ?_⟩, rfl⟩
  intro c capacity
  have := takes.room c capacity
  simp only [addLine, List.length_append, List.length_singleton]
  omega

end Reporter

/-- From one state to another a progress line may have been written and time passed, but calls,
rules and output are the same. -/
structure RunState.OnlyTold (s t : RunState) : Prop where
  calls : t.calls = s.calls
  rules : t.rules = s.rules
  output : t.output = s.output

namespace Run

/-- `progress` never fails, leaves calls, rules and output alone, and writes its line where the
writer takes one more. -/
theorem progress_ok (done total : Nat) (s : RunState) :
    ∃ t, progress done total s = .ok () t ∧ s.OnlyTold t ∧
      s.reporter.Told done total t.reporter := by
  let report := Report.progress done total
  let marked := { s with milestones := s.milestones ++ [Milestone.reported report] }
  cases sent : s.reporter.send report with
  | ok reporter =>
    have step : send report s = .ok none { marked with reporter := reporter } := by
      simp only [send, sent, marked]
    refine ⟨_, bind_of_ok step _, ⟨rfl, rfl, rfl⟩, fun some count takes => ?_⟩
    obtain ⟨_, sent', room, written⟩ := takes.send done some
    obtain rfl := Except.ok.inj (sent.symm.trans sent')
    exact ⟨room, written⟩
  | error trouble =>
    have step : send report s = .ok (some trouble) marked := by
      simp only [send, sent, marked]
    refine ⟨_, bind_of_ok step _, ⟨rfl, rfl, rfl⟩, fun some count takes => ?_⟩
    obtain ⟨_, sent', -⟩ := takes.send done some
    cases sent.symm.trans sent'

end Run

/-! ## What a step adds -/

/-- From one state to another these calls were added, and the reporter is the same: no line was
written for the host. -/
structure RunState.Adds (s : RunState) (calls : List (Nat × Call)) (t : RunState) : Prop where
  calls : t.calls = s.calls ++ calls
  reporter : t.reporter = s.reporter

/-- A step without calls adds none to a state. -/
theorem RunState.adds_none (s : RunState) : s.Adds [] s :=
  ⟨(List.append_nil _).symm, rfl⟩

/-- The calls of an `act` effect are those that the assistant added to the calls before. -/
theorem Effect.calls_act {scene : Scene} (outward : scene.assistant.Outward) (instruction : String)
    (timeout : Nat) (s : RunState) :
    (Run.left (scene.assistant.act scene.vars instruction timeout s)).calls =
      s.calls ++ (act instruction timeout).calls scene s :=
  (List.prefix_iff_eq_append.mp (outward.act scene.vars instruction timeout s).calls).symm

/-- The calls of an `extract` effect are those that the assistant added to the calls before. -/
theorem Effect.calls_extract {scene : Scene} (outward : scene.assistant.Outward)
    (instruction : String) (timeout : Nat) (s : RunState) :
    (Run.left (scene.assistant.extract instruction timeout s)).calls =
      s.calls ++ (extract instruction timeout).calls scene s :=
  (List.prefix_iff_eq_append.mp (outward.extract instruction timeout s).calls).symm

/-- However an effect ends, it has added its calls and written no line for the host. -/
theorem Effect.run_adds {scene : Scene} (outward : scene.assistant.Outward) (e : Effect)
    (s : RunState) : s.Adds (e.calls scene s) (Run.left (e.run scene s)) := by
  cases e with
  | onPage call =>
    refine Run.left_bind (P := s.Adds _) ?_ fun _ _ added => added
    rw [Page.left_ask]
    exact ⟨rfl, rfl⟩
  | evaluate written filled =>
    refine Run.left_bind (P := s.Adds _) ?_ fun _ _ added => ⟨added.calls, added.reporter⟩
    rw [Page.left_ask]
    exact ⟨rfl, rfl⟩
  | act instruction timeout =>
    refine Run.left_bind (P := s.Adds _) ?_ fun outcome _ added => ?_
    · exact ⟨calls_act outward instruction timeout s,
        (outward.act scene.vars instruction timeout s).reporter⟩
    · cases Effect.judge instruction outcome <;> exact added
  | extract instruction timeout =>
    refine Run.left_bind (P := s.Adds _) ?_ fun found _ added => ?_
    · exact ⟨calls_extract outward instruction timeout s,
        (outward.extract instruction timeout s).reporter⟩
    · cases found <;> exact ⟨added.calls, added.reporter⟩
  | capture rule =>
    simp only [Effect.run, Effect.calls, Effect.register]
    cases scene.observed <;> exact ⟨(List.append_nil _).symm, rfl⟩
  | pause ms => exact ⟨(List.append_nil _).symm, rfl⟩

/-- A step adds to the calls of a state the calls that it is said to make, and no others. -/
theorem Step.run_adds {scene : Scene} (outward : scene.assistant.Outward) (step : Step)
    (s : RunState) : s.Adds (step.calls scene s) (Run.left (step.run scene s)) := by
  unfold Step.run Step.calls
  cases step.effect scene.settings scene.vars with
  | error e => exact s.adds_none
  | ok effect =>
    cases effect with
    | none => exact s.adds_none
    | some e => exact e.run_adds outward s

/-- However an attempt ends, it has added its calls and written no line for the host. -/
theorem Attempt.adds {scene : Scene} (outward : scene.assistant.Outward) {a : Attempt}
    {t : RunState} (ends : Run.left (a.result scene) = t) : a.begins.Adds (a.calls scene) t :=
  ends ▸ a.step.run_adds outward a.begins

/-! ## One step of a run -/

namespace Run

section Steps

variable {scene : Scene} {total number : Nat} {step : Step} {s t : RunState}

/-- After a step that fails no progress line is written and no step delay is waited. -/
theorem step_of_error {e : Failure}
    (fails : (announced number total step s).result scene = .error e t) :
    Run.step scene number total step s = .error e t :=
  bind_of_error fails _

/-- After a step that succeeds its progress line is written, where the writer takes one more, and
the step delay is waited. -/
theorem step_of_ok (succeeds : (announced number total step s).result scene = .ok () t) :
    ∃ u, Run.step scene number total step s = .ok () u ∧ t.OnlyTold u ∧
      t.reporter.Told number total u.reporter := by
  obtain ⟨u, told, only, lines⟩ := progress_ok number total t
  refine ⟨u.later scene.settings.stepDelay, ?_, ⟨only.calls, only.rules, only.output⟩, lines⟩
  exact (bind_of_ok succeeds _).trans (bind_of_ok told _)

/-! ## Whole runs -/

/-- A run that succeeds: the attempts are all its steps, each succeeds, and there is a progress line
for each. -/
structure Completes (scene : Scene) (total done : Nat) (all : List Step) (s : RunState) :
    Prop where
  result : outcome (stepsFrom scene total done all s) = .ok ()
  tries : (attempts scene total done all s).map (·.step) = all
  succeed : ∀ a ∈ attempts scene total done all s, a.Succeeds scene
  told : total ≠ 0 → s.reporter.Takes all.length →
    (left (stepsFrom scene total done all s)).reporter.writer.written =
      s.reporter.writer.written ++ progressLines total done all.length

/-- A run that fails: the attempts are steps that succeed, with a progress line for each, and then
the failing one, whose failure and state the run ends with, whatever steps there are after it. -/
structure Stops (scene : Scene) (total done : Nat) (all : List Step) (s : RunState)
    (before : List Attempt) (failing : Attempt) (rest : List Step) : Prop where
  parts : all = before.map (·.step) ++ failing.step :: rest
  tries : attempts scene total done all s = before ++ [failing]
  succeed : ∀ a ∈ before, a.Succeeds scene
  fails : ∃ e t, failing.result scene = .error e t
  result : ∀ others,
    stepsFrom scene total done (before.map (·.step) ++ failing.step :: others) s =
      failing.result scene
  told : total ≠ 0 → s.reporter.Takes all.length →
    (left (failing.result scene)).reporter.writer.written =
      s.reporter.writer.written ++ progressLines total done before.length

/-- Steps whose first one fails fail with it, in the state it leaves. -/
theorem stepsFrom_cons_of_error {done : Nat} {rest : List Step} {e : Failure}
    (fails : (announced (done + 1) total step s).result scene = .error e t) :
    stepsFrom scene total done (step :: rest) s = .error e t :=
  bind_of_error (step_of_error fails) _

/-- Steps whose first one succeeds, with its pause and its progress line, go on from the state left.
-/
theorem stepsFrom_cons_of_ok {done : Nat} {rest : List Step} {u : RunState}
    (stepped : Run.step scene (done + 1) total step s = .ok () u) :
    stepsFrom scene total done (step :: rest) s = stepsFrom scene total (done + 1) rest u :=
  bind_of_ok stepped _

/-- Of steps whose first one fails, only that one is attempted. -/
theorem attempts_cons_of_error {done : Nat} {rest : List Step} {e : Failure}
    (fails : (announced (done + 1) total step s).result scene = .error e t) :
    attempts scene total done (step :: rest) s = [announced (done + 1) total step s] := by
  rw [attempts, step_of_error fails]

/-- Of steps whose first one succeeds, that one is attempted and then the rest. -/
theorem attempts_cons_of_ok {done : Nat} {rest : List Step} {u : RunState}
    (stepped : Run.step scene (done + 1) total step s = .ok () u) :
    attempts scene total done (step :: rest) s =
      announced (done + 1) total step s :: attempts scene total (done + 1) rest u := by
  rw [attempts, stepped]

/-- Progress lines are written from the next step on, one after the other. -/
theorem progressLines_succ (total done count : Nat) :
    progressLines total done (count + 1) =
      (Report.progress (done + 1) total).line :: progressLines total (done + 1) count := by
  rw [progressLines, List.range'_succ, List.map_cons, progressLines]

/-- The calls of a run are the calls of its attempts, one after the other. -/
theorem stepsFrom_calls (outward : scene.assistant.Outward) (all : List Step) (done : Nat)
    (s : RunState) :
    (left (stepsFrom scene total done all s)).calls =
      s.calls ++ (attempts scene total done all s).flatMap (·.calls scene) := by
  induction all generalizing done s with
  | nil => exact (List.append_nil _).symm
  | cons step rest ih =>
    cases ends : (announced (done + 1) total step s).result scene with
    | error e t =>
      rw [stepsFrom_cons_of_error ends, attempts_cons_of_error ends, List.flatMap_singleton]
      exact (Attempt.adds outward (congrArg left ends)).calls
    | ok _ t =>
      have added : (announced (done + 1) total step s).begins.Adds _ t :=
        Attempt.adds outward (congrArg left ends)
      obtain ⟨u, stepped, only, -⟩ := step_of_ok ends
      rw [stepsFrom_cons_of_ok stepped, attempts_cons_of_ok stepped, List.flatMap_cons, ih,
        only.calls, added.calls, List.append_assoc]
      rfl

/-- Nothing is left to do where no steps are left. -/
theorem completes_nil (done : Nat) (s : RunState) : Completes scene total done [] s where
  result := rfl
  tries := rfl
  succeed := fun _ mem => nomatch mem
  told := fun _ _ => (List.append_nil _).symm

/-- A step that fails stops a run that begins with it. -/
theorem stops_of_error (outward : scene.assistant.Outward) {done : Nat} {e : Failure}
    (fails : (announced (done + 1) total step s).result scene = .error e t) (rest : List Step) :
    Stops scene total done (step :: rest) s [] (announced (done + 1) total step s) rest where
  parts := rfl
  tries := attempts_cons_of_error fails
  succeed := fun _ mem => nomatch mem
  fails := ⟨e, t, fails⟩
  result := fun others => (stepsFrom_cons_of_error fails).trans fails.symm
  told := fun _ _ => by
    rw [fails]
    show t.reporter.writer.written = _ ++ []
    have quiet : t.reporter = s.reporter := (Attempt.adds outward (congrArg left fails)).reporter
    rw [quiet, List.append_nil]

section Cons

variable {done : Nat} {rest : List Step} {u : RunState}

/-- A first step that succeeds, before steps that all do. -/
theorem Completes.cons
    (succeeds : (announced (done + 1) total step s).Succeeds scene)
    (stepped : Run.step scene (done + 1) total step s = .ok () u)
    (told : s.reporter.Told (done + 1) total u.reporter)
    (later : Completes scene total (done + 1) rest u) :
    Completes scene total done (step :: rest) s where
  result := by rw [stepsFrom_cons_of_ok stepped, later.result]
  tries := by
    rw [attempts_cons_of_ok stepped, List.map_cons, later.tries]
    rfl
  succeed := by
    rw [attempts_cons_of_ok stepped]
    exact List.forall_mem_cons.mpr ⟨succeeds, later.succeed⟩
  told := fun some takes => by
    obtain ⟨room, written⟩ := told some _ takes
    rw [stepsFrom_cons_of_ok stepped, later.told some room, written, List.length_cons,
      progressLines_succ, List.append_assoc, List.singleton_append]

/-- A first step that succeeds, before steps of which one fails. -/
theorem Stops.cons {before : List Attempt} {failing : Attempt} {last : List Step}
    (succeeds : (announced (done + 1) total step s).Succeeds scene)
    (stepped : Run.step scene (done + 1) total step s = .ok () u)
    (told : s.reporter.Told (done + 1) total u.reporter)
    (later : Stops scene total (done + 1) rest u before failing last) :
    Stops scene total done (step :: rest) s (announced (done + 1) total step s :: before) failing
      last where
  parts := by
    rw [later.parts]
    rfl
  tries := by rw [attempts_cons_of_ok stepped, later.tries, List.cons_append]
  succeed := List.forall_mem_cons.mpr ⟨succeeds, later.succeed⟩
  fails := later.fails
  result := fun others => (stepsFrom_cons_of_ok stepped).trans (later.result others)
  told := fun some takes => by
    obtain ⟨room, written⟩ := told some _ takes
    rw [later.told some room, written, List.length_cons, progressLines_succ, List.append_assoc,
      List.singleton_append]

end Cons

/-- A run either succeeds with all its steps or stops at the first that fails. -/
theorem completes_or_stops (outward : scene.assistant.Outward) (all : List Step) (done : Nat)
    (s : RunState) :
    Completes scene total done all s ∨
      ∃ before failing rest, Stops scene total done all s before failing rest := by
  -- Along the steps, from whatever state the one before left: the first that fails decides.
  induction all generalizing done s with
  | nil => exact .inl (completes_nil done s)
  | cons step rest ih =>
    cases ends : (announced (done + 1) total step s).result scene with
    | error e t => exact .inr ⟨_, _, _, stops_of_error outward ends rest⟩
    | ok _ t =>
      obtain ⟨u, stepped, -, told⟩ := step_of_ok ends
      -- The step itself wrote no line, so the room is still what it was before it.
      have quiet : t.reporter = s.reporter := (Attempt.adds outward (congrArg left ends)).reporter
      rw [quiet] at told
      rcases ih (done + 1) u with later | ⟨before, failing, last, later⟩
      · exact .inl (later.cons ⟨t, ends⟩ stepped told)
      · exact .inr ⟨_, _, _, later.cons ⟨t, ends⟩ stepped told⟩

end Steps

end Run

/-! ## Assistants that only answer -/

section Answering

variable {scene : Scene} {act : History → Except Failure (Option ActOutcome)}
  {extract : History → Except Failure (Option Json)}

/-- The one call of an effect, if it has one and the assistant only answers. -/
def Effect.call? (vars : Variables) : Effect → Option Call
  | .onPage call => some (.page call)
  | .evaluate _ filled => some (.page (.evaluate filled))
  | .act instruction timeout =>
    some (.act instruction timeout (vars.referencedNames instruction))
  | .extract instruction timeout => some (.extract instruction timeout)
  | .capture _ => none
  | .pause _ => none

/-- The one call of a step, if it has one and the assistant only answers. -/
def Step.call? (settings : Settings) (vars : Variables) (step : Step) : Option Call :=
  match step.effect settings vars with
  | .ok effect => effect.bind (·.call? vars)
  | .error _ => none

/-- With an assistant that only answers, an effect makes its one call at the moment it begins. -/
theorem Effect.calls_answering (answers : scene.assistant = .answering act extract)
    (s : RunState) (e : Effect) :
    e.calls scene s = ((e.call? scene.vars).map fun call => (s.now, call)).toList := by
  cases e <;>
    simp only [Effect.calls, Effect.call?, answers, Assistant.answering, Assistant.left_respond,
      RunState.addCall, List.drop_left, Option.map_some, Option.map_none, Option.toList_some,
      Option.toList_none]

/-- With an assistant that only answers, which call a step makes is decided before it begins. -/
theorem Step.calls_answering (answers : scene.assistant = .answering act extract) (s : RunState)
    (step : Step) :
    step.calls scene s =
      ((step.call? scene.settings scene.vars).map fun call => (s.now, call)).toList := by
  unfold Step.calls Step.call?
  cases step.effect scene.settings scene.vars with
  | error e => rfl
  | ok effect =>
    cases effect with
    | none => rfl
    | some e => exact e.calls_answering answers s

/-- With an assistant that only answers, the calls of a run are the calls of the steps it came to,
of each step at most one. -/
theorem Run.stepsFrom_calls_answering (answers : scene.assistant = .answering act extract)
    (total done : Nat) (all : List Step) (s : RunState) :
    (left (stepsFrom scene total done all s)).calls.map (·.2) =
      s.calls.map (·.2) ++
        (attempts scene total done all s).filterMap fun a =>
          a.step.call? scene.settings scene.vars := by
  have outward : scene.assistant.Outward := answers ▸ Assistant.answering_outward act extract
  rw [stepsFrom_calls outward, List.map_append, List.map_flatMap, List.filterMap_eq_flatMap_toList]
  congr 2
  ext a : 1
  rw [Attempt.calls, Step.calls_answering answers]
  cases a.step.call? scene.settings scene.vars <;> rfl

end Answering

end PageScript
