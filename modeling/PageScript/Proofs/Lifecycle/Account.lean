import PageScript.Proofs.Lifecycle.Ending
import PageScript.Proofs.Lifecycle.Opening

/-!
# The life of a job, from its stages

What happens in the life of a job, and in which order, is decided by how its stages turn out. A
`Life` is the most that can happen; `job_life` says which of it does, for all settings and jobs:
whatever was opened is shut once, what was seen until then is taken over once, and one result line
is told last, with the exit code.

**What it does not establish.** How the stages turn out is left to files, browser and model; that
each of them ends is assumed by giving it an outcome.
-/

namespace PageScript

/-- What happened in the life of a job. -/
structure Life where
  launched : Bool
  /-- How many steps of how many were told to be done, first line first. -/
  progress : List (Nat × Nat)
  observed : Bool
  archived : Bool
  result : Report

/-- What happened, first thing first. -/
def Life.milestones (life : Life) : List Milestone :=
  (if life.launched then [.launched] else [])
    ++ Milestone.progress life.progress
    ++ (if life.observed then [.tookCaptures] else [])
    ++ (if life.launched then [.shutDown] else [])
    ++ (if life.archived then [.archived] else [])
    ++ [.reported life.result]

/-- The state of a run that is about to begin, among files that are there already. -/
def RunState.beginning (reporter : Reporter) (files : FileTree) : RunState :=
  { RunState.initial reporter with files := files }

namespace Lifecycle

open Run

variable (setting : Setting) (job : Job) (s : RunState)

/-- All stages at which a job can fail go well: the session opens, the steps succeed, and the
browser closes. -/
structure Succeeds : Prop where
  opens : Opens setting job s.files
  steps : ∃ all opened begun done,
    openSession setting job s = .ok all opened ∧
      tryRecord setting job.settings.video opened = .ok () begun ∧
      Run.steps (scene setting job.settings) all begun = .ok () done ∧
      setting.browser.close done.history = .ok ()

theorem verdict_eq_ok : verdict setting job s = .ok () ↔ Succeeds setting job s := by
  unfold verdict
  constructor
  · intro ends
    cases executed : execute setting job s with
    | error e t =>
      rw [executed] at ends
      cases ends
    | ok _ t =>
      rw [executed] at ends
      rw [execute_eq] at executed
      obtain ⟨all, opened, opens, rest⟩ := bind_eq_ok.mp executed
      obtain ⟨_, begun, tries, steps⟩ := bind_eq_ok.mp rest
      have turns := turns_openSession setting job s
      rw [Turns, opens] at turns
      exact ⟨turns.1, all, opened, begun, t, opens, tries, steps, ends⟩
  · rintro ⟨-, all, opened, begun, done, opens, tries, steps, closes⟩
    have executed : execute setting job s = .ok () done := by
      rw [execute_eq, bind_of_ok opens, bind_of_ok tries, steps]
    rw [executed]
    exact closes

/-- The life that a job has had from one state to another, and the exit code that it gives. -/
structure HasLife (life : Life) (code : Nat) (t : RunState) : Prop where
  milestones : t.milestones = life.milestones
  /-- No session is left open. -/
  session : t.session = none
  launched : life.launched = true ↔ Launches setting job s.files
  observed : life.observed = true ↔ Opens setting job s.files
  captures : t.output.captures =
    if life.observed then (setting.browser.observation t.history).captures else []
  archived : life.archived = job.settings.aiLogInference
  success : Succeeds setting job s → code = 0 ∧ life.result = .result 0 "Success" t.output
  failure : ¬ Succeeds setting job s →
    ∃ e, verdict setting job s = .error e ∧ code = 1 ∧
      life.result = .result 1 e.message t.output

/-- The milestones of the end of a job are those of its life. -/
theorem milestones_of_ends {opened : Option Session} {told : List (Nat × Nat)} {t u : RunState}
    {settings : Settings} {applied : Bool} {report : Output → Report}
    (reaches : s.Reaches opened told t) (fresh : s.milestones = [])
    (ends : t.Ends setting settings applied report u) :
    u.milestones = Life.milestones
      ⟨opened.isSome, told, opened.any (·.observed), settings.aiLogInference,
        report u.output⟩ := by
  rw [ends.milestones, reaches.session, reaches.milestones, fresh, Settings.archiving]
  cases opened with
  | none => simp [Life.milestones]
  | some session => simp [Life.milestones, Session.ending]

/-- Every job runs to its end, whatever its stages come to. The browser is shut down once if it was
started, what the observer has seen is taken over once if there is one, the inference log is packed
once after that if it is kept, and one result line is told last. It says that all went well, with
the exit code, exactly if it did. -/
theorem job_life (reporter : Reporter) (files : FileTree) :
    ∃ life code t, run setting job (.beginning reporter files) = .ok code t ∧
      HasLife setting job (.beginning reporter files) life code t := by
  let s := RunState.beginning reporter files
  obtain ⟨opened, told, reaches, launched, observed, succeeds⟩ :=
    execute_reaches setting job (s := s) rfl
  obtain ⟨t, runs, ends⟩ := run_ends setting job (s := s) fun ok => by
    have some := succeeds ok
    rw [reaches.session]
    cases opened with
    | none => cases some
    | some session => exact ⟨session, rfl⟩
  refine ⟨_, _, t, runs, milestones_of_ends setting s reaches rfl ends, ends.session, launched,
    observed, ?_, rfl, ?_, ?_⟩
  · rw [ends.output, ends.history, Output.addCaptures, Setting.taken, reaches.session,
      reaches.captures]
    rfl
  · intro well
    rw [(verdict_eq_ok setting job s).mpr well]
    exact ⟨rfl, rfl⟩
  · intro fails
    cases ended : verdict setting job s with
    | ok _ => exact absurd ((verdict_eq_ok setting job s).mp ended) fails
    | error e => exact ⟨e, rfl, rfl, rfl⟩

end Lifecycle

end PageScript
