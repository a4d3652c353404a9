import Mathlib.Algebra.Order.Ring.Nat
import PageScript.Proofs.Model.Outward
import PageScript.Proofs.Run.Accounting
import PageScript.Proofs.Run.Reporting

/-!
# Pacing

Where neither the page nor the assistant takes any time, a run takes the time that its steps sleep
and the pauses after them, and no other: a step that is done takes what can be read off the step
(`Attempt.now_of_ok`), one that fails takes nothing (`Attempt.now_of_error`), and what is told to
the host and to the log takes nothing either. The account of a whole run (`steps_paced`) follows by
induction along the steps.

**What it does not establish.** Times are those of a page and an assistant that take none; of others
nothing is said.
-/

namespace PageScript

open Run

/-! ## The time that steps take -/

/-- How long a step does nothing when it is done. -/
def Step.sleeps : Step → Nat
  | .sleep s => s.duration.getD 0
  | _ => 0

/-- How long steps take that are done, each with the pause after it. -/
def Settings.timeOf (settings : Settings) (done : List Step) : Nat :=
  (done.map Step.sleeps).sum + settings.stepDelay * done.length

/-- The time of steps is that of the first one, its pause, and the time of the rest. -/
theorem Settings.timeOf_cons (settings : Settings) (step : Step) (rest : List Step) :
    settings.timeOf (step :: rest) = step.sleeps + settings.stepDelay + settings.timeOf rest := by
  simp only [timeOf, List.map_cons, List.sum_cons, List.length_cons, Nat.mul_succ]
  omega

/-- How long an effect takes in itself. -/
def Effect.waits : Effect → Nat
  | .pause ms => ms
  | _ => 0

/-- Only a step that sleeps has an effect that takes time, and as much time as the step says. -/
theorem Step.sleeps_of_effect {settings : Settings} {vars : Variables} {step : Step}
    {effect : Option Effect} (has : step.effect settings vars = .ok effect) :
    step.sleeps = (effect.map Effect.waits).getD 0 := by
  cases Step.effective_of_effect has with
  | @sleep s ms given long =>
    rw [sleeps, given]
    rfl
  | _ => rfl

/-! ## Computations that take no time -/

/-- From one state to the other no time passed, and the calls that were added were made then. -/
structure RunState.AtOnce (s t : RunState) : Prop where
  now : t.now = s.now
  calls : ∃ made : List Call, t.calls = s.calls ++ made.map fun call => (s.now, call)

namespace RunState.AtOnce

variable {s t : RunState}

/-- What makes no calls and takes no time happens at once. -/
theorem of_no_calls (now : t.now = s.now) (calls : t.calls = s.calls) : s.AtOnce t :=
  ⟨now, [], by rw [calls, List.map_nil, List.append_nil]⟩

/-- What happens at once, one after the other, happens at once. -/
theorem course : Course AtOnce where
  refl _ := of_no_calls rfl rfl
  trans {s t u} first next := by
    obtain ⟨now, made, calls⟩ := first
    obtain ⟨now', made', calls'⟩ := next
    refine ⟨now'.trans now, made ++ made', ?_⟩
    rw [calls', calls, now, List.append_assoc, List.map_append]

/-- Whatever is added at once is added at the moment it begins. -/
theorem eq_now_of_mem_drop (atOnce : s.AtOnce t) :
    ∀ call ∈ t.calls.drop s.calls.length, call.1 = s.now := by
  obtain ⟨made, calls⟩ := atOnce.calls
  rw [calls, List.drop_left]
  exact List.forall_mem_map.mpr fun _ _ => rfl

end RunState.AtOnce

open RunState (AtOnce)

/-- A page all of whose answers take no time. -/
def Page.Instant (page : Page) : Prop :=
  ∀ history call, (page.answer history call).delay = 0

namespace Page.Instant

variable {page : Page} (instant : page.Instant)

include instant

/-- An instant page is asked at once. -/
theorem ask (call : PageCall) : Leads AtOnce (page.ask call) := by
  intro s
  rw [left_ask, instant]
  exact ⟨rfl, [.page call], rfl⟩

/-- An instant page is asked within a time limit at once. -/
theorem askWithin (ms : Nat) (what : String) (call : PageCall) :
    Leads AtOnce (page.askWithin ms what call) := by
  intro s
  unfold Page.askWithin
  rw [instant, if_pos (Nat.zero_le ms)]
  exact instant.ask call s

end Page.Instant

/-- On a page that takes no time a language model takes none. -/
theorem Model.Client.assistant_atOnce (client : Client) {page : Page} (instant : page.Instant) :
    (client.assistant page).Leads AtOnce := by
  have asks : client.Asks AtOnce := by
    refine ⟨AtOnce.course, fun request s => ?_, fun request reply s => ?_⟩
    · obtain same | same := client.left_send request s <;> rw [same] <;>
        exact .of_no_calls rfl rfl
    · obtain ⟨inference, files, lines, same⟩ := client.left_record request reply s
      rw [same]
      exact .of_no_calls rfl rfl
  exact assistant_leads AtOnce.course instant.ask instant.askWithin (asks.complete "act")
    (asks.complete "extract")

/-! ## One step -/

/-- All calls of an effect are made when it begins. -/
theorem Effect.now_of_mem_calls {scene : Scene} (atOnce : scene.assistant.Leads AtOnce)
    (e : Effect) (s : RunState) :
    ∀ call ∈ e.calls scene s, call.1 = s.now := by
  cases e with
  | onPage call => exact List.forall_mem_singleton.mpr rfl
  | evaluate written filled => exact List.forall_mem_singleton.mpr rfl
  | act instruction timeout => exact (atOnce.act _ _ _ s).eq_now_of_mem_drop
  | extract instruction timeout => exact (atOnce.extract _ _ s).eq_now_of_mem_drop
  | capture rule => exact List.forall_mem_nil _
  | pause ms => exact List.forall_mem_nil _

/-- The calls of an attempt are made when it begins. -/
theorem Attempt.now_of_mem_calls {scene : Scene} (atOnce : scene.assistant.Leads AtOnce)
    (a : Attempt) : ∀ call ∈ a.calls scene, call.1 = a.begins.now := by
  unfold calls Step.calls
  split
  · exact Effect.now_of_mem_calls atOnce _ _
  · exact List.forall_mem_nil _
  · exact List.forall_mem_nil _

section Step

variable {scene : Scene} (instant : scene.page.Instant) (atOnce : scene.assistant.Leads AtOnce)

include instant atOnce

/-- An effect that does not wait happens at once. -/
theorem Effect.run_atOnce {e : Effect} (idle : e.waits = 0) :
    Leads AtOnce (e.run scene) := by
  cases e with
  | onPage call => exact AtOnce.course.leads_bind (instant.ask call) fun _ => AtOnce.course.refl
  | evaluate written filled =>
    exact AtOnce.course.leads_bind (instant.ask _) fun value s => .of_no_calls rfl rfl
  | act instruction timeout =>
    refine AtOnce.course.leads_bind (atOnce.act _ _ _) fun outcome => ?_
    cases judge instruction outcome <;> exact AtOnce.course.refl
  | extract instruction timeout =>
    refine AtOnce.course.leads_bind (atOnce.extract _ _) fun found => ?_
    cases found with
    | none => exact AtOnce.course.refl
    | some value => exact fun s => .of_no_calls rfl rfl
  | capture rule =>
    intro s
    unfold run register
    cases scene.observed <;> exact .of_no_calls rfl rfl
  | pause ms =>
    obtain rfl : ms = 0 := idle
    exact fun s => .of_no_calls rfl rfl

/-- An effect takes the time that it waits. -/
theorem Effect.now_run (e : Effect) (s : RunState) :
    (left (e.run scene s)).now = s.now + e.waits := by
  cases e with
  | pause ms => rfl
  | _ => exact (Effect.run_atOnce instant atOnce rfl s).now

namespace Attempt

variable {a : Attempt} {t : RunState}

/-- A step that succeeds takes the time that it sleeps. -/
theorem now_of_ok (succeeds : a.result scene = .ok () t) :
    t.now = a.begins.now + a.step.sleeps := by
  unfold result Step.run at succeeds
  cases has : a.step.effect scene.settings scene.vars with
  | error e =>
    rw [has] at succeeds
    cases succeeds
  | ok effect =>
    rw [Step.sleeps_of_effect has]
    rw [has] at succeeds
    cases effect with
    | none =>
      cases succeeds
      rfl
    | some e =>
      have waited := Effect.now_run instant atOnce e a.begins
      dsimp only at succeeds
      rwa [succeeds] at waited

/-- A step that fails takes no time. -/
theorem now_of_error {e : Failure} (fails : a.result scene = .error e t) :
    t.now = a.begins.now := by
  unfold result Step.run at fails
  cases has : a.step.effect scene.settings scene.vars with
  | error e' =>
    rw [has] at fails
    cases fails
    rfl
  | ok effect =>
    rw [has] at fails
    cases effect with
    | none => cases fails
    | some e =>
      -- A pause does not fail, and nothing else takes time.
      have idle : e.waits = 0 := by
        cases e with
        | pause ms => cases fails
        | _ => rfl
      have waited := (Effect.run_atOnce instant atOnce idle a.begins).now
      dsimp only at fails
      rwa [fails] at waited

end Attempt

/-! ## Whole runs -/

namespace Run

variable {total : Nat}

/-- The turn of a step that succeeds ends after its sleep and the pause. -/
theorem step_now {number : Nat} {step : Step} {s t : RunState}
    (succeeds : (announced number total step s).result scene = .ok () t) :
    ∃ u, Run.step scene number total step s = .ok () u ∧
      u.now = s.now + step.sleeps + scene.settings.stepDelay := by
  have slept := Attempt.now_of_ok instant atOnce succeeds
  obtain ⟨lines, told⟩ := progress_eq_ok number total t
  exact ⟨_, (bind_of_ok succeeds _).trans (bind_of_ok told _),
    congrArg (· + scene.settings.stepDelay) slept⟩

/-- A run takes the time that its steps take that are done. -/
theorem stepsFrom_now (all : List Step) (done : Nat) (s : RunState) :
    (left (stepsFrom scene total done all s)).now = s.now + scene.settings.timeOf
      (((attempts scene total done all s).filter (·.Succeeds scene)).map (·.step)) := by
  induction all generalizing done s with
  | nil => rfl
  | cons step rest ih =>
    let first := announced (done + 1) total step s
    cases ends : first.result scene with
    | error e t =>
      have fails : decide (first.Succeeds scene) = false :=
        decide_eq_false (Attempt.not_succeeds_of_error ends)
      rw [stepsFrom_cons_of_error ends, attempts_cons_of_error ends, List.filter_singleton, fails]
      exact Attempt.now_of_error instant atOnce ends
    | ok _ t =>
      have succeeds : decide (first.Succeeds scene) = true := decide_eq_true ⟨t, ends⟩
      obtain ⟨u, stepped, paused⟩ := step_now instant atOnce ends
      rw [stepsFrom_cons_of_ok stepped, attempts_cons_of_ok stepped, List.filter_cons,
        if_pos succeeds, List.map_cons, Settings.timeOf_cons, ih, paused]
      show _ = s.now + (step.sleeps + _ + _)
      omega

/-- The attempt at a step begins after the time that the steps before it take. -/
theorem begins_of_attempts (all : List Step) (done k : Nat) (s : RunState) {a : Attempt}
    (tried : (attempts scene total done all s)[k]? = some a) :
    all[k]? = some a.step ∧ a.begins.now = s.now + scene.settings.timeOf (all.take k) := by
  induction all generalizing done k s with
  | nil => cases tried
  | cons step rest ih =>
    cases ends : (announced (done + 1) total step s).result scene with
    | error e t =>
      rw [attempts_cons_of_error ends] at tried
      cases k with
      | zero =>
        cases tried
        exact ⟨rfl, rfl⟩
      | succ k => cases tried
    | ok _ t =>
      obtain ⟨u, stepped, paused⟩ := step_now instant atOnce ends
      rw [attempts_cons_of_ok stepped] at tried
      cases k with
      | zero =>
        cases tried
        exact ⟨rfl, rfl⟩
      | succ k =>
        obtain ⟨here, begins⟩ := ih (done + 1) k u tried
        refine ⟨here, ?_⟩
        rw [begins, paused, List.take_succ_cons, Settings.timeOf_cons]
        omega

/-- The pace of a run on a page that takes no time, with an assistant that takes none. It ends after
the time that its steps take that are done: as long as they sleep, and a pause after each of them,
the last one and those of unknown kind too. These are all its steps, or those before the one it
fails with, which adds nothing. Every call of a step is made after the time that the steps before it
take. Whether progress could be told makes no difference. -/
theorem steps_paced (outward : scene.assistant.Outward) (all : List Step) (s : RunState) :
    let tries := attempts scene all.length 0 all s
    let done := completed scene all s
    let ends := steps scene all s
    (left ends).now = s.now + scene.settings.timeOf (done.map (·.step)) ∧
      (tries = done ∧ done.map (·.step) = all ∨
        ∃ failing rest, tries = done ++ [failing] ∧ ¬ failing.Succeeds scene ∧
          all = done.map (·.step) ++ failing.step :: rest) ∧
      (∀ kind t, (Step.unknown kind).run scene t = .ok () t) ∧
      (left ends).calls = s.calls ++ tries.flatMap (·.calls scene) ∧
      ∀ (k : Nat) a, tries[k]? = some a → all[k]? = some a.step ∧
        ∀ call ∈ a.calls scene, call.1 = s.now + scene.settings.timeOf (all.take k) := by
  intro tries done ends
  have whole : left ends = left (stepsFrom scene all.length 0 all s) := left_steps all s
  refine ⟨?_, ?_, fun _ _ => rfl, ?_, fun k a tried => ?_⟩
  · rw [whole]
    exact stepsFrom_now instant atOnce all 0 s
  · rcases completes_or_stops outward all 0 s with complete | ⟨before, failing, rest, stops⟩
    · exact .inl ⟨complete.completed_eq.symm, complete.completed⟩
    · obtain ⟨e, t, fails⟩ := stops.fails
      have before_done : before = done := stops.completed.symm
      subst before_done
      exact .inr ⟨failing, rest, stops.tries, Attempt.not_succeeds_of_error fails, stops.parts⟩
  · rw [whole]
    exact stepsFrom_calls outward all 0 s
  · obtain ⟨here, begins⟩ := begins_of_attempts instant atOnce all 0 k s tried
    exact ⟨here, fun call mem => (Attempt.now_of_mem_calls atOnce a call mem).trans begins⟩

end Run

end Step

namespace Run

/-- A sleep, a step of unknown kind and an evaluation are done, while the host has stopped reading;
the model cannot be asked for what the fourth step needs. -/
theorem steps_paced_unreachable :
    let client := Model.Client.ofServer fun _ => .unreachable
    let scene : Scene :=
      ⟨.ofParams .absent, .empty, silentPage, client.assistant silentPage, true⟩
    let all : List Step := [.sleep ⟨some 30⟩, .unknown "dance", .evaluate ⟨some "1"⟩,
      .action ⟨some "Log in", none⟩, .sleep ⟨some 5⟩]
    let s := RunState.initial ⟨true, ⟨some 1, "broken pipe", []⟩⟩
    let ends := steps scene all s
    scene.page.Instant ∧ scene.assistant.Leads AtOnce ∧ scene.assistant.Outward ∧
      (left ends).now = scene.settings.timeOf ((completed scene all s).map (·.step)) ∧
      (completed scene all s).length = 3 ∧ (left ends).now = 3030 ∧
      (left ends).calls.map (·.1) = [2030, 3030] := by
  intro client scene all s ends
  have instant : scene.page.Instant := fun _ _ => rfl
  have atOnce : scene.assistant.Leads AtOnce := client.assistant_atOnce instant
  have outward : scene.assistant.Outward := client.assistant_outward silentPage
  have paced := (steps_paced instant atOnce outward all s).1
  refine ⟨instant, atOnce, outward, paced.trans (Nat.zero_add _), ?_⟩
  decide +kernel

end Run

end PageScript
