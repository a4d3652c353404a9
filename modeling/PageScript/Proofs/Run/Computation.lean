import PageScript.Run.Steps

/-!
# What computations of a run leave behind

A computation ends with an outcome in some state, whether it succeeds or fails. Two ways of
speaking about this serve all of the theory of runs.

`Alike` compares two computations: from states that look alike they come to the same outcome and
leave states that look alike, for any notion `R` of looking alike. It is kept by sequencing, so a
run is alike to another if its steps are (`stepsFrom_alike`).

`Leads` bounds one computation by a relation of the state it leaves to the one it began in. It is
kept by sequencing for any relation that is a `Course`. `Outward` is the bound that matters most:
the computation adds calls and leaves the rules, the output and the lines for the host alone. That
is all an assistant can do, who is handed the page and nothing else of a run.

**What it does not establish.** These notions are about the states that are left and the outcomes; a
computation that does not end is no matter here, for every one does.
-/

namespace PageScript.Run

/-- What a computation came to. -/
def outcome : EStateM.Result Failure RunState α → Except Failure α
  | .ok a _ => .ok a
  | .error e _ => .error e

/-- The state a computation left. -/
def left : EStateM.Result Failure RunState α → RunState
  | .ok _ s => s
  | .error _ s => s

/-- A computation whose outcome is a value has succeeded, in the state it left. -/
theorem eq_ok_of_outcome {ended : EStateM.Result Failure RunState α} {a : α}
    (succeeds : outcome ended = .ok a) : ended = .ok a (left ended) := by
  cases ended with
  | ok a' s =>
    cases succeeds
    rfl
  | error e s => cases succeeds

/-- A computation whose outcome is a failure has failed, in the state it left. -/
theorem eq_error_of_outcome {ended : EStateM.Result Failure RunState α} {e : Failure}
    (fails : outcome ended = .error e) : ended = .error e (left ended) := by
  cases ended with
  | ok a s => cases fails
  | error e' s =>
    cases fails
    rfl

/-- A computation that succeeds is followed by the next one, one that fails by nothing. -/
theorem bind_apply (x : Run α) (f : α → Run β) (s : RunState) :
    (x >>= f) s =
      match x s with
      | .ok a t => f a t
      | .error e t => .error e t := by
  show EStateM.bind x f s = _
  unfold EStateM.bind
  cases x s <;> rfl

/-- After a success the rest goes on from the state it left. -/
theorem bind_of_ok {x : Run α} {s t : RunState} {a : α} (h : x s = .ok a t) (f : α → Run β) :
    (x >>= f) s = f a t := by
  rw [bind_apply, h]

/-- After a failure nothing more is done. -/
theorem bind_of_error {x : Run α} {s t : RunState} {e : Failure} (h : x s = .error e t)
    (f : α → Run β) : (x >>= f) s = .error e t := by
  rw [bind_apply, h]

/-- Two computations in a row succeed if the first does and the second does after it. -/
theorem bind_eq_ok {x : Run α} {f : α → Run β} {s u : RunState} {b : β} :
    (x >>= f) s = .ok b u ↔ ∃ a t, x s = .ok a t ∧ f a t = .ok b u := by
  rw [bind_apply]
  cases x s with
  | ok a t => exact ⟨fun h => ⟨a, t, rfl, h⟩, by rintro ⟨_, _, ⟨⟩, h⟩; exact h⟩
  | error e t => exact ⟨nofun, by rintro ⟨_, _, ⟨⟩, _⟩⟩

/-- Two computations in a row fail if the first does, or the second after it. -/
theorem bind_eq_error {x : Run α} {f : α → Run β} {s u : RunState} {e : Failure} :
    (x >>= f) s = .error e u ↔
      x s = .error e u ∨ ∃ a t, x s = .ok a t ∧ f a t = .error e u := by
  rw [bind_apply]
  cases x s with
  | ok a t => exact ⟨fun h => .inr ⟨a, t, rfl, h⟩, by rintro (⟨⟨⟩⟩ | ⟨_, _, ⟨⟩, h⟩); exact h⟩
  | error e t =>
    refine ⟨fun h => .inl ?_, ?_⟩
    · cases h
      rfl
    · rintro (⟨⟨⟩⟩ | ⟨_, _, ⟨⟩, _⟩)
      rfl

/-- What holds of the state a computation left holds at the end, if what follows keeps it. -/
theorem left_bind {x : Run α} {f : α → Run β} {s : RunState} {P : RunState → Prop}
    (first : P (left (x s))) (kept : ∀ a t, P t → P (left (f a t))) :
    P (left ((x >>= f) s)) := by
  rw [bind_apply]
  cases h : x s with
  | ok a t =>
    rw [h] at first
    exact kept a t first
  | error e t =>
    rw [h] at first
    exact first

/-! ## Computations that are alike -/

section Alike

variable {R : RunState → RunState → Prop}

/-- From states that look alike, two computations come to one outcome and leave states that look
alike. -/
def Alike (R : RunState → RunState → Prop) (x y : Run α) : Prop :=
  ∀ s t, R s t → outcome (x s) = outcome (y t) ∧ R (left (x s)) (left (y t))

/-- A value that is given looks like itself. -/
theorem alike_pure (a : α) : Alike R (pure a) (pure a) :=
  fun _ _ h => ⟨rfl, h⟩

theorem alike_throw (e : Failure) : Alike R (throw e : Run α) (throw e) :=
  fun _ _ h => ⟨rfl, h⟩

/-- Changes that keep states alike are alike. -/
theorem alike_modify {f g : RunState → RunState} (h : ∀ s t, R s t → R (f s) (g t)) :
    Alike R (modify f) (modify g) :=
  fun s t hst => ⟨rfl, h s t hst⟩

/-- Sequencing keeps computations alike: the rest begins from states that look alike. -/
theorem Alike.bind {x y : Run α} {f g : α → Run β} (hx : Alike R x y)
    (hf : ∀ a, Alike R (f a) (g a)) : Alike R (x >>= f) (y >>= g) := by
  intro s t h
  obtain ⟨same, after⟩ := hx s t h
  rw [bind_apply, bind_apply]
  cases hs : x s <;> cases ht : y t <;> rw [hs, ht] at same after <;>
    simp only [outcome, left, reduceCtorEq, Except.ok.injEq, Except.error.injEq] at same after
  · subst same
    exact hf _ _ _ after
  · subst same
    exact ⟨rfl, after⟩

/-- Keeping failures as values lets computations be alike. -/
theorem Alike.attempt {x y : Run α} (alike : Alike R x y) : Alike R (attempt x) (attempt y) := by
  intro s t h
  obtain ⟨same, after⟩ := alike s t h
  unfold Run.attempt
  cases hs : x s <;> cases ht : y t <;> rw [hs, ht] at same after <;>
    simp only [outcome, left, reduceCtorEq, Except.ok.injEq, Except.error.injEq] at same after
  · subst same
    exact ⟨rfl, after⟩
  · subst same
    exact ⟨rfl, after⟩

/-- Runs are alike if their steps are, their announcements and pauses make no difference to what
looks alike, and progress is told alike. -/
theorem stepsFrom_alike {scene scene' : Scene} {total : Nat}
    (note : ∀ line, Alike R (note line) (note line))
    (progress : ∀ done, Alike R (progress done total) (progress done total))
    (pause : Alike R (pause scene.settings.stepDelay) (pause scene'.settings.stepDelay))
    (all : List Step) (step : ∀ s ∈ all, Alike R (s.run scene) (s.run scene')) (done : Nat) :
    Alike R (stepsFrom scene total done all) (stepsFrom scene' total done all) := by
  induction all generalizing done with
  | nil => exact alike_pure ()
  | cons s rest ih =>
    refine Alike.bind ?_ fun _ => ih (fun s' mem => step s' (List.mem_cons_of_mem _ mem)) _
    exact (note _).bind fun _ => (step s List.mem_cons_self).bind fun _ =>
      (progress _).bind fun _ => pause

end Alike

/-! ## Where computations lead -/

section Leads

variable {R : RunState → RunState → Prop}

/-- However it ends, a computation leaves a state that stands in this relation to the one it began
in. -/
def Leads (R : RunState → RunState → Prop) (x : Run α) : Prop :=
  ∀ s, R s (left (x s))

/-- A relation of states to later ones: nothing need happen in between, and one thing may happen
after the other. -/
structure Course (R : RunState → RunState → Prop) : Prop where
  refl : ∀ s, R s s
  trans : ∀ {s t u}, R s t → R t u → R s u

theorem Course.leads_pure (course : Course R) (a : α) : Leads R (pure a) :=
  course.refl

theorem Course.leads_throw (course : Course R) (e : Failure) : Leads R (throw e : Run α) :=
  course.refl

/-- What leads along a course one after the other leads along it as a whole. -/
theorem Course.leads_bind (course : Course R) {x : Run α} {f : α → Run β} (first : Leads R x)
    (next : ∀ a, Leads R (f a)) : Leads R (x >>= f) :=
  fun s => left_bind (P := R s) (first s) fun a t before => course.trans before (next a t)

/-- A computation that leads along a course is alike to itself in staying on it. -/
theorem Course.alike_self (course : Course R) {x : Run α} (leads : Leads R x) (s : RunState) :
    Alike (fun t t' => t = t' ∧ R s t) x x := by
  rintro t _ ⟨rfl, reached⟩
  exact ⟨rfl, rfl, course.trans reached (leads t)⟩

/-- Keeping a failure as a value does not change where a computation leads. -/
theorem Leads.attempt {x : Run α} (leads : Leads R x) : Leads R (attempt x) := by
  intro s
  have reached := leads s
  unfold Run.attempt
  cases h : x s <;> rw [h] at reached <;> exact reached

end Leads

/-! ## Computations that touch nothing of the run itself -/

/-- What a computation of this kind does to a state: it adds calls, and leaves the rules, the
output and the lines for the host alone. -/
structure Beyond (s t : RunState) : Prop where
  calls : s.calls <+: t.calls
  rules : t.rules = s.rules
  output : t.output = s.output
  reporter : t.reporter = s.reporter

/-- Going beyond a state is reflexive and transitive. -/
theorem Beyond.course : Course Beyond where
  refl _ := ⟨List.prefix_rfl, rfl, rfl, rfl⟩
  trans h h' := ⟨h.calls.trans h'.calls, h'.rules.trans h.rules, h'.output.trans h.output,
    h'.reporter.trans h.reporter⟩

/-- A computation that only reaches outward. -/
def Outward (x : Run α) : Prop :=
  ∀ s, Beyond s (left (x s))

theorem outward_pure (a : α) : Outward (pure a) :=
  Beyond.course.leads_pure a

theorem outward_throw (e : Failure) : Outward (throw e : Run α) :=
  Beyond.course.leads_throw e

/-- What reaches outward one after the other reaches outward as a whole. -/
theorem Outward.bind {x : Run α} {f : α → Run β} (first : Outward x) (next : ∀ a, Outward (f a)) :
    Outward (x >>= f) :=
  Beyond.course.leads_bind first next

end PageScript.Run

namespace PageScript

/-- An assistant only reaches outward: it is handed the page, and nothing else of a run. -/
structure Assistant.Outward (a : Assistant) : Prop where
  act : ∀ vars instruction timeout, Run.Outward (a.act vars instruction timeout)
  extract : ∀ instruction timeout, Run.Outward (a.extract instruction timeout)

/-! ## Calls -/

namespace Assistant

variable (call : Call) (answer : History → Except Failure α) (s : RunState)

/-- The outcome of a call that is answered at once is the answer to the calls before it. -/
theorem outcome_respond : Run.outcome (respond call answer s) = answer s.history := by
  unfold respond
  cases answer s.history <;> rfl

/-- A call that is answered at once is entered and changes nothing else. -/
theorem left_respond : Run.left (respond call answer s) = s.addCall call := by
  unfold respond
  cases answer s.history <;> rfl

/-- An assistant that only answers only reaches outward. -/
theorem answering_outward (act : History → Except Failure (Option ActOutcome))
    (extract : History → Except Failure (Option Json)) :
    (answering act extract).Outward where
  act _ _ _ := fun s => by
    rw [answering, left_respond]
    exact ⟨List.prefix_append _ _, rfl, rfl, rfl⟩
  extract _ _ := fun s => by
    rw [answering, left_respond]
    exact ⟨List.prefix_append _ _, rfl, rfl, rfl⟩

end Assistant

namespace Page

variable (page : Page) (call : PageCall) (s : RunState)

/-- The outcome of a call of the page is what the page answers to the history. -/
theorem outcome_ask : Run.outcome (page.ask call s) = (page.answer s.history call).outcome := by
  unfold ask
  cases h : (page.answer s.history call).outcome <;> simp only [h] <;> rfl

/-- A call of the page is entered and takes the time of its answer. -/
theorem left_ask :
    Run.left (page.ask call s) =
      (s.addCall (.page call)).later (page.answer s.history call).delay := by
  unfold ask
  cases h : (page.answer s.history call).outcome <;> simp only [h] <;> rfl

end Page

/-- A relation of states that calls of a page lead along. -/
structure Run.Calling (R : RunState → RunState → Prop) : Prop extends Course R where
  called : ∀ s call ms, R s ((s.addCall (.page call)).later ms)

/-- A notion of states looking alike that sees their history and that outlasts calls of a page. -/
structure Run.Recalling (R : RunState → RunState → Prop) : Prop where
  history : ∀ {s t}, R s t → s.history = t.history
  called : ∀ {s t} call ms, R s t →
    R ((s.addCall (.page call)).later ms) ((t.addCall (.page call)).later ms)

/-- A call of the page, with the time that it takes, only goes beyond the state before. -/
theorem Run.Beyond.calling : Calling Beyond where
  toCourse := Beyond.course
  called _ _ _ := ⟨List.prefix_append _ _, rfl, rfl, rfl⟩

namespace Page

variable {R : RunState → RunState → Prop} (page : Page) (call : PageCall)

/-- A call of the page leads along whatever relation entering it and waiting for it keeps. -/
theorem ask_leads (calling : Run.Calling R) : Run.Leads R (page.ask call) := by
  intro s
  rw [left_ask]
  exact calling.called s call _

/-- Giving up on an answer is a call all the same. -/
theorem askWithin_leads (calling : Run.Calling R) (ms : Nat) (what : String) :
    Run.Leads R (page.askWithin ms what call) := by
  intro s
  unfold askWithin
  split
  · exact page.ask_leads call calling s
  · exact calling.called s call ms

/-- A call of the page reaches outward only. -/
theorem ask_outward : Run.Outward (page.ask call) :=
  page.ask_leads call Run.Beyond.calling

/-- A page answers from its history, so it answers alike where that is the same. -/
theorem ask_alike (recalling : Run.Recalling R) : Run.Alike R (page.ask call) (page.ask call) := by
  intro s t h
  rw [outcome_ask, outcome_ask, left_ask, left_ask, recalling.history h]
  exact ⟨rfl, recalling.called call _ h⟩

/-- An answer is waited for, or given up, alike. -/
theorem askWithin_alike (recalling : Run.Recalling R) (ms : Nat) (what : String) :
    Run.Alike R (page.askWithin ms what call) (page.askWithin ms what call) := by
  intro s t h
  simp only [askWithin, recalling.history h]
  split
  · exact page.ask_alike call recalling s t h
  · exact ⟨rfl, recalling.called call ms h⟩

end Page

end PageScript
