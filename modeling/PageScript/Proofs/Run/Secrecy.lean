import PageScript.Proofs.Run.Computation

/-!
# Variables stay secret

The values of variables go into the texts of three calls (`fill`, `insertText`, `evaluate`) and
nowhere else. Two runs are compared whose variables have values for the same names and whose page
and assistant give the same answers; `runs_differ_in_texts` says that nothing tells the runs apart
but those texts.

What looks alike is a `veiled` state: its calls without texts and without times. The argument has
two halves. Which effect a step has, or why it has none, depends on the variables only in the texts
(`effect_withoutText`); and effects that differ only in texts lead from states that look alike to
states that look alike (`Effect.run_alike`).

**What it does not establish.** That values do not leave by the three texts is not claimed; times
may differ, for a page may take longer over another text.
-/

namespace PageScript

/-- The same names have a value that is not empty. -/
def Variables.SameNames (vars vars' : Variables) : Prop :=
  ∀ name, (vars.value? name).isSome = (vars'.value? name).isSome

namespace PageCall

/-- The call without the text that is filled in, inserted or evaluated. -/
def withoutText : PageCall → PageCall
  | .fill target _ timeout => .fill target "" timeout
  | .insertText _ => .insertText ""
  | .evaluate _ => .evaluate ""
  | call => call

end PageCall

/-- The call without its text. -/
def Call.withoutText : Call → Call
  | .page call => .page call.withoutText
  | call => call

/-- What was noticed of a run, without the texts of calls. -/
def History.withoutTexts (h : History) : History :=
  { h with calls := h.calls.map Call.withoutText }

/-- The effect without the text that variables were put into. -/
def Effect.withoutText : Effect → Effect
  | .onPage call => .onPage call.withoutText
  | .evaluate written _ => .evaluate written ""
  | effect => effect

/-- Two pages answer alike: the answer may depend on the calls made before and on the call, but not
on their texts. Pages that give the same answer to the k-th call made to them are of this kind
(`Page.inTurn_answersLike`). How long an answer takes does not count. -/
def Page.AnswersLike (page page' : Page) : Prop :=
  ∀ h h' call call', h.withoutTexts = h'.withoutTexts → call.withoutText = call'.withoutText →
    (page.answer h call).outcome = (page'.answer h' call').outcome

/-- Two ways of answering are alike: they do not depend on the texts of the calls made before. -/
def History.AnswersLike (answer answer' : History → Except Failure α) : Prop :=
  ∀ h h' : History, h.withoutTexts = h'.withoutTexts → answer h = answer' h'

/-- Whether a call goes to the page. -/
def Call.isPage : Call → Bool
  | .page _ => true
  | _ => false

/-- The page that gives prepared answers, one to each call made to it. -/
def Page.inTurn (answers : Nat → Answer) : Page :=
  ⟨fun h _ => answers (h.calls.countP Call.isPage)⟩

/-- Taking the texts out of a history leaves the number of calls of the page. -/
theorem History.countP_withoutTexts (h : History) :
    h.withoutTexts.calls.countP Call.isPage = h.calls.countP Call.isPage := by
  rw [History.withoutTexts, List.countP_map]
  congr 1
  ext call
  cases call <;> rfl

/-- Pages that give the same answer to the k-th call made to them answer alike. -/
theorem Page.inTurn_answersLike {answers answers' : Nat → Answer}
    (same : ∀ k, (answers k).outcome = (answers' k).outcome) :
    (inTurn answers).AnswersLike (inTurn answers') := by
  intro h h' call call' before _
  simp only [inTurn]
  rw [← h.countP_withoutTexts, ← h'.countP_withoutTexts, before]
  exact same _

/-! ## What depends on the values of variables -/

/-- Two computations that fail alike, or both succeed, are followed by the same if what follows does
not depend on what they gave. -/
theorem map_bind_congr {x y : Except ε α} {f g : α → Except ε β} {view : β → γ}
    (same : x.map (fun _ => ()) = y.map fun _ => ())
    (next : ∀ a b, (f a).map view = (g b).map view) :
    (x >>= f).map view = (y >>= g).map view := by
  cases x <;> cases y <;> simp only [Except.map, Except.error.injEq, reduceCtorEq] at same
  · subst same
    rfl
  · exact next _ _

/-- What comes after a computation matters only by the view that is taken of it. -/
theorem map_bind_congr_right {x : Except ε α} {f g : α → Except ε β} {view : β → γ}
    (next : ∀ a, (f a).map view = (g a).map view) : (x >>= f).map view = (x >>= g).map view := by
  cases x with
  | error e => rfl
  | ok a => exact next a

namespace Variables.SameNames

variable {vars vars' : Variables}

/-- Whether pieces can be filled in depends on which names have a value, and not on the values. -/
theorem fill (names : SameNames vars vars') (pieces : List Placeholder.Piece) :
    (vars.fill pieces).map (fun _ => ()) = (vars'.fill pieces).map fun _ => () := by
  induction pieces with
  | nil => rfl
  | cons piece rest ih =>
    cases piece with
    | literal c => exact map_bind_congr ih fun _ _ => rfl
    | name n =>
      have same := names (String.ofList n)
      simp only [Variables.fill]
      cases value : vars.value? (String.ofList n) <;>
        cases value' : vars'.value? (String.ofList n) <;>
        simp only [value, value', Option.isSome_none, Option.isSome_some, reduceCtorEq] at same
      · rfl
      · exact map_bind_congr ih fun _ _ => rfl

/-- Putting values in fails alike, or succeeds both times. -/
theorem interpolate (names : SameNames vars vars') (text : String) :
    (vars.interpolate text).map (fun _ => ()) = (vars'.interpolate text).map fun _ => () :=
  map_bind_congr (names.fill _) fun _ _ => rfl

/-- Which names of a text have a value depends on the names alone. -/
theorem referencedNames (names : SameNames vars vars') (text : String) :
    vars.referencedNames text = vars'.referencedNames text := by
  simp only [Variables.referencedNames, names _]

/-- A step has the same effect, or the same reason to have none, but for the text. -/
theorem effect_withoutText (names : SameNames vars vars') (settings : Settings) (s : Step) :
    (s.effect settings vars).map (Option.map Effect.withoutText) =
      (s.effect settings vars').map (Option.map Effect.withoutText) := by
  cases s with
  | change s =>
    exact map_bind_congr_right fun _ => map_bind_congr (names.interpolate _) fun _ _ => rfl
  | text s =>
    exact map_bind_congr_right fun _ => map_bind_congr (names.interpolate _) fun _ _ => rfl
  | evaluate s =>
    exact map_bind_congr_right fun _ => map_bind_congr (names.interpolate _) fun _ _ => rfl
  | _ => rfl

end Variables.SameNames

/-! ## States that look alike -/

namespace RunState

/-- The state without the texts and the times of its calls. -/
def veiled (s : RunState) : RunState :=
  { s with now := 0, calls := s.calls.map fun call => (0, call.2.withoutText) }

/-- Nothing but texts and times tells two states apart. -/
def LooksLike (s t : RunState) : Prop :=
  s.veiled = t.veiled

/-- A call is entered into the veiled state without its text and its time. -/
theorem veiled_addCall (s : RunState) (call : Call) :
    (s.addCall call).veiled =
      { s.veiled with calls := s.veiled.calls ++ [(0, call.withoutText)] } := by
  simp [veiled, addCall]

/-- A rule is entered into the veiled state as it is. -/
theorem veiled_addRule (s : RunState) (rule : CaptureRule) :
    (s.addRule rule).veiled = s.veiled.addRule rule := by
  simp [veiled, addRule]

namespace LooksLike

variable {s t : RunState}

/-- States that look alike have the same history but for texts. -/
theorem history (h : s.LooksLike t) : s.history.withoutTexts = t.history.withoutTexts := by
  have calls := congrArg (fun v => v.calls.map (·.2)) h
  have rules := congrArg RunState.rules h
  simp only [veiled, List.map_map, Function.comp_def] at calls rules
  simp only [RunState.history, History.withoutTexts, List.map_map, Function.comp_def, calls, rules]

/-- Calls that differ in their texts keep states alike. -/
theorem addCall (h : s.LooksLike t) {call call' : Call}
    (same : call.withoutText = call'.withoutText) :
    (s.addCall call).LooksLike (t.addCall call') := by
  rw [LooksLike, veiled_addCall, veiled_addCall, same, h]

theorem later (h : s.LooksLike t) (ms ms' : Nat) : (s.later ms).LooksLike (t.later ms') := h

/-- What is done to two states in the same way, whatever their texts and times, lets them look
alike. -/
theorem congr (h : s.LooksLike t) {f : RunState → RunState}
    (beside : ∀ s, (f s).veiled = f s.veiled) : (f s).LooksLike (f t) := by
  rw [LooksLike, beside, beside, h]

/-- States that look alike have the same output; the lemmas that follow say so of the rest. -/
theorem output (h : s.LooksLike t) : s.output = t.output := by
  show s.veiled.output = t.veiled.output
  rw [h]

theorem reporter (h : s.LooksLike t) : s.reporter = t.reporter := by
  show s.veiled.reporter = t.veiled.reporter
  rw [h]

theorem rules (h : s.LooksLike t) : s.rules = t.rules := by
  show s.veiled.rules = t.veiled.rules
  rw [h]

theorem log (h : s.LooksLike t) : s.log = t.log := by
  show s.veiled.log = t.veiled.log
  rw [h]

theorem requests (h : s.LooksLike t) : s.requests = t.requests := by
  show s.veiled.requests = t.veiled.requests
  rw [h]

theorem inference (h : s.LooksLike t) : s.inference = t.inference := by
  show s.veiled.inference = t.veiled.inference
  rw [h]

/-- States that look alike have made the same calls but for texts. -/
theorem texts (h : s.LooksLike t) :
    s.calls.map (fun call => call.2.withoutText) = t.calls.map fun call => call.2.withoutText := by
  have calls := congrArg (fun v => v.calls.map (·.2)) h
  simpa only [veiled, List.map_map, Function.comp_def] using calls

end LooksLike

end RunState

/-! ## Runs that look alike -/

open Run

/-- A change of states that neither touches their calls, times and files nor depends on them. -/
structure RunState.Aside (f : RunState → RunState) : Prop where
  veiled : ∀ s, (f s).veiled = f s.veiled
  files : ∀ s files, f { s with files := files } = { f s with files := files }

/-- A notion of states looking alike that sees what the host was told and sees no times. What is
done to both states in the same way, aside from calls and files, lets them look alike. -/
structure RunState.Likeness (R : RunState → RunState → Prop) : Prop where
  reporter : ∀ {s t}, R s t → s.reporter = t.reporter
  aside : ∀ {s t f}, R s t → Aside f → R (f s) (f t)
  later : ∀ {s t} ms, R s t → R (s.later ms) (t.later ms)

/-- Looking alike is a likeness: what is done aside from calls and times keeps it. -/
theorem RunState.looksLike_likeness : Likeness LooksLike where
  reporter := LooksLike.reporter
  aside h aside := h.congr aside.veiled
  later _ h := h.later _ _

/-- In two scenes calls that differ in their texts alone come to the same and leave states that look
alike. -/
structure Scene.Like (R : RunState → RunState → Prop) (one other : Scene) : Prop where
  settings : one.settings = other.settings
  observed : one.observed = other.observed
  names : one.vars.SameNames other.vars
  ask : ∀ call call', call.withoutText = call'.withoutText →
    Alike R (one.page.ask call) (other.page.ask call')
  act : ∀ instruction timeout,
    Alike R (one.assistant.act one.vars instruction timeout)
      (other.assistant.act other.vars instruction timeout)
  extract : ∀ instruction timeout,
    Alike R (one.assistant.extract instruction timeout)
      (other.assistant.extract instruction timeout)

section Likeness

variable {R : RunState → RunState → Prop} {one other : Scene}

/-- A change that is aside from calls and times keeps states alike. -/
theorem RunState.Likeness.modify (like : Likeness R) {f : RunState → RunState} (aside : Aside f) :
    Alike R (modify f) (modify f) :=
  alike_modify fun _ _ h => like.aside h aside

/-- Whether a line reached the host depends on nothing but the reporter. -/
theorem send_alike (like : RunState.Likeness R) (report : Report) :
    Alike R (send report) (send report) := by
  intro s t h
  let mark (s : RunState) : RunState :=
    { s with milestones := s.milestones ++ [Milestone.reported report] }
  have marked : R (mark s) (mark t) := like.aside h ⟨fun _ => rfl, fun _ _ => rfl⟩
  cases sent : s.reporter.send report with
  | ok reporter =>
    simp only [send, like.reporter h ▸ sent, sent]
    exact ⟨rfl, like.aside (f := fun s => { s with reporter := reporter }) marked
      ⟨fun _ => rfl, fun _ _ => rfl⟩⟩
  | error trouble =>
    simp only [send, like.reporter h ▸ sent, sent]
    exact ⟨rfl, marked⟩

theorem note_alike (like : RunState.Likeness R) (line : LogLine) :
    Alike R (note line) (note line) :=
  like.modify ⟨fun _ => rfl, fun _ _ => rfl⟩

/-- Telling how far the run is keeps states alike. -/
theorem progress_alike (like : RunState.Likeness R) (done total : Nat) :
    Alike R (progress done total) (progress done total) := by
  refine (send_alike like _).bind fun trouble => ?_
  cases trouble with
  | none => exact alike_pure ()
  | some trouble => exact note_alike like _

/-- Effects that differ in their texts alone lead from states that look alike to states that look
alike. -/
theorem Effect.run_alike (like : RunState.Likeness R) (scenes : one.Like R other)
    {e e' : Effect} (same : e.withoutText = e'.withoutText) :
    Alike R (e.run one) (e'.run other) := by
  cases e <;> cases e' <;>
    simp only [Effect.withoutText, Effect.onPage.injEq, Effect.evaluate.injEq, Effect.act.injEq,
      Effect.extract.injEq, Effect.capture.injEq, Effect.pause.injEq, reduceCtorEq] at same
  case onPage.onPage call call' =>
    exact (scenes.ask _ _ same).bind fun _ => alike_pure ()
  case evaluate.evaluate written filled written' filled' =>
    obtain ⟨rfl, -⟩ := same
    exact (scenes.ask (.evaluate filled) (.evaluate filled') rfl).bind fun _ =>
      like.modify ⟨fun _ => rfl, fun _ _ => rfl⟩
  case act.act instruction timeout _ _ =>
    obtain ⟨rfl, rfl⟩ := same
    refine (scenes.act _ _).bind fun outcome => ?_
    cases Effect.judge instruction outcome with
    | ok _ => exact alike_pure ()
    | error e => exact alike_throw e
  case extract.extract instruction timeout _ _ =>
    obtain ⟨rfl, rfl⟩ := same
    refine (scenes.extract _ _).bind fun found => ?_
    cases found with
    | some value => exact like.modify ⟨fun _ => rfl, fun _ _ => rfl⟩
    | none => exact alike_throw _
  case capture.capture rule _ =>
    subst same
    intro s t h
    simp only [Effect.run, Effect.register, scenes.observed]
    cases other.observed with
    | true => exact ⟨rfl, like.aside h ⟨fun s => s.veiled_addRule rule, fun _ _ => rfl⟩⟩
    | false => exact ⟨rfl, h⟩
  case pause.pause ms _ =>
    subst same
    exact alike_modify fun _ _ => like.later ms

/-- A step runs alike whatever the values of the variables are. -/
theorem Step.run_alike (like : RunState.Likeness R) (scenes : one.Like R other) (s : Step) :
    Alike R (s.run one) (s.run other) := by
  have effects := scenes.names.effect_withoutText other.settings s
  simp only [Step.run, scenes.settings]
  -- Either both runs have no effect for the same reason, or both have one, but for its text.
  cases he : s.effect other.settings one.vars <;> cases he' : s.effect other.settings other.vars <;>
    simp only [he, he', Except.map, Except.error.injEq, Except.ok.injEq, reduceCtorEq] at effects
  case error.error =>
    subst effects
    exact alike_throw _
  case ok.ok e e' =>
    cases e <;> cases e' <;>
      simp only [Option.map_none, Option.map_some, Option.some.injEq, reduceCtorEq] at effects
    case none.none => exact alike_pure ()
    case some.some e e' => exact Effect.run_alike like scenes effects

/-- Runs of the same steps look alike whatever the values of the variables are. -/
theorem Scene.Like.steps_alike (like : RunState.Likeness R) (scenes : one.Like R other)
    (all : List Step) : Alike R (steps one all) (steps other all) := by
  unfold steps
  split
  · exact alike_throw _
  · refine stepsFrom_alike (note_alike like) (fun done => progress_alike like done _) ?_ all
      (fun s _ => s.run_alike like scenes) 0
    rw [scenes.settings]
    exact alike_modify fun _ _ => like.later _

end Likeness

/-! ## Pages and assistants that only answer -/

/-- Pages that answer alike are called alike, with calls that differ in their texts. -/
theorem Page.AnswersLike.ask {page page' : Page} (pages : page.AnswersLike page')
    {call call' : PageCall} (same : call.withoutText = call'.withoutText) :
    Alike RunState.LooksLike (page.ask call) (page'.ask call') := by
  intro s t h
  rw [outcome_ask, outcome_ask, left_ask, left_ask]
  refine ⟨pages _ _ _ _ h.history same, (h.addCall ?_).later _ _⟩
  simp only [Call.withoutText, same]

/-- An assistant that answers to histories alike answers to calls alike. -/
theorem History.AnswersLike.respond {answer answer' : History → Except Failure α}
    (same : History.AnswersLike answer answer') (call : Call) :
    Alike RunState.LooksLike (Assistant.respond call answer)
      (Assistant.respond call answer') := by
  intro s t h
  rw [Assistant.outcome_respond, Assistant.outcome_respond, Assistant.left_respond,
    Assistant.left_respond]
  exact ⟨same _ _ h.history, h.addCall rfl⟩

section Scenes

variable {vars vars' : Variables} {page page' : Page} {observed : Bool} {settings : Settings}
  {act act' : History → Except Failure (Option ActOutcome)}
  {extract extract' : History → Except Failure (Option Json)}

/-- Runs of the same steps look alike whatever the values of the variables are. -/
theorem steps_alike (names : vars.SameNames vars') (pages : page.AnswersLike page')
    (acts : History.AnswersLike act act') (extracts : History.AnswersLike extract extract')
    (all : List Step) :
    Alike RunState.LooksLike
      (steps ⟨settings, vars, page, .answering act extract, observed⟩ all)
      (steps ⟨settings, vars', page', .answering act' extract', observed⟩ all) := by
  refine Scene.Like.steps_alike RunState.looksLike_likeness ?_ all
  exact
    { settings := rfl
      observed := rfl
      names := names
      ask := fun _ _ => pages.ask
      act := fun instruction timeout => by
        simp only [Assistant.answering, names.referencedNames]
        exact acts.respond _
      extract := fun _ _ => extracts.respond _ }

/-- Two runs whose variables have values for the same names, and whose page and assistant give the
same answers, come to the same result or failure and leave the same output, lines for the host,
capture rules and log. They make the same calls but for the texts that are filled in, inserted or
evaluated. -/
theorem runs_differ_in_texts (names : vars.SameNames vars') (pages : page.AnswersLike page')
    (acts : History.AnswersLike act act') (extracts : History.AnswersLike extract extract')
    (settings : Settings) (observed : Bool) (all : List Step) (s : RunState) :
    let one := steps ⟨settings, vars, page, .answering act extract, observed⟩ all s
    let other := steps ⟨settings, vars', page', .answering act' extract', observed⟩ all s
    outcome one = outcome other ∧
      (left one).output = (left other).output ∧
      (left one).reporter = (left other).reporter ∧
      (left one).rules = (left other).rules ∧
      (left one).log = (left other).log ∧
      (left one).calls.map (fun call => call.2.withoutText) =
        (left other).calls.map fun call => call.2.withoutText := by
  intro one other
  have alike : outcome one = outcome other ∧ (left one).LooksLike (left other) :=
    steps_alike names pages acts extracts all s s rfl
  obtain ⟨same, after⟩ := alike
  have calls := congrArg (fun v => v.calls.map (·.2)) after
  simp only [RunState.veiled, List.map_map, Function.comp_def] at calls
  exact ⟨same, after.output, after.reporter, after.rules, after.log, calls⟩

/-- A password that is typed, evaluated and mentioned to an assistant, before the page breaks
down. -/
theorem runs_differ_in_texts_password :
    let one : Variables := ⟨[("PASSWORD", "hunter2")]⟩
    let other : Variables := ⟨[("PASSWORD", "swordfish")]⟩
    let page := Page.inTurn fun k => ⟨k, if k < 2 then .ok .null else .error (.other "gone")⟩
    let act : History → Except Failure (Option ActOutcome) := fun _ => .ok (some ⟨true, "", ""⟩)
    let extract : History → Except Failure (Option Json) := fun _ => .ok none
    let all : List Step :=
      [.text ⟨some "%PASSWORD%", none⟩, .evaluate ⟨some "check('%PASSWORD%')"⟩,
        .action ⟨some "Log in with %PASSWORD%", none⟩, .text ⟨some "again %PASSWORD%", none⟩]
    one.SameNames other ∧ page.AnswersLike page ∧ History.AnswersLike act act ∧
      History.AnswersLike extract extract ∧
      ∀ settings s,
        outcome (steps ⟨settings, one, page, .answering act extract, true⟩ all s) =
          outcome (steps ⟨settings, other, page, .answering act extract, true⟩ all s) := by
  intro one other page act extract all
  have names : one.SameNames other := by
    intro name
    by_cases h : "PASSWORD" = name
    · subst h
      rfl
    · simp [one, other, Variables.value?, Variables.get?, h]
  have pages : page.AnswersLike page := Page.inTurn_answersLike fun _ => rfl
  have acts : History.AnswersLike act act := fun _ _ _ => rfl
  have extracts : History.AnswersLike extract extract := fun _ _ _ => rfl
  exact ⟨names, pages, acts, extracts, fun settings s =>
    (runs_differ_in_texts names pages acts extracts settings true all s).1⟩

end Scenes

end PageScript
