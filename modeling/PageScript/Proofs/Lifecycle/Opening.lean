import PageScript.Proofs.Lifecycle.Advance

/-!
# How far a job gets before its end

Before its steps a job passes stages that may each end it: directories are made and diagnostics
written, the script is compiled, the client of the language model is made, the browser starts, a
page opens, the network is observed. `Turns` says of a stage under which condition it succeeds, and
what it leaves then and otherwise; it is kept by sequencing, so that the condition of all stages is
put together from theirs (`turns_openSession`).

**What it does not establish.** What the browser answers is left to the setting, and of the
files of a session that was opened only that none was lost is said.
-/

namespace PageScript.Lifecycle

open Run RunState

/-- How a computation turns out in a state: it succeeds exactly under a condition, and there is
something to say about what it leaves then, and otherwise. -/
def Turns (s : RunState) (condition : Prop) (succeeds : α → RunState → Prop)
    (fails : RunState → Prop) (x : Run α) : Prop :=
  match x s with
  | .ok a t => condition ∧ succeeds a t
  | .error _ t => ¬ condition ∧ fails t

section Turns

variable {s t : RunState} {c d : Prop} {P R : α → RunState → Prop} {Q : β → RunState → Prop}
  {F G : RunState → Prop} {x : Run α} {f : α → Run β}

/-- The condition of a stage may be put in other words. -/
theorem Turns.congr (turns : Turns s c P F x) (same : c ↔ d) : Turns s d P F x := by
  unfold Turns at turns ⊢
  rwa [← same]

/-- What a stage leaves may be said more loosely, in either case. -/
theorem Turns.mono (turns : Turns s c P F x) (succeeds : ∀ a t, c → P a t → R a t)
    (fails : ∀ t, ¬ c → F t → G t) : Turns s c R G x := by
  unfold Turns at turns ⊢
  cases h : x s with
  | ok a t =>
    rw [h] at turns
    exact ⟨turns.1, succeeds a t turns.1 turns.2⟩
  | error e t =>
    rw [h] at turns
    exact ⟨turns.1, fails t turns.1 turns.2⟩

/-- Two stages in a row succeed if each does. -/
theorem Turns.bind (first : Turns s c P F x)
    (next : ∀ a t, c → P a t → Turns t d Q F (f a)) : Turns s (c ∧ d) Q F (x >>= f) := by
  unfold Turns at first
  cases h : x s with
  | error e t =>
    rw [h] at first
    rw [Turns, bind_of_error h]
    exact ⟨fun both => first.1 both.1, first.2⟩
  | ok a t =>
    rw [h] at first
    have rest := next a t first.1 first.2
    unfold Turns at rest ⊢
    rw [bind_of_ok h]
    cases h' : f a t with
    | ok b u =>
      rw [h'] at rest
      exact ⟨⟨first.1, rest.1⟩, rest.2⟩
    | error e u =>
      rw [h'] at rest
      exact ⟨fun both => rest.1 both.2, rest.2⟩

/-- What comes before and never fails puts no condition. -/
theorem Turns.after {y : Run β} {g : β → Run α} {b : β} (ends : y s = .ok b t)
    (turns : Turns t c P F (g b)) : Turns s c P F (y >>= g) := by
  rwa [Turns, bind_of_ok ends]

/-- What follows and never fails puts no condition. -/
theorem Turns.bind_ok (first : Turns s c P F x)
    (next : ∀ a t, c → P a t → ∃ b u, f a t = .ok b u ∧ Q b u) : Turns s c Q F (x >>= f) := by
  refine (first.bind (d := True) fun a t holds left => ?_).congr (iff_of_eq (and_true c))
  obtain ⟨b, u, ends, after⟩ := next a t holds left
  rw [Turns, ends]
  exact ⟨trivial, after⟩

end Turns

/-! ## Stages that change files -/

/-- A computation that does to the files of a run what a function does, and nothing else. -/
def Does (change : FileTree → Except FileTrouble FileTree) (x : Run Unit) : Prop :=
  ∀ s, Turns s (∃ files, change s.files = .ok files)
    (fun _ t => s.Still t ∧ change s.files = .ok t.files) s.Still x

/-- A change of the files does what it says. -/
theorem does_onFiles (change : FileTree → Except FileTrouble FileTree)
    (grows : ∀ {files files'}, change files = .ok files' → files.Grows files') :
    Does change (onFiles change) := by
  intro s
  unfold Turns onFiles
  cases changed : change s.files with
  | ok files => exact ⟨⟨files, rfl⟩, ⟨rfl, rfl, rfl, grows changed⟩, rfl⟩
  | error trouble => exact ⟨nofun, Still.course.refl s⟩

/-- Two stages that change the files change them one after the other. -/
theorem Does.bind {f g : FileTree → Except FileTrouble FileTree} {x y : Run Unit}
    (first : Does f x) (next : Does g y) :
    Does (fun files => f files >>= g) (x >>= fun _ => y) := by
  intro s
  have both := (first s).bind (d := ∃ files, f s.files >>= g = .ok files)
    (Q := fun _ t => s.Still t ∧ f s.files >>= g = .ok t.files) (f := fun _ => y)
    fun _ t _ ⟨still, made⟩ => by
      rw [made]
      exact (next t).mono (fun _ _ _ after => ⟨Still.course.trans still after.1, after.2⟩)
        fun _ _ after => Still.course.trans still after
  refine both.congr ⟨And.right, fun holds => ⟨?_, holds⟩⟩
  obtain ⟨files, made⟩ := holds
  dsimp only at made
  cases h : f s.files with
  | ok files => exact ⟨files, rfl⟩
  | error trouble =>
    rw [h] at made
    cases made

variable (setting : Setting) (job : Job)

/-- Makes the directory for downloads, and writes the diagnostics if they are wanted. -/
def ready : Run Unit := do
  onFiles (·.makeDirectory setting.downloads)
  if 2 ≤ job.settings.verbose then dumpDiagnostics setting job

/-- The files when everything is ready. -/
def readied (files : FileTree) : Except FileTrouble FileTree := do
  let files ← files.makeDirectory setting.downloads
  if 2 ≤ job.settings.verbose then do
    let files ← files.write (setting.downloads.join "job.json") (diagnostic job.raw)
    files.write (setting.downloads.join "env.json") (diagnostic (variablesJson setting.vars))
  else return files

/-- Making the directories of a job ready does what `readied` says to the files. -/
theorem does_ready : Does (readied setting job) (ready setting job) := by
  have directory := does_onFiles (·.makeDirectory setting.downloads) FileTree.makeDirectory_grows
  have dump : ∀ name value,
      Does (·.write (setting.downloads.join name) (diagnostic value))
        (onFiles (·.write (setting.downloads.join name) (diagnostic value))) :=
    fun _ _ => does_onFiles _ FileTree.write_grows
  unfold ready readied dumpDiagnostics
  by_cases verbose : 2 ≤ job.settings.verbose
  · simp only [if_pos verbose]
    exact directory.bind ((dump _ _).bind (dump _ _))
  · simp only [if_neg verbose]
    exact directory.bind fun s => ⟨⟨s.files, rfl⟩, Still.course.refl s, rfl⟩

/-- Making the profile changes the files by that directory. -/
theorem does_makeProfile :
    Does (·.makeDirectory setting.profile) (makeProfile setting) := by
  intro s
  dsimp only
  unfold Turns makeProfile
  cases made : s.files.makeDirectory setting.profile with
  | ok files => exact ⟨⟨files, rfl⟩, ⟨rfl, rfl, rfl, FileTree.makeDirectory_grows made⟩, rfl⟩
  | error trouble => exact ⟨by rintro ⟨_, ⟨⟩⟩, Still.course.refl s⟩

/-! ## Other stages -/

/-- A stage whose outcome is known succeeds as the outcome says, and leaves the state. -/
theorem turns_stage (outcome : Except Failure Unit) (s : RunState) :
    Turns s (outcome = .ok ()) (fun _ t => t = s) (· = s) (stage outcome) := by
  cases outcome with
  | ok _ => exact ⟨rfl, rfl⟩
  | error e => exact ⟨nofun, rfl⟩

/-- A script has steps if it can be compiled and there are some. -/
def HasSteps : Prop :=
  ∃ all, (Script.compile job.params.script).1 = .ok all ∧ all ≠ []

/-- The steps of a job are there if and only if its script compiles to some. -/
theorem turns_stepsOf (s : RunState) :
    Turns s (HasSteps job)
      (fun all t => (Script.compile job.params.script).1 = .ok all ∧ t = s) (· = s)
      (stepsOf job) := by
  unfold HasSteps stepsOf
  cases (Script.compile job.params.script).1 with
  | error e => exact ⟨nofun, rfl⟩
  | ok steps =>
    cases steps with
    | nil => exact ⟨by rintro ⟨_, ⟨⟩, some⟩; exact some rfl, rfl⟩
    | cons step rest => exact ⟨⟨_, rfl, List.cons_ne_nil step rest⟩, rfl, rfl⟩

/-- Keeps the exchanges with the language model from now on, if that is wanted. -/
def keepExchanges : Run Unit :=
  if job.settings.aiLogInference then
    modify fun s => { s with inference := some (.ofDirectory setting.inference) }
  else return ()

/-- Making the directory of the exchanges never fails, and changes nothing but the files. -/
theorem keepExchanges_ok (s : RunState) :
    ∃ t, keepExchanges setting job s = .ok () t ∧ s.Still t ∧ t.files = s.files := by
  unfold keepExchanges
  cases job.settings.aiLogInference <;> exact ⟨_, rfl, ⟨rfl, rfl, rfl, .refl _⟩, rfl⟩

/-- The preparation of a job, by its stages. -/
theorem prepare_eq :
    prepare setting job = do
      ready setting job
      let all ← stepsOf job
      stage setting.client
      keepExchanges setting job
      return all := by
  unfold prepare ready keepExchanges
  by_cases verbose : 2 ≤ job.settings.verbose <;> by_cases logs : job.settings.aiLogInference <;>
    simp only [verbose, logs, if_true, if_false, bind_assoc, pure_bind, Bool.false_eq_true]

/-- A job is prepared if and only if its directories can be made, its script has steps and its
client can be made. -/
theorem turns_prepare (s : RunState) :
    Turns s ((∃ made, readied setting job s.files = .ok made) ∧ HasSteps job ∧
        setting.client = .ok ())
      (fun _ t => s.Still t ∧ readied setting job s.files = .ok t.files) s.Still
      (prepare setting job) := by
  rw [prepare_eq]
  refine (does_ready setting job s).bind fun _ t _ ⟨still, made⟩ => ?_
  refine ((turns_stepsOf job t).mono (fun _ _ _ h => h) fun u _ same => same ▸ still).bind ?_
  rintro all _ _ ⟨-, rfl⟩
  refine ((turns_stage setting.client _).mono (fun _ _ _ h => h)
    fun u _ same => same ▸ still).bind_ok ?_
  rintro _ t _ rfl
  obtain ⟨u, kept, still', files⟩ := keepExchanges_ok setting job t
  exact ⟨all, u, bind_of_ok kept _, Still.course.trans still still', files ▸ made⟩

end PageScript.Lifecycle

namespace PageScript

/-! ## From the browser on -/

/-- The browser was started, and a session opened in which the network is observed or not. -/
structure RunState.Started (observed : Bool) (s t : RunState) : Prop where
  session : t.session = some ⟨observed, none⟩
  milestones : t.milestones = s.milestones ++ [.launched]
  output : t.output = s.output
  files : s.files.Grows t.files

/-- What is started from a state is started from any state before it that nothing changed. -/
theorem RunState.Still.started {observed : Bool} {s t u : RunState} (still : s.Still t)
    (started : t.Started observed u) : s.Started observed u :=
  ⟨started.session, started.milestones.trans (by rw [still.milestones]),
    started.output.trans still.output, still.files.trans started.files⟩

namespace Lifecycle

open Run RunState

variable (setting : Setting) (job : Job)

/-- The browser is launched if and only if its profile can be made and it starts. -/
theorem turns_launch (s : RunState) :
    Turns s ((∃ files, s.files.makeDirectory setting.profile = .ok files) ∧
        setting.browser.launch = .ok ())
      (fun _ => s.Started false) s.Still (launch setting) := by
  unfold launch
  refine Turns.after (t := s.addLog [.info "🔵 Launching Chrome..."]) rfl ?_
  have profile := (does_makeProfile setting (s.addLog [.info "🔵 Launching Chrome..."])).mono
    (R := fun _ => s.Still) (G := s.Still)
    (fun _ _ _ made => ⟨made.1.session, made.1.milestones, made.1.output, made.1.files⟩)
    fun _ _ still => ⟨still.session, still.milestones, still.output, still.files⟩
  refine profile.bind fun _ t _ still => ?_
  refine ((turns_stage setting.browser.launch t).mono (R := fun _ => s.Still)
    (fun _ _ _ same => same ▸ still) fun _ _ same => same ▸ still).bind_ok ?_
  intro _ u _ still
  refine ⟨(), _, rfl, rfl, ?_, still.output, still.files⟩
  exact congrArg (· ++ [Milestone.launched]) still.milestones

/-- What must go well for the browser to start: its files and those that come before it can be made,
the script has steps, there is a client for the language model, and the browser itself starts. -/
structure Launches (files : FileTree) : Prop where
  files : ∃ made profiled,
    readied setting job files = .ok made ∧ made.makeDirectory setting.profile = .ok profiled
  script : HasSteps job
  client : setting.client = .ok ()
  browser : setting.browser.launch = .ok ()

/-- What must go well for the steps to begin: the browser starts, a page opens, and the network can
be observed. -/
structure Opens (files : FileTree) : Prop extends Launches setting job files where
  page : setting.browser.openPage = .ok ()
  observer : setting.browser.observe = .ok ()

/-- Makes ready what the browser needs, and starts it. -/
def start : Run (List Step) := do
  let all ← prepare setting job
  launch setting
  return all

/-- Opens a session in which the network is observed. -/
def openSession : Run (List Step) := do
  let all ← start setting job
  stage setting.browser.openPage
  stage setting.browser.observe
  onSession ({ · with observed := true })
  return all

/-- A job is launched if and only if it is prepared and its browser starts. -/
theorem turns_start (s : RunState) :
    Turns s (Launches setting job s.files) (fun _ => s.Started false) s.Still
      (start setting job) := by
  -- The profile is made among the files that the stages before have left.
  have rest : ∀ (all : List Step) t, s.Still t ∧ readied setting job s.files = .ok t.files →
      Turns t ((∃ made profiled, readied setting job s.files = .ok made ∧
          made.makeDirectory setting.profile = .ok profiled) ∧ setting.browser.launch = .ok ())
        (fun _ => s.Started false) s.Still (do launch setting; return all) := by
    rintro all t ⟨still, made⟩
    have launched := ((turns_launch setting t).mono (fun _ _ _ h => still.started h)
      fun _ _ h => Still.course.trans still h).bind_ok (Q := fun _ => s.Started false)
        fun _ u _ started => ⟨all, u, rfl, started⟩
    refine launched.congr (and_congr_left' ⟨?_, ?_⟩)
    · rintro ⟨profiled, h⟩
      exact ⟨t.files, profiled, made, h⟩
    · rintro ⟨_, profiled, made', h⟩
      cases made.symm.trans made'
      exact ⟨profiled, h⟩
  refine ((turns_prepare setting job s).bind fun all t _ => rest all t).congr ⟨?_, ?_⟩
  · rintro ⟨⟨-, script, client⟩, files, browser⟩
    exact ⟨files, script, client, browser⟩
  · rintro ⟨⟨made, profiled, readied, profile⟩, script, client, browser⟩
    exact ⟨⟨⟨made, readied⟩, script, client⟩, ⟨made, profiled, readied, profile⟩, browser⟩

/-- A session that is observed is opened, or the job has failed before the browser was started, or
with a session that is not observed. -/
theorem turns_openSession (s : RunState) :
    Turns s (Opens setting job s.files) (fun _ => s.Started true)
      (fun t => ¬ Launches setting job s.files ∧ s.Still t ∨
        Launches setting job s.files ∧ s.Started false t)
      (openSession setting job) := by
  have started := (turns_start setting job s).mono (fun _ _ launches h => And.intro launches h)
    (G := fun t => ¬ Launches setting job s.files ∧ s.Still t ∨
        Launches setting job s.files ∧ s.Started false t) fun _ fails h => .inl ⟨fails, h⟩
  refine (started.bind fun all t _ begun => ?_).congr (d := Opens setting job s.files)
    (c := _ ∧ setting.browser.openPage = .ok () ∧ setting.browser.observe = .ok ())
    ⟨fun ⟨launches, page, observer⟩ => ⟨launches, page, observer⟩,
      fun opens => ⟨opens.toLaunches, opens.page, opens.observer⟩⟩
  refine ((turns_stage setting.browser.openPage t).mono (fun _ _ _ same => same)
    fun _ _ same => .inr (same ▸ begun)).bind ?_
  rintro _ _ - rfl
  refine ((turns_stage setting.browser.observe _).mono (fun _ _ _ same => same)
    fun _ _ same => .inr (same ▸ begun)).bind_ok ?_
  rintro _ u - rfl
  obtain ⟨-, started⟩ := begun
  refine ⟨all, _, rfl, ?_, started.milestones, started.output, started.files⟩
  exact congrArg (Option.map _) started.session

end Lifecycle

/-! ## The steps -/

/-- The recording of a session once it has been started, if it can be. -/
def Setting.recorded (setting : Setting) : Option Path :=
  match setting.browser.recording.started with
  | .ok () => some setting.video
  | .error _ => none

/-- It was tried to record: if the file of the recording could be made it is there, and the session
holds the recording unless it did not start. -/
structure Setting.TriesToRecord (setting : Setting) (mode : VideoMode) (recording : Option Path)
    (s t : RunState) : Prop where
  session : t.session = some ⟨true, recording⟩
  milestones : t.milestones = s.milestones
  output : t.output = s.output
  files : s.files.Grows t.files
  made : mode.records = true → ∀ made, s.files.write setting.video [] = .ok made →
    t.files = made ∧ recording = setting.recorded

namespace Lifecycle

open Run RunState

variable (setting : Setting) (job : Job)

/-- Where the file of the video can be written, recording is as the browser says. -/
theorem record_of_write {s : RunState} {made : FileTree}
    (wrote : s.files.write setting.video [] = .ok made) :
    record setting s = stage setting.browser.recording.started { s with files := made } := by
  refine bind_of_ok (a := ()) ?_ _
  simp only [onFiles, wrote]

/-- Trying to record never fails, whatever becomes of the recording. -/
theorem tryRecord_ok (mode : VideoMode) {s : RunState} (opened : s.session = some ⟨true, none⟩) :
    ∃ recording t, tryRecord setting mode s = .ok () t ∧
      setting.TriesToRecord mode recording s t := by
  unfold tryRecord
  cases records : mode.records with
  | false =>
    exact ⟨none, s, rfl, opened, rfl, rfl, .refl _, fun wanted => nomatch records.symm.trans wanted⟩
  | true =>
    rw [if_pos rfl, bind_apply, attempt]
    cases wrote : s.files.write setting.video [] with
    | error trouble =>
      have fails : record setting s = .error (.storage trouble.message) s := by
        refine bind_of_error ?_ _
        simp only [onFiles, wrote]
      rw [fails]
      refine ⟨none, _, rfl, opened, rfl, rfl, .refl _, fun _ made h => ?_⟩
      cases wrote.symm.trans h
    | ok made =>
      have grows := FileTree.write_grows wrote
      rw [record_of_write setting wrote]
      cases started : setting.browser.recording.started with
      | error e =>
        refine ⟨none, _, rfl, opened, rfl, rfl, grows, fun _ made' h => ?_⟩
        cases wrote.symm.trans h
        exact ⟨rfl, by rw [Setting.recorded, started]⟩
      | ok _ =>
        refine ⟨some setting.video, _, rfl, ?_, rfl, rfl, grows, fun _ made' h => ?_⟩
        · exact congrArg (Option.map _) opened
        · cases wrote.symm.trans h
          exact ⟨rfl, by rw [Setting.recorded, started]⟩

/-- The execution of a job: its session opened, its recording tried, its steps run. -/
theorem execute_eq :
    execute setting job = (do
      let all ← openSession setting job
      tryRecord setting job.settings.video
      Run.steps (scene setting job.settings) all) := by
  unfold execute openSession start
  simp only [bind_assoc, pure_bind]

/-- The steps of a job advance its state. -/
theorem steps_advances (all : List Step) :
    Leads Advances (Run.steps (scene setting job.settings) all) :=
  Run.steps_advances ((Model.Client.reaches_still _).assistant _) all

end Lifecycle

/-- How far a job has come before its end: the session that is open, and what has happened since it
began. -/
structure RunState.Reaches (opened : Option Session) (told : List (Nat × Nat)) (s t : RunState) :
    Prop where
  session : t.session = opened
  milestones : t.milestones =
    s.milestones ++ (if opened.isSome then [.launched] else []) ++ Milestone.progress told
  captures : t.output.captures = s.output.captures
  files : s.files.Grows t.files

namespace Lifecycle

open Run RunState

variable (setting : Setting) (job : Job)

/-- Before its end a job has a session exactly if its browser could start, and the network is
observed exactly if all could be done that comes before the steps. It has succeeded so far only in
this case. -/
theorem execute_reaches {s : RunState} (fresh : s.session = none) :
    ∃ session told, s.Reaches session told (left (execute setting job s)) ∧
      (session.isSome = true ↔ Launches setting job s.files) ∧
      (session.any (·.observed) = true ↔ Opens setting job s.files) ∧
      (outcome (execute setting job s) = .ok () → session.any (·.observed) = true) := by
  have turns := turns_openSession setting job s
  rw [execute_eq]
  unfold Turns at turns
  cases opened : openSession setting job s with
  | error e t =>
    rw [opened] at turns
    rw [bind_of_error opened]
    obtain ⟨closed, ⟨fails, still⟩ | ⟨launches, started⟩⟩ := turns
    · refine ⟨none, [], ⟨still.session.trans fresh, ?_, congrArg _ still.output, still.files⟩,
        iff_of_false Bool.false_ne_true fails, iff_of_false Bool.false_ne_true closed,
        fun ended => by cases ended⟩
      simp [Milestone.progress, left, still.milestones]
    · refine ⟨some ⟨false, none⟩, [],
        ⟨started.session, ?_, congrArg _ started.output, started.files⟩,
        iff_of_true rfl launches, iff_of_false Bool.false_ne_true closed,
        fun ended => by cases ended⟩
      simp [Milestone.progress, left, started.milestones]
  | ok all t =>
    rw [opened] at turns
    rw [bind_of_ok opened]
    obtain ⟨opens, started⟩ := turns
    obtain ⟨recording, u, tried, tries⟩ := tryRecord_ok setting job.settings.video started.session
    rw [bind_of_ok tried]
    have advances := steps_advances setting job all u
    obtain ⟨told, milestones⟩ := advances.told
    refine ⟨some ⟨true, recording⟩, told, ⟨advances.session.trans tries.session, ?_, ?_, ?_⟩,
      iff_of_true rfl opens.toLaunches, iff_of_true rfl opens, fun _ => rfl⟩
    · rw [milestones, tries.milestones, started.milestones]
      rfl
    · rw [advances.captures, tries.output, started.output]
    · exact (started.files.trans tries.files).trans advances.files

end Lifecycle

end PageScript
