import PageScript.Proofs.Lifecycle.Account

/-!
# What becomes of the recording

A recording is a file among the downloads that is made before it is known whether the recording
starts. The mode of the run decides about it when it is finished, and only then: the file of a
recording that did not start, or that did not stop in good order, is left, and so is every file if
the steps succeed and the browser cannot be closed, since the job then fails before it is decided.
In all other runs the file is there at the end exactly if the mode keeps it (`recording_left_iff`).

**What it does not establish.** What a recording shows: only whether its file is there at the end.
-/

namespace PageScript

open Run

namespace Lifecycle

variable {setting : Setting} {job : Job} {s t u : RunState}

/-- Whether a run comes to the point where it makes the file of its recording, and can make it. -/
def makesRecording (setting : Setting) (job : Job) (s : RunState) : Bool :=
  match openSession setting job s with
  | .ok _ opened =>
    job.settings.video.records && (opened.files.write setting.video []).isOk
  | .error _ _ => false

theorem makesRecording_eq_true (makes : makesRecording setting job s = true) :
    ∃ all opened made, openSession setting job s = .ok all opened ∧
      job.settings.video.records = true ∧ opened.files.write setting.video [] = .ok made := by
  unfold makesRecording at makes
  split at makes
  · rename_i all opened opens
    obtain ⟨wanted, wrote⟩ := Bool.and_eq_true_iff.mp makes
    cases made : opened.files.write setting.video [] with
    | ok files => exact ⟨all, opened, files, opens, wanted, made⟩
    | error trouble =>
      rw [made] at wrote
      cases wrote
  · cases makes

/-- When the end of such a run begins, the file is there, and the session holds the recording unless
it did not start. -/
theorem execute_of_makesRecording (makes : makesRecording setting job s = true) :
    (left (execute setting job s)).session = some ⟨true, setting.recorded⟩ ∧
      (left (execute setting job s)).files.Has setting.video := by
  obtain ⟨all, opened, made, opens, wanted, wrote⟩ := makesRecording_eq_true makes
  have turns := turns_openSession setting job s
  rw [Turns, opens] at turns
  obtain ⟨recording, begun, tried, tries⟩ :=
    tryRecord_ok setting job.settings.video turns.2.session
  obtain ⟨same, rfl⟩ := tries.made wanted made wrote
  have advances := steps_advances setting job all begun
  rw [execute_eq, bind_of_ok opens, bind_of_ok tried]
  refine ⟨advances.session.trans tries.session, advances.files.has ?_⟩
  rw [same]
  exact FileTree.write_has wrote

end Lifecycle

/-! ## From the session to the end -/

section Ends

variable {setting : Setting}

/-- The name of the recording is the name of a file, and not that of the packed inference log. -/
structure Setting.NamesRecording (setting : Setting) : Prop where
  plain : '/' ∉ setting.browser.recording.name.toList
  own : setting.browser.recording.name ≠ Model.InferenceLog.archiveName

/-- Packing the inference log neither makes the file of a recording nor takes it away. -/
theorem Setting.Packs.has_iff {files files' : FileTree} (packs : setting.Packs files files')
    (names : setting.NamesRecording) {parent : List String} {name : String}
    (leads : files.locate setting.video = .ok (parent, some name)) :
    files'.Has setting.video ↔ files.Has setting.video := by
  obtain rfl | ⟨members, stored⟩ := packs
  · rfl
  · refine FileTree.store_has_iff stored nofun leads ?_
    have archive : '/' ∉ Model.InferenceLog.archiveName.toList := by decide
    rw [Setting.video, Path.getLast?_names_join _ names.plain, Path.getLast?_names_join _ archive]
    exact fun same => names.own (Option.some.inj same)

/-- Applying a mode to a finished recording leaves its file exactly if the mode keeps it, and leaves
the directories in any case. -/
theorem VideoMode.leaves_has_iff (mode : VideoMode) {file : Path} {files : FileTree}
    (has : files.Has file) :
    ((mode.leaves (some file) files).Has file ↔ mode.keeps = true) ∧
      files.DirectoriesStay (mode.leaves (some file) files) := by
  unfold leaves
  cases mode.keeps with
  | true => exact ⟨iff_of_true has rfl, fun _ there => there⟩
  | false =>
    obtain ⟨after, removed, gone, stay⟩ := FileTree.exists_remove has
    have same : files.trying (·.remove file) = after := by
      rw [FileTree.trying, removed]
      rfl
    simp only [Bool.false_eq_true, if_false, iff_false, same]
    exact ⟨gone, stay⟩

variable {settings : Settings} {applied : Bool} {report : Output → Report} {s t : RunState}

/-- A recording did not start, or does not stop in good order. -/
def Setting.RecordingFails (setting : Setting) : Prop :=
  (∃ e, setting.browser.recording.started = .error e) ∨
    ∃ e, setting.browser.recording.stopped = .error e

/-- A recording is finished unless it fails. -/
theorem Setting.finished_cases (setting : Setting) :
    setting.finished ⟨true, setting.recorded⟩ = some setting.video ∧ ¬ setting.RecordingFails ∨
      setting.finished ⟨true, setting.recorded⟩ = none ∧ setting.RecordingFails := by
  unfold finished recorded RecordingFails
  cases setting.browser.recording.started <;> cases setting.browser.recording.stopped <;> simp

/-- A file that is there when the end begins is there afterwards, unless it is decided about the
recording, which has not failed, and the mode does not keep it. -/
theorem RunState.Ends.has_iff (ends : s.Ends setting settings applied report t)
    (names : setting.NamesRecording) (opened : s.session = some ⟨true, setting.recorded⟩)
    (has : s.files.Has setting.video) :
    t.files.Has setting.video ↔
      settings.video.keeps = true ∨ setting.RecordingFails ∨ applied = false := by
  obtain ⟨shut, grows, packs⟩ := ends.files
  have there := grows.has has
  have ⟨parent, name, leads, _⟩ := there
  rw [opened, Option.bind_some] at packs
  cases applied with
  | false => exact iff_of_true ((packs.has_iff names leads).mpr there) (.inr (.inr rfl))
  | true =>
    obtain ⟨finished, runs⟩ | ⟨finished, fails⟩ := setting.finished_cases
    · rw [if_pos rfl, finished] at packs
      obtain ⟨kept, stay⟩ := settings.video.leaves_has_iff there
      rw [packs.has_iff names (FileTree.locate_of_directoriesStay stay leads), kept]
      simp [runs]
    · rw [if_pos rfl, finished] at packs
      exact iff_of_true ((packs.has_iff names leads).mpr there) (.inr (.inl fails))

end Ends

namespace Lifecycle

/-- The steps succeed and the browser cannot be closed. -/
def ClosingFails (setting : Setting) (job : Job) (s : RunState) : Prop :=
  ∃ t e, execute setting job s = .ok () t ∧ setting.browser.close t.history = .error e

theorem decides_eq_false_iff (setting : Setting) (job : Job) (s : RunState) :
    decides setting job s = false ↔ ClosingFails setting job s := by
  unfold decides ClosingFails
  cases execute setting job s with
  | error e t => simp
  | ok _ t =>
    cases closed : setting.browser.close t.history <;> simp [closed, Except.isOk, Except.toBool]

/-- A run that made the file of its recording leaves it exactly if its mode keeps recordings, or if
the recording did not start or does not stop in good order, or if the steps succeed and the browser
cannot be closed. -/
theorem recording_left_iff {setting : Setting} {job : Job} {s : RunState}
    (makes : makesRecording setting job s = true) (names : setting.NamesRecording) :
    ∃ code t, run setting job s = .ok code t ∧
      (t.files.Has setting.video ↔
        job.settings.video.keeps = true ∨ setting.RecordingFails ∨ ClosingFails setting job s) := by
  obtain ⟨opened, has⟩ := execute_of_makesRecording makes
  obtain ⟨t, runs, ends⟩ := run_ends setting job fun _ => ⟨_, opened⟩
  refine ⟨_, t, runs, ?_⟩
  rw [ends.has_iff names opened has, decides_eq_false_iff]

/-- A browser that does all it is asked, up to being closed. -/
def obliging (closing : Except Failure Unit) : Setting :=
  { work := ⟨[], "/work"⟩
    vars := ⟨[]⟩
    browser :=
      { launch := .ok ()
        warnings := []
        openPage := .ok ()
        observe := .ok ()
        recording := ⟨"video.mjpeg", .ok (), .ok (), fun _ => []⟩
        page := ⟨fun _ _ => ⟨0, .ok .null⟩⟩
        observation := fun _ => ⟨[], []⟩
        close := fun _ => closing }
    client := .ok ()
    server := fun _ => .unreachable
    timestamp := fun _ => "" }

/-- A job of one step, whose recording is not kept. -/
def briefJob : Job :=
  { reporting := true
    params := { Params.absent with video := some "on-error", script := .string "sleep 1" }
    raw := .null }

/-- A run that goes well, whose recording is therefore not left. -/
theorem recording_left_iff_closed :
    let setting := obliging (.ok ())
    let s := RunState.beginning ⟨true, .reliable⟩ .empty
    makesRecording setting briefJob s = true ∧ setting.NamesRecording ∧
      ∃ code t, run setting briefJob s = .ok code t ∧ ¬ t.files.Has setting.video := by
  intro setting s
  have makes : makesRecording setting briefJob s = true := by decide +kernel
  have names : setting.NamesRecording := ⟨by decide +kernel, by decide +kernel⟩
  obtain ⟨code, t, runs, left⟩ := recording_left_iff makes names
  refine ⟨makes, names, code, t, runs, fun has => ?_⟩
  rcases left.mp has with kept | (⟨_, started⟩ | ⟨_, stopped⟩) | ⟨_, _, -, closed⟩
  · revert kept
    decide +kernel
  · cases started
  · cases stopped
  · cases closed

/-- A run whose steps succeed and whose browser cannot be closed leaves a recording that its mode
does not keep. -/
theorem recording_left_of_closing_fails :
    let setting := obliging (.error (.connection "browser is busy"))
    let s := RunState.beginning ⟨true, .reliable⟩ .empty
    outcome (execute setting briefJob s) = .ok () ∧
      briefJob.settings.video.records = true ∧ briefJob.settings.video.keeps = false ∧
      s.files.read setting.video = .error .notFound ∧
      outcome (run setting briefJob s) = .ok 1 ∧
      (left (run setting briefJob s)).files.read setting.video = .ok (.file []) := by
  decide +kernel

end Lifecycle

end PageScript
