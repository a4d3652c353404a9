import PageScript.Proofs.Lifecycle.Advance

/-!
# How a job ends

The end of a job is the same whether it succeeded or failed: its session is shut down if one is
open, the inference log is packed, and the result is told. None of its stages can fail, but closing
the browser, which makes the job fail after all; it is then ended a second time, without a session.
`Ends` says what all this leaves of the state in which the end begins, and `run_ends` that every job
ends in this way.

`Setting.finished` names the recording that the end of a session leaves, `VideoMode.leaves` says
what its mode makes of it. The mode is not applied if closing the browser is the first stage that
fails (`decides`).

**What it does not establish.** Of the files of a session that was shut down only that none
was lost is said, not which the recording and the captured bodies added.
-/

namespace PageScript

open Run

variable {s t u : RunState}

/-- Milestones were passed, and nothing else happened to the job. Its files may have changed. -/
structure RunState.Passes (passed : List Milestone) (s t : RunState) : Prop where
  session : t.session = s.session
  history : t.history = s.history
  output : t.output = s.output
  milestones : t.milestones = s.milestones ++ passed

/-- A state with the same session, history, output and milestones passed none. -/
theorem RunState.passes_none (session : t.session = s.session) (history : t.history = s.history)
    (output : t.output = s.output) (milestones : t.milestones = s.milestones) : s.Passes [] t :=
  ⟨session, history, output, milestones.trans (List.append_nil _).symm⟩

/-- Adding no captures leaves an output as it is. -/
theorem Output.addCaptures_nil (o : Output) : o.addCaptures [] = o :=
  congrArg (Output.mk _ _) (List.append_nil _)

/-- Changing the state and going on is going on in the changed state. -/
theorem Run.modify_bind (f : RunState → RunState) (g : Unit → Run α) (s : RunState) :
    ((modify f : Run Unit) >>= g) s = g () (f s) :=
  rfl

/-- Reading the state and going on is going on with it. -/
theorem Run.get_bind (g : RunState → Run α) (s : RunState) :
    ((get : Run RunState) >>= g) s = g s s :=
  rfl

/-- The files after a change that may not work. -/
def FileTree.trying (files : FileTree) (change : FileTree → Except FileTrouble FileTree) :
    FileTree :=
  (change files).toOption.getD files

/-- Trying a change that only adds to the files adds to them, whether it succeeds or not. -/
theorem FileTree.trying_grows {files : FileTree} (change : FileTree → Except FileTrouble FileTree)
    (grows : ∀ {files'}, change files = .ok files' → files.Grows files') :
    files.Grows (files.trying change) := by
  unfold trying
  cases changed : change files with
  | ok files' => exact grows changed
  | error trouble => exact .refl files

/-- An attempt to change the files always succeeds, with the trouble as its result. -/
theorem Run.attempt_onFiles (change : FileTree → Except FileTrouble FileTree) (s : RunState) :
    (onFiles change).attempt s =
      .ok (match change s.files with
        | .ok _ => .ok ()
        | .error trouble => .error (.storage trouble.message))
        { s with files := s.files.trying change } := by
  unfold attempt onFiles FileTree.trying
  cases change s.files <;> rfl

/-! ## Shutting down -/

/-- Saving the captured bodies only adds to the files. -/
theorem Finding.saveAll_grows (downloads : Path) (findings : List Finding) (files : FileTree) :
    files.Grows (saveAll files downloads findings).1 := by
  induction findings generalizing files with
  | nil => exact .refl files
  | cons finding rest ih =>
    have first : files.Grows (finding.save files downloads).1 := by
      cases finding with
      | line told => exact .refl files
      | file download =>
        unfold Finding.save Download.save
        dsimp only
        split
        · rename_i written
          exact FileTree.write_grows written
        · exact .refl files
    exact first.trans (ih _)

/-- The file of the recording that the end of a session leaves, if it has one that stops in good
order. -/
def Setting.finished (setting : Setting) (session : Session) : Option Path :=
  match setting.browser.recording.stopped with
  | .ok () => session.recording
  | .error _ => none

/-- The milestones of shutting a session down. -/
def Session.ending (session : Session) : List Milestone :=
  (if session.observed then [.tookCaptures] else []) ++ [.shutDown]

namespace Lifecycle

variable (setting : Setting) (settings : Settings)

/-- Stopping the recording of a session succeeds and gives what `finished` names. -/
theorem stopRecording_ok (session : Session) (s : RunState) :
    ∃ t, stopRecording setting session s = .ok (setting.finished session) t ∧ s.Passes [] t ∧
      s.files.Grows t.files := by
  unfold stopRecording Setting.finished
  cases session.recording with
  | none =>
    refine ⟨s, ?_, RunState.passes_none rfl rfl rfl rfl, .refl _⟩
    cases setting.browser.recording.stopped <;> rfl
  | some video =>
    cases setting.browser.recording.stopped with
    | error e =>
      exact ⟨s.addLog [.warning e.message], rfl, RunState.passes_none rfl rfl rfl rfl, .refl _⟩
    | ok _ =>
      let content := setting.browser.recording.content s.history
      refine ⟨_, bind_of_ok (attempt_onFiles (·.write video content) s) _,
        RunState.passes_none rfl rfl rfl rfl, ?_⟩
      exact FileTree.trying_grows (·.write video content) FileTree.write_grows

end Lifecycle

/-- A session was shut down: what it saw was taken over, and it is not open any more. -/
structure RunState.ShutsDown (setting : Setting) (opened : Session) (s t : RunState) : Prop where
  session : t.session = none
  history : t.history = s.history
  output : t.output = if opened.observed then
      s.output.addCaptures (setting.browser.observation s.history).captures
    else s.output
  milestones : t.milestones = s.milestones ++ opened.ending
  files : s.files.Grows t.files

namespace Lifecycle

variable (setting : Setting) (settings : Settings)

/-- Shutting down a session succeeds; whether the browser closed is part of its result. -/
theorem shutDown_ok (session : Session) (s : RunState) :
    ∃ t, shutDown setting session s =
        .ok (setting.finished session, setting.browser.close s.history) t ∧
      s.ShutsDown setting session t := by
  let closed := { s with session := none }
  obtain ⟨t, stops, passes, grows⟩ := stopRecording_ok setting session closed
  have history : t.history = s.history := passes.history
  have milestones : t.milestones = s.milestones := passes.milestones.trans (List.append_nil _)
  rw [← history]
  unfold shutDown
  rw [modify_bind, bind_of_ok stops]
  cases observed : session.observed with
  | false =>
    refine ⟨_, rfl, passes.session, history, ?_, ?_, grows⟩
    · rw [observed]
      exact passes.output
    · rw [Session.ending, observed]
      exact congrArg (· ++ [Milestone.shutDown]) milestones
  | true =>
    refine ⟨_, rfl, passes.session, history, ?_, ?_, ?_⟩
    · rw [observed, ← history]
      exact congrArg (Output.addCaptures · _) passes.output
    · rw [Session.ending, observed, ← milestones]
      exact List.append_assoc _ [Milestone.tookCaptures] [Milestone.shutDown]
    · exact grows.trans (Finding.saveAll_grows _ _ _)

end Lifecycle

/-! ## After the session -/

/-- The files when a mode has been applied to a finished recording. -/
def VideoMode.leaves (mode : VideoMode) (video : Option Path) (files : FileTree) : FileTree :=
  match video with
  | Option.none => files
  | some file => if mode.keeps then files else files.trying (·.remove file)

/-- The files after packing the inference log: as before, or with an archive among the downloads. -/
def Setting.Packs (setting : Setting) (files files' : FileTree) : Prop :=
  files' = files ∨ ∃ members,
    files.store (setting.downloads.join Model.InferenceLog.archiveName) (.archive members) =
      .ok files'

/-- The milestone of packing the inference log, if there is one. -/
def Settings.archiving (settings : Settings) : List Milestone :=
  if settings.aiLogInference then [.archived] else []

namespace Lifecycle

variable (setting : Setting) (settings : Settings)

/-- The mode of the video is applied without failing, and leaves the files that `leaves` says. -/
theorem applyVideoPolicy_ok (mode : VideoMode) (video : Option Path) (s : RunState) :
    ∃ t, applyVideoPolicy mode video s = .ok () t ∧ s.Passes [] t ∧
      t.files = mode.leaves video s.files := by
  unfold applyVideoPolicy VideoMode.leaves
  cases video with
  | none => exact ⟨s, rfl, RunState.passes_none rfl rfl rfl rfl, rfl⟩
  | some file =>
    cases mode.keeps with
    | true => exact ⟨_, rfl, RunState.passes_none rfl rfl rfl rfl, rfl⟩
    | false =>
      simp only [if_false, Bool.false_eq_true]
      rw [bind_of_ok (attempt_onFiles (·.remove file) s)]
      cases s.files.remove file <;>
        exact ⟨_, rfl, RunState.passes_none rfl rfl rfl rfl, rfl⟩

variable {setting} in
/-- An archive that was packed is one of the ways in which the log of the exchanges ends. -/
theorem packs_of_archive {files files' : FileTree} {target : Option Path}
    (packed : Model.InferenceLog.archive files setting.inference setting.downloads =
      .ok (files', target)) : setting.Packs files files' := by
  unfold Model.InferenceLog.archive at packed
  split at packed
  · cases packed
    exact .inl rfl
  · dsimp only at packed
    split at packed
    · rename_i stored
      cases packed
      exact .inr ⟨_, stored⟩
    · cases packed

/-- Packing the log of the exchanges never fails, and passes the milestone of its archive. -/
theorem archive_ok (s : RunState) :
    ∃ t, archive setting settings s = .ok () t ∧ s.Passes settings.archiving t ∧
      setting.Packs s.files t.files := by
  unfold archive Settings.archiving
  cases settings.aiLogInference with
  | false => exact ⟨s, rfl, RunState.passes_none rfl rfl rfl rfl, .inl rfl⟩
  | true =>
    rw [if_pos rfl, if_pos rfl, mark, modify_bind, get_bind]
    dsimp only
    cases packed : Model.InferenceLog.archive s.files setting.inference setting.downloads with
    | error e => exact ⟨_, rfl, ⟨rfl, rfl, rfl, rfl⟩, .inl rfl⟩
    | ok result => exact ⟨_, rfl, ⟨rfl, rfl, rfl, rfl⟩, packs_of_archive packed⟩

/-- The result is reported without failing, and no file is changed by it. -/
theorem conclude_ok (report : Report) (s : RunState) :
    ∃ t, conclude report s = .ok () t ∧ s.Passes [.reported report] t ∧ t.files = s.files := by
  unfold conclude
  rw [bind_apply, send]
  dsimp only
  cases s.reporter.send report <;> exact ⟨_, rfl, ⟨rfl, rfl, rfl, rfl⟩, rfl⟩

end Lifecycle

/-! ## The end as a whole -/

/-- The captures that are taken over when a job ends in this state. -/
def Setting.taken (setting : Setting) (s : RunState) : List Capture :=
  if s.session.any (·.observed) then (setting.browser.observation s.history).captures else []

/-- No session is open any more; if one was, it was shut down, and its recording was kept or thrown
away if the mode was applied to it. -/
structure RunState.Closes (setting : Setting) (mode : VideoMode) (applied : Bool) (s t : RunState) :
    Prop where
  session : t.session = none
  history : t.history = s.history
  output : t.output = s.output.addCaptures (setting.taken s)
  milestones : t.milestones = s.milestones ++ s.session.elim [] Session.ending
  files : ∃ shut, s.files.Grows shut ∧
    t.files = if applied then mode.leaves (s.session.bind setting.finished) shut else shut

/-- A job ended: no session is open any more, the inference log was packed if there is one, and the
result was told last. -/
structure RunState.Ends (setting : Setting) (settings : Settings) (applied : Bool)
    (report : Output → Report) (s t : RunState) : Prop where
  session : t.session = none
  history : t.history = s.history
  output : t.output = s.output.addCaptures (setting.taken s)
  milestones : t.milestones =
    s.milestones ++ s.session.elim [] Session.ending ++ settings.archiving ++
      [.reported (report t.output)]
  files : ∃ shut, s.files.Grows shut ∧ setting.Packs
    (if applied then settings.video.leaves (s.session.bind setting.finished) shut else shut) t.files

namespace RunState

variable {setting : Setting} {settings : Settings} {mode : VideoMode} {applied : Bool}
  {report : Output → Report} {v : RunState}

/-- Without an open session there is nothing to close. -/
theorem closes_of_none (ended : s.session = none) (history : t.history = s.history)
    (same : s.Still t) : s.Closes setting mode applied t := by
  refine ⟨same.session.trans ended, history, ?_, ?_, t.files, same.files, ?_⟩
  · rw [same.output, Setting.taken, ended]
    exact s.output.addCaptures_nil.symm
  · rw [same.milestones, ended]
    exact (List.append_nil _).symm
  · rw [ended]
    cases applied <;> rfl

/-- A session that was open and was shut down is closed. -/
theorem ShutsDown.closes {session : Session} (shut : s.ShutsDown setting session t)
    (opened : s.session = some session) : s.Closes setting mode false t := by
  refine ⟨shut.session, shut.history, ?_, ?_, t.files, shut.files, rfl⟩
  · rw [shut.output, Setting.taken, opened, Option.any_some]
    cases session.observed with
    | true => rfl
    | false => exact s.output.addCaptures_nil.symm
  · rw [shut.milestones, opened]
    rfl

/-- The mode is applied after a session was shut down. -/
theorem Closes.apply (closes : s.Closes setting mode false t) {video : Option Path}
    (finished : s.session.bind setting.finished = video) (passes : t.Passes [] u)
    (files : u.files = mode.leaves video t.files) : s.Closes setting mode true u := by
  obtain ⟨shut, grows, same⟩ := closes.files
  refine ⟨passes.session.trans closes.session, passes.history.trans closes.history,
    passes.output.trans closes.output, ?_, shut, grows, ?_⟩
  · rw [passes.milestones, closes.milestones, List.append_nil]
  · rw [files, same, finished]
    rfl

/-- The end of a job put together: the session closed, the archive packed, the result reported. -/
theorem Closes.ends (closes : s.Closes setting settings.video applied t)
    (archived : t.Passes settings.archiving u) (packs : setting.Packs t.files u.files)
    (told : u.Passes [.reported (report u.output)] v) (files : v.files = u.files) :
    s.Ends setting settings applied report v := by
  obtain ⟨shut, grows, same⟩ := closes.files
  refine ⟨?_, ?_, ?_, ?_, shut, grows, ?_⟩
  · rw [told.session, archived.session, closes.session]
  · rw [told.history, archived.history, closes.history]
  · rw [told.output, archived.output, closes.output]
  · rw [told.milestones, archived.milestones, closes.milestones, told.output]
  · rw [files, ← same]
    exact packs

/-- What is ended a second time ends as if it had been ended once. -/
theorem Closes.ends_again (closes : s.Closes setting settings.video false t)
    (ends : t.Ends setting settings true report u) :
    s.Ends setting settings false report u := by
  obtain ⟨shut, grows, same⟩ := closes.files
  obtain ⟨after, grows', packs⟩ := ends.files
  rw [closes.session] at packs
  refine ⟨ends.session, ends.history.trans closes.history, ?_, ?_, after, ?_, packs⟩
  · rw [ends.output, Setting.taken, closes.session, ← closes.output]
    exact t.output.addCaptures_nil
  · rw [ends.milestones, closes.session, closes.milestones]
    simp only [Option.elim_none, List.append_nil]
  · rw [if_neg Bool.false_ne_true] at same
    exact grows.trans (same ▸ grows')

end RunState

namespace Lifecycle

variable (setting : Setting) (settings : Settings)

/-- Packing the inference log and telling the result ends a job. -/
theorem ends_of_closes {mode : Bool} (report : Output → Report)
    (closes : s.Closes setting settings.video mode t) :
    ∃ u v, archive setting settings t = .ok () u ∧ conclude (report u.output) u = .ok () v ∧
      s.Ends setting settings mode report v := by
  obtain ⟨u, archives, archived, packs⟩ := archive_ok setting settings t
  obtain ⟨v, concludes, told, files⟩ := conclude_ok (report u.output) u
  exact ⟨u, v, archives, concludes, closes.ends archived packs told files⟩

/-- A job that failed is ended in this way, whether a session is open or not. -/
theorem abort_ends (failure : Failure) (s : RunState) :
    ∃ t, abort setting settings failure s = .ok () t ∧
      s.Ends setting settings true (.failure failure.message) t := by
  have tail : ∀ {t}, (s.addLog [.failure failure.message]).Closes setting settings.video true t →
      ∃ u, (do
          archive setting settings
          conclude (.failure failure.message (← get).output)) t = .ok () u ∧
        s.Ends setting settings true (.failure failure.message) u := fun closes => by
    obtain ⟨u, v, archives, concludes, ends⟩ := ends_of_closes setting settings _ closes
    refine ⟨v, ?_, ends.session, ends.history, ends.output, ends.milestones, ends.files⟩
    rw [bind_of_ok archives, get_bind, concludes]
  unfold abort
  rw [note, modify_bind, get_bind]
  dsimp only
  cases opened : (s.addLog [.failure failure.message]).session with
  | none => exact tail (RunState.closes_of_none opened rfl ⟨rfl, rfl, rfl, .refl _⟩)
  | some session =>
    dsimp only
    obtain ⟨t, shuts, shut⟩ := shutDown_ok setting session (s.addLog [.failure failure.message])
    obtain ⟨u, applies, passes, files⟩ :=
      applyVideoPolicy_ok settings.video (setting.finished session) t
    rw [bind_of_ok shuts, bind_of_ok applies]
    exact tail ((shut.closes opened).apply (by rw [opened]; rfl) passes files)

/-- If the browser closes, the first end of a job succeeds, its mode of the video applied. -/
theorem finish_of_closes {session : Session} (opened : s.session = some session)
    (closed : setting.browser.close s.history = .ok ()) :
    ∃ t u, finish setting settings s = .ok () u ∧ s.Closes setting settings.video true t ∧
      t.Passes settings.archiving u ∧ setting.Packs t.files u.files := by
  obtain ⟨t, shuts, shut⟩ := shutDown_ok setting session s
  obtain ⟨u, applies, passes, files⟩ :=
    applyVideoPolicy_ok settings.video (setting.finished session) t
  obtain ⟨v, archives, archived, packs⟩ := archive_ok setting settings u
  refine ⟨u, v, ?_, (shut.closes opened).apply (by rw [opened]; rfl) passes files, archived, packs⟩
  unfold finish
  rw [get_bind, opened]
  dsimp only
  rw [bind_of_ok shuts, closed]
  exact (bind_of_ok applies _).trans archives

/-- If the browser does not close, the first end of a job fails with that failure, and leaves the
recording as it is. -/
theorem finish_of_fails {session : Session} {e : Failure} (opened : s.session = some session)
    (fails : setting.browser.close s.history = .error e) :
    ∃ t, finish setting settings s = .error e t ∧ s.Closes setting settings.video false t := by
  obtain ⟨t, shuts, shut⟩ := shutDown_ok setting session s
  refine ⟨t, ?_, shut.closes opened⟩
  unfold finish
  rw [get_bind, opened]
  dsimp only
  rw [bind_of_ok shuts, fails]
  rfl

/-- What a job comes to: the failure of the first stage that fails. Closing the browser is the
last. -/
def verdict (setting : Setting) (job : Job) (s : RunState) : Except Failure Unit :=
  match execute setting job s with
  | .ok () t => setting.browser.close t.history
  | .error e _ => .error e

/-- The exit code for what a job comes to. -/
def exitCode : Except Failure Unit → Nat
  | .ok () => 0
  | .error _ => 1

/-- The result line for what a job comes to. -/
def result : Except Failure Unit → Output → Report
  | .ok () => .success
  | .error e => .failure e.message

/-- Whether the mode is applied to a finished recording: it is not if closing the browser is the
first stage that fails. -/
def decides (setting : Setting) (job : Job) (s : RunState) : Bool :=
  match execute setting job s with
  | .ok () t => (setting.browser.close t.history).isOk
  | .error _ _ => true

/-- Every job ends, with the exit code and the result line for what it comes to. -/
theorem run_ends (setting : Setting) (job : Job) {s : RunState}
    (opens : outcome (execute setting job s) = .ok () →
      ∃ session, (left (execute setting job s)).session = some session) :
    ∃ t, run setting job s = .ok (exitCode (verdict setting job s)) t ∧
      (left (execute setting job s)).Ends setting job.settings (decides setting job s)
        (result (verdict setting job s)) t := by
  unfold run verdict decides
  rw [bind_apply, attempt, bind_apply]
  cases executed : execute setting job s with
  | error e t =>
    obtain ⟨u, aborts, ends⟩ := abort_ends setting job.settings e t
    exact ⟨u, bind_of_ok aborts _, ends⟩
  | ok _ t =>
    rw [executed] at opens
    obtain ⟨session, opened⟩ : ∃ session, t.session = some session := opens rfl
    dsimp only [left]
    cases closed : setting.browser.close t.history with
    | error e =>
      obtain ⟨u, finishes, closes⟩ := finish_of_fails setting job.settings opened closed
      obtain ⟨v, aborts, ends⟩ := abort_ends setting job.settings e u
      rw [finishes]
      exact ⟨v, bind_of_ok aborts _, closes.ends_again ends⟩
    | ok _ =>
      obtain ⟨u, v, finishes, closes, archived, packs⟩ :=
        finish_of_closes setting job.settings opened closed
      rw [finishes]
      obtain ⟨w, concludes, told, files⟩ :=
        conclude_ok (.success v.output) (v.addLog [.info "✅ Completed all steps."])
      refine ⟨w, bind_of_ok concludes _, closes.ends archived packs ?_ files⟩
      exact ⟨told.session, told.history, told.output, told.milestones⟩

end Lifecycle

end PageScript
