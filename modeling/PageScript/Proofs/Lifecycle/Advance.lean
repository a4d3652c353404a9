import PageScript.Lifecycle
import PageScript.Proofs.Files.Growth
import PageScript.Proofs.Model.Outward

/-!
# What steps leave of a job

A job goes from stage to stage, and only its own stages open and shut its session, take over
captures and pass its milestones. What happens within a stage leaves all of this as it is
(`RunState.Still`), instructions to a language model included. Running the steps adds lines on how
far they are and nothing else (`RunState.Advances`). Both only ever add to the files.

**What it does not establish.** How far the steps get, and which lines are written for them.
-/

namespace PageScript

open Run

/-- Nothing happened to the job, and nothing was taken from its files. -/
structure RunState.Still (s t : RunState) : Prop where
  session : t.session = s.session
  milestones : t.milestones = s.milestones
  output : t.output = s.output
  files : s.files.Grows t.files

/-- The lines on how far the steps are. -/
def Milestone.progress (told : List (Nat × Nat)) : List Milestone :=
  told.map fun (done, total) => .reported (.progress done total)

/-- Some steps were taken: nothing happened to the job but that the host was told how far it is, no
captures were taken over, and nothing was taken from the files. -/
structure RunState.Advances (s t : RunState) : Prop where
  session : t.session = s.session
  told : ∃ told, t.milestones = s.milestones ++ Milestone.progress told
  captures : t.output.captures = s.output.captures
  files : s.files.Grows t.files

namespace RunState

variable {s t u : RunState}

/-- What leaves a job as it is can be put together. -/
theorem Still.course : Course Still where
  refl _ := ⟨rfl, rfl, rfl, .refl _⟩
  trans h h' := ⟨h'.session.trans h.session, h'.milestones.trans h.milestones,
    h'.output.trans h.output, h.files.trans h'.files⟩

/-- A call leaves the job as it is. -/
theorem Still.calling : Calling Still where
  toCourse := Still.course
  called _ _ _ := ⟨rfl, rfl, rfl, .refl _⟩

/-- What leaves a job as it is advances it, by no lines. -/
theorem Still.advances (still : s.Still t) : s.Advances t :=
  ⟨still.session, ⟨[], by rw [still.milestones]; exact (List.append_nil _).symm⟩,
    congrArg Output.captures still.output, still.files⟩

/-- What advances a job can be put together. -/
theorem Advances.course : Course Advances where
  refl s := (Still.course.refl s).advances
  trans {s t u} h h' := by
    obtain ⟨first, told⟩ := h.told
    obtain ⟨next, told'⟩ := h'.told
    refine ⟨h'.session.trans h.session, ⟨first ++ next, ?_⟩, h'.captures.trans h.captures,
      h.files.trans h'.files⟩
    rw [told', told, Milestone.progress, Milestone.progress, Milestone.progress, List.map_append,
      List.append_assoc]

end RunState

open RunState

/-! ## Language models -/

/-- Keeping an exchange only adds to the files. -/
theorem Model.InferenceLog.record_grows (log : InferenceLog) (files : FileTree)
    (purpose timestamp : String) (request response : Json) :
    files.Grows (log.record files purpose timestamp request response).2.1 := by
  unfold record
  cases made : files.makeDirectory log.directory with
  | error trouble => exact .refl files
  | ok made' =>
    have grows := FileTree.makeDirectory_grows made
    dsimp only
    split
    · rename_i written
      exact grows.trans (FileTree.write_grows written)
    · exact grows

/-- Asking a model leaves the job as it is. -/
theorem Model.Client.reaches_still (client : Client) : client.Reaches Still where
  toCalling := Still.calling
  sends request s := by
    obtain same | same := client.left_send request s <;> rw [same] <;>
      exact ⟨rfl, rfl, rfl, .refl _⟩
  records request reply s := by
    unfold record
    split
    · exact Still.course.refl s
    · rename_i log kept
      have grows :=
        log.record_grows s.files request.purpose (client.timestamp s.now) request.body reply
      exact ⟨rfl, rfl, rfl, grows⟩

/-! ## Steps -/

theorem Run.send_advances (done total : Nat) : Leads Advances (send (.progress done total)) := by
  intro s
  unfold send
  dsimp only
  split <;> exact ⟨rfl, ⟨[(done, total)], rfl⟩, rfl, .refl _⟩

theorem advances_running {scene : Scene} (still : scene.assistant.Leads Still) :
    Running scene Advances where
  toCourse := Advances.course
  called s call ms := (Still.calling.called s call ms).advances
  instructed := ⟨fun vars instruction timeout => (still.act vars instruction timeout).mono
    Still.advances, fun instruction timeout => (still.extract instruction timeout).mono
    Still.advances⟩
  noted _ _ := Still.advances ⟨rfl, rfl, rfl, .refl _⟩
  waited _ _ := Still.advances ⟨rfl, rfl, rfl, .refl _⟩
  registered _ _ := Still.advances ⟨rfl, rfl, rfl, .refl _⟩
  evaluated _ _ := ⟨rfl, ⟨[], (List.append_nil _).symm⟩, rfl, .refl _⟩
  extracted _ _ := ⟨rfl, ⟨[], (List.append_nil _).symm⟩, rfl, .refl _⟩
  told := Run.send_advances

/-- Running steps tells the host how far they are, and leaves the session and the captures alone. -/
theorem Run.steps_advances {scene : Scene} (still : scene.assistant.Leads Still) (all : List Step) :
    Leads Advances (steps scene all) :=
  (advances_running still).steps all

end PageScript
