import PageScript.Proofs.Model.Comparing
import PageScript.Proofs.Run.Reporting

/-!
# Lines for the host change nothing

Asking a model depends on the requests before, on the exchanges kept and on the files they are kept
in, and only adds to the log (`assistant_detached`). So it holds of runs with a model, as of runs
with any assistant that takes no notice of the lines for the host, that the host may read all lines,
some or none, and everything but the lines and the log is the same
(`reporting_influences_nothing`).

**What it does not establish.** The two logs are not compared: a warning for each line that could
not be written is what they differ in. What happens after the last step, when the job is ended, is
no matter of this module.
-/

namespace PageScript

open Run
open RunState (Beside)

namespace Model.Client

variable {Q : Reporter → Reporter → Prop} (client : Client) (page : Page)

theorem send_beside (request : Request) :
    Alike (Beside Q) (client.send request) (client.send request) := by
  intro s t h
  have requests : s.requests = t.requests := h.view fun _ => rfl
  simp only [send, requests]
  split
  · exact ⟨rfl, h⟩
  · cases client.server (t.requests ++ [request]) with
    | unreachable => exact ⟨rfl, h⟩
    | answered status body =>
      have sent := h.congr (f := fun s => { s with requests := t.requests ++ [request] })
        ⟨fun _ => rfl, fun _ => rfl⟩
      dsimp only
      cases Json.parseBytes body with
      | ok reply => exact ⟨rfl, sent⟩
      | error _ => exact ⟨rfl, sent⟩

/-- Keeping an exchange depends on the time, the files and the exchanges kept before. -/
theorem record_beside (request : Request) (reply : Json) :
    Alike (Beside Q) (client.record request reply) (client.record request reply) := by
  intro s t h
  have inference : s.inference = t.inference := h.view fun _ => rfl
  have files : s.files = t.files := h.view fun _ => rfl
  have now : s.now = t.now := h.view fun _ => rfl
  simp only [record, inference]
  cases t.inference with
  | none => exact ⟨rfl, h⟩
  | some log =>
    have kept : log.record s.files request.purpose (client.timestamp s.now) request.body reply =
        log.record t.files request.purpose (client.timestamp t.now) request.body reply := by
      rw [files, now]
    dsimp only
    rw [kept]
    obtain ⟨log, files, lines⟩ :=
      log.record t.files request.purpose (client.timestamp t.now) request.body reply
    exact ⟨rfl, h.congr
      (f := fun s => { s with inference := some log, files := files, log := s.log ++ lines })
      ⟨fun _ => rfl, fun _ => rfl⟩⟩

theorem complete_beside (purpose : String) (messages : List Message) :
    Alike (Beside Q) (client.complete purpose messages) (client.complete purpose messages) := by
  refine (client.send_beside _).bind fun answer => ?_
  refine (client.record_beside _ _).bind fun _ => ?_
  cases answerOf answer.1 answer.2 with
  | ok v => exact alike_pure v
  | error e => exact alike_throw e

theorem matched_beside : Matched (Beside Q) client client page where
  instructions := rfl
  ask call := page.ask_alike call Beside.recalling
  askWithin ms what call := page.askWithin_alike call Beside.recalling ms what
  completeAct := client.complete_beside "act"
  completeExtract := client.complete_beside "extract"

/-- A model as an assistant takes no notice of the lines for the host. -/
theorem assistant_detached : (client.assistant page).Detached where
  act _ := (client.matched_beside page).act
  extract _ := (client.matched_beside page).extract

end Model.Client

section Runs

variable {scene : Scene}

/-- Two runs of the same steps whose reporters differ, in whether lines are wanted and in how many
can be written, come to the same result or failure at the same time. They make the same calls at the
same times, have the same requests answered by a language model, and leave the same capture rules,
output and files. If the second writer takes every line, and lines are wanted in the second run if
they are in the first, the lines of the first run are the first of those of the second; lines are
missing only if none is wanted or accepted any more. -/
theorem reporting_influences_nothing (detached : scene.assistant.Detached) (all : List Step)
    (s : RunState) (one other : Reporter) :
    let first := steps scene all { s with reporter := one }
    let second := steps scene all { s with reporter := other }
    outcome first = outcome second ∧
      (left first).now = (left second).now ∧
      (left first).calls = (left second).calls ∧
      (left first).requests = (left second).requests ∧
      (left first).rules = (left second).rules ∧
      (left first).output = (left second).output ∧
      (left first).inference = (left second).inference ∧
      (left first).files = (left second).files ∧
      (one.writer.written = other.writer.written → other.writer.capacity = none →
        (one.enabled = true → other.enabled = true) →
        (left first).reporter.writer.written <+: (left second).reporter.writer.written ∧
          ((left first).reporter.Accepts →
            (left first).reporter.writer.written = (left second).reporter.writer.written)) := by
  intro first second
  have alike : outcome first = outcome second ∧
      Beside (fun _ _ => True) (left first) (left second) :=
    steps_beside detached (fun _ _ _ _ => trivial) all _ _ ⟨rfl, trivial⟩
  obtain ⟨same, after⟩ := alike
  refine ⟨same, after.view fun _ => rfl, after.view fun _ => rfl, after.view fun _ => rfl,
    after.view fun _ => rfl, after.view fun _ => rfl, after.view fun _ => rfl,
    after.view fun _ => rfl, fun start unlimited wanted => ?_⟩
  have trails : Reporter.Trails one other :=
    ⟨wanted, unlimited, start ▸ List.prefix_rfl, fun _ => start⟩
  obtain ⟨-, -, reporters⟩ := steps_beside detached Reporter.trails_keptBySending all
    { s with reporter := one } { s with reporter := other } ⟨rfl, trails⟩
  exact ⟨reporters.lines, reporters.all⟩

/-- A host that stops reading after one line, in a run whose third step fails; and the same host in
a run where a model carries out the instructions. -/
theorem reporting_influences_nothing_brokenPipe :
    let page : Page := ⟨fun _ _ => ⟨5, .ok .null⟩⟩
    let assistant := Assistant.answering (fun _ => .ok none) fun _ => .ok (some (.bool true))
    let all : List Step :=
      [.unknown "dance", .extract ⟨some "the balance", none⟩, .action ⟨some "Log in", none⟩]
    let broken : Reporter := ⟨true, ⟨some 1, "broken pipe", []⟩⟩
    let working : Reporter := ⟨true, .reliable⟩
    assistant.Detached ∧
      ∀ settings vars,
        let ending (r : Reporter) := steps ⟨settings, vars, page, assistant, true⟩ all (.initial r)
        outcome (ending broken) = outcome (ending working) ∧
          outcome (ending working) = .error (.actionFailed "Log in: no outcome returned") ∧
          (left (ending broken)).calls = (left (ending working)).calls ∧
          (left (ending broken)).reporter.writer.written.length = 1 ∧
          (left (ending working)).reporter.writer.written.length = 2 ∧
          (left (ending broken)).reporter.writer.written <+:
            (left (ending working)).reporter.writer.written ∧
          ∀ client : Model.Client,
            let asking (r : Reporter) :=
              steps ⟨settings, vars, page, client.assistant page, true⟩ all (.initial r)
            (client.assistant page).Detached ∧
              outcome (asking broken) = outcome (asking working) ∧
              (left (asking broken)).calls = (left (asking working)).calls ∧
              (left (asking broken)).files = (left (asking working)).files := by
  intro page assistant all broken working
  have detached : assistant.Detached := Assistant.answering_detached _ _
  refine ⟨detached, fun settings vars => ?_⟩
  let scene : Scene := ⟨settings, vars, page, assistant, true⟩
  have inScene : scene.assistant.Detached := detached
  obtain ⟨same, -, calls, -, -, -, -, -, lines⟩ :=
    reporting_influences_nothing inScene all (.initial working) broken working
  refine ⟨same, rfl, calls, rfl, rfl, (lines rfl rfl fun _ => rfl).1, fun client => ?_⟩
  let asked : Scene := ⟨settings, vars, page, client.assistant page, true⟩
  have withModel : asked.assistant.Detached := client.assistant_detached page
  obtain ⟨same', -, calls', -, -, -, -, files', -⟩ :=
    reporting_influences_nothing withModel all (.initial working) broken working
  exact ⟨withModel, same', calls', files'⟩

end Runs

end PageScript
