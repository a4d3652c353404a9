import PageScript.Failure
import PageScript.Json.Mismatch
import PageScript.Json.Parser
import PageScript.Lenient
import PageScript.Settings

/-!
# Jobs

A job is an object with a flag `xy`, whether progress and result lines are wanted, and `params`.
Parameters are read forgivingly; only a `params` that is neither an object nor a list is refused.
The document is kept as it came. `peekVerbose` and `peekReporting` look at a text that may not be a
job at all.
-/

namespace PageScript

/-- A job, read once. -/
structure Job where
  /-- Whether progress and result lines are wanted. -/
  reporting : Bool
  params : Params
  raw : Json
  deriving Inhabited

namespace Params

/-- The names of the parameters, in the order in which a list gives them. -/
def names : List String :=
  ["verbose", "width", "height", "domTimeout", "navTimeout", "stepDelay", "video", "scale",
   "ssl_cert_bypass", "locale", "ai_model", "ai_api_key", "ai_base_url", "ai_system_prompt",
   "ai_log_inference", "script"]

/-- The parameters whose values are found by name. -/
def ofLookup (value? : String → Option Json) : Params :=
  { verbose := (value? "verbose").bind Lenient.natural?
    width := (value? "width").bind Lenient.natural?
    height := (value? "height").bind Lenient.natural?
    domTimeout := (value? "domTimeout").bind Lenient.natural?
    navTimeout := (value? "navTimeout").bind Lenient.natural?
    stepDelay := (value? "stepDelay").bind Lenient.natural?
    video := (value? "video").bind Lenient.text?
    scale := (value? "scale").bind Lenient.float?
    sslCertBypass := (value? "ssl_cert_bypass").any Lenient.flag
    locale := (value? "locale").bind Lenient.text?
    aiModel := (value? "ai_model").bind Lenient.text?
    aiApiKey := (value? "ai_api_key").bind Lenient.text?
    aiBaseUrl := (value? "ai_base_url").bind Lenient.text?
    aiSystemPrompt := (value? "ai_system_prompt").bind Lenient.text?
    aiLogInference := (value? "ai_log_inference").any Lenient.flag
    script := (value? "script").getD .null }

/-- The parameters that an object names or a list gives one after the other. -/
def ofJson (v : Json) : Except Json.Mismatch Params :=
  match v with
  | .object fields => .ok (ofLookup fun name => Json.lookup? name fields)
  | .array items =>
    if items.length ≤ names.length then
      .ok (ofLookup fun name => Json.lookup? name (names.zip items))
    else .error (.wrongLength items.length "fewer elements in array")
  | v => v.mismatch "struct Params"

end Params

namespace Job

/-- The job that a document describes. -/
def ofJson (raw : Json) : Except Failure Job :=
  match raw with
  | .object fields =>
    let reporting := (Json.lookup? "xy" fields).any Lenient.flag
    match Json.lookup? "params" fields with
    | none | some .null => .ok ⟨reporting, .absent, raw⟩
    | some p =>
      match Params.ofJson p with
      | .ok params => .ok ⟨reporting, params, raw⟩
      | .error m => .error (.invalidInput ("invalid params: " ++ m.message))
  | _ => .error (.invalidInput "job must be a JSON object")

/-- The job that a text describes. -/
def parse (text : String) : Except Failure Job :=
  match Json.parse text with
  | .ok raw => ofJson raw
  | .error e => .error (.invalidInput ("job is not valid JSON: " ++ e.message))

/-- The settings of the job's run. -/
def settings (job : Job) : Settings :=
  .ofParams job.params

/-- How much the program should tell about itself, for a text that may be no job: zero unless it is
an object whose parameters are an object that says so. -/
def peekVerbose (text : String) : Nat :=
  match Json.parse text with
  | .ok v => (((v.field? "params").bind (·.field? "verbose")).bind Lenient.natural?).getD 0
  | .error _ => 0

/-- Whether result lines are wanted, for a text that may be no job. -/
def peekReporting (text : String) : Bool :=
  match Json.parse text with
  | .ok v => (v.field? "xy").any Lenient.flag
  | .error _ => false

end Job

end PageScript
