import PageScript.Json.Value
import PageScript.Video

/-!
# Settings of a run

The parameters of a job as they were read, and the settings of the run with every default filled
in. Zero counts as absent in every numeric parameter.
-/

namespace PageScript

/-- The parameters of a job. -/
structure Params where
  /-- How much the program tells about itself. -/
  verbose : Option Nat
  width : Option Nat
  height : Option Nat
  /-- How long elements may take, in milliseconds. -/
  domTimeout : Option Nat
  /-- How long navigations may take, in milliseconds. -/
  navTimeout : Option Nat
  /-- The pause after each step, in milliseconds. -/
  stepDelay : Option Nat
  /-- The word for the recording policy. -/
  video : Option String
  /-- Pixels of the device per pixel of the page. -/
  scale : Option Float
  sslCertBypass : Bool
  locale : Option String
  aiModel : Option String
  aiApiKey : Option String
  /-- Address of the language model, in place of the provider's. -/
  aiBaseUrl : Option String
  /-- Instructions that go before those of this program. -/
  aiSystemPrompt : Option String
  /-- Whether exchanges with the language model are kept. -/
  aiLogInference : Bool
  script : Json
  deriving Inhabited

namespace Params

/-- Parameters of which none is given. -/
def absent : Params :=
  { verbose := none, width := none, height := none, domTimeout := none, navTimeout := none
    stepDelay := none, video := none, scale := none, sslCertBypass := false, locale := none
    aiModel := none, aiApiKey := none, aiBaseUrl := none, aiSystemPrompt := none
    aiLogInference := false, script := .null }

end Params

/-- The settings of a run. -/
structure Settings where
  /-- How much the program tells about itself. -/
  verbose : Nat
  width : Nat
  height : Nat
  /-- How long elements may take, in milliseconds. -/
  domTimeout : Nat
  /-- How long navigations may take, in milliseconds. -/
  navTimeout : Nat
  /-- The pause after each step, in milliseconds. -/
  stepDelay : Nat
  video : VideoMode
  /-- Pixels of the device per pixel of the page. -/
  scale : Float
  sslCertBypass : Bool
  locale : String
  aiModel : String
  aiApiKey : String
  /-- Address of the language model, in place of the provider's. -/
  aiBaseUrl : Option String
  /-- Instructions that go before those of this program. -/
  aiSystemPrompt : Option String
  /-- Whether exchanges with the language model are kept. -/
  aiLogInference : Bool
  deriving Inhabited

namespace Settings

/-- A number that is given and positive, or else a default. -/
def positiveOr (n : Option Nat) (default : Nat) : Nat :=
  match n with
  | some n => if 0 < n then n else default
  | none => default

/-- A page dimension: positive and below 2 ^ 32, or else a default. -/
def dimensionOr (n : Option Nat) (default : Nat) : Nat :=
  match n with
  | some n => if 0 < n ∧ n < 0x100000000 then n else default
  | none => default

/-- A positive scale, or else one. -/
def scaleOr (x : Option Float) : Float :=
  match x with
  | some x => if x > 0 then x else 1
  | none => 1

/-- The settings that parameters ask for. -/
def ofParams (p : Params) : Settings :=
  { verbose := p.verbose.getD 0
    width := dimensionOr p.width 1280
    height := dimensionOr p.height 720
    domTimeout := positiveOr p.domTimeout 3000
    navTimeout := positiveOr p.navTimeout 30000
    stepDelay := positiveOr p.stepDelay 1000
    video := .ofWord? p.video
    scale := scaleOr p.scale
    sslCertBypass := p.sslCertBypass
    locale := p.locale.getD "en-US"
    aiModel := p.aiModel.getD "google/gemini-2.5-flash"
    aiApiKey := p.aiApiKey.getD ""
    aiBaseUrl := p.aiBaseUrl
    aiSystemPrompt := p.aiSystemPrompt
    aiLogInference := p.aiLogInference }

end Settings

end PageScript
