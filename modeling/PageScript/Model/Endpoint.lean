import PageScript.Text.Blank
import PageScript.Text.Search

/-!
# Where the language model is

A model is named `provider/model`. The provider decides the address of its chat interface, unless
the job gives another; a name without a known provider is taken whole.
-/

namespace PageScript.Model

/-- The address of a chat interface and the name of the model there. -/
structure Endpoint where
  url : String
  /-- The model's name at the provider. -/
  model : String
  deriving DecidableEq, Repr, Inhabited

namespace Endpoint

/-- The known providers. -/
def providers : List (String × String) :=
  [("google", "https://generativelanguage.googleapis.com/v1beta/openai"),
   ("openai", "https://api.openai.com/v1"),
   ("anthropic", "https://api.anthropic.com/v1")]

/-- The address for models whose provider is not known. -/
def fallback : String := "https://api.openai.com/v1"

/-- The base address of a model, and its name at the provider. -/
def ofModel (model : List Char) : String × List Char :=
  match model.dropWhile (· != '/') with
  | _ :: name =>
    match providers.find? fun p => p.1.toList == model.takeWhile (· != '/') with
    | some (_, base) => (base, name)
    | none => (fallback, model)
  | [] => (fallback, model)

/-- The endpoint of a model, at another base address if one is given that is not blank. Slashes at
the end of the base address do not count. -/
def resolve (model : String) (base : Option String) : Endpoint :=
  let (provider, name) := ofModel model.toList
  let given := (base.map fun b => Text.trim b.toList).filter (!·.isEmpty)
  let base := Text.dropTrailing '/' (given.getD provider.toList)
  ⟨String.ofList base ++ "/chat/completions", String.ofList name⟩

end Endpoint

end PageScript.Model
