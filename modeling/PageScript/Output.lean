import PageScript.Capture.Response

/-!
# The output document

What a run leaves behind: the data it extracted, the values it evaluated and the responses it
captured, each list in the order in which its entries came about. A list without entries does not
show in the document.
-/

namespace PageScript

/-- What an instruction read off the page. -/
structure Extraction where
  prompt : String
  result : Json

/-- What an expression evaluated to. -/
structure Evaluation where
  /-- The expression as the script has it, placeholders and all. -/
  script : String
  result : Json

/-- The output document of a run. -/
structure Output where
  extractions : List Extraction
  evaluations : List Evaluation
  captures : List Capture

/-- An extraction in the document. -/
def Extraction.toJson (e : Extraction) : Json :=
  .object [("prompt", .string e.prompt), ("result", e.result)]

/-- An evaluation in the document. -/
def Evaluation.toJson (e : Evaluation) : Json :=
  .object [("script", .string e.script), ("result", e.result)]

namespace Output

/-- A document without entries. -/
def empty : Output := ⟨[], [], []⟩

/-- Whether there are no entries. -/
def isEmpty (o : Output) : Bool :=
  o.extractions.isEmpty && o.evaluations.isEmpty && o.captures.isEmpty

/-- Adds an extraction at the end. -/
def addExtraction (o : Output) (e : Extraction) : Output :=
  { o with extractions := o.extractions ++ [e] }

/-- Adds an evaluation at the end. -/
def addEvaluation (o : Output) (e : Evaluation) : Output :=
  { o with evaluations := o.evaluations ++ [e] }

/-- Adds captures at the end. -/
def addCaptures (o : Output) (captures : List Capture) : Output :=
  { o with captures := o.captures ++ captures }

/-- The field for a list of entries; no entries, no field. -/
def listField (name : String) (entries : List Json) : List (String × Json) :=
  if entries.isEmpty then [] else [(name, .array entries)]

/-- The document as a value. -/
def toJson (o : Output) : Json :=
  .object
    (listField "extractions" (o.extractions.map Extraction.toJson)
      ++ listField "evaluations" (o.evaluations.map Evaluation.toJson)
      ++ listField "captures" (o.captures.map Capture.toJson))

end Output

end PageScript
