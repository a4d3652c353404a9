import PageScript.Json.Printer
import PageScript.Output

/-!
# Progress and result lines

A host that starts runs reads one JSON object a line: how far the run is, and at the end how it
went and what it found. A line is never broken by its content, because the printer leaves no
character below a space in it. Writing may stop working at any line; `Writer` says when.
-/

namespace PageScript

/-- What a line for the host tells. -/
inductive Report where
  /-- So many of all steps are done. -/
  | progress (done total : Nat)
  /-- The run is over, with this exit code. -/
  | result (code : Nat) (description : String) (data : Output)

namespace Report

/-- The files that a result line points to. -/
def files : Json :=
  .ofStrings ["downloads/*"]

/-- The share of the steps that is done. -/
def fraction (done total : Nat) : Float :=
  done.toFloat / total.toFloat

/-- The content of a line. -/
def toJson : Report → Json
  | .progress done total =>
    .object [("xy", .ofNat 1), ("progress", .ofFloat (fraction done total))]
  | .result code description data =>
    .object
      [("xy", .ofNat 1), ("code", .ofNat code), ("description", .string description),
       ("data", data.toJson), ("files", files)]

/-- The line, without its end. -/
def line (r : Report) : String :=
  r.toJson.print

/-- The result of a run that did all its steps. -/
def success (data : Output) : Report :=
  .result 0 "Success" data

/-- The result of a run that failed. -/
def failure (description : String) (data : Output) : Report :=
  .result 1 description data

end Report

/-- Where lines go. -/
structure Writer where
  /-- How many lines can be written, if not any number. -/
  capacity : Option Nat
  /-- Why no more can be written. -/
  trouble : String
  written : List String
  deriving DecidableEq, Repr

namespace Writer

/-- A writer that takes every line. -/
def reliable : Writer := ⟨none, "", []⟩

/-- Whether another line can be written. -/
def isOpen (w : Writer) : Bool :=
  match w.capacity with
  | none => true
  | some n => w.written.length < n

/-- Writes a line, or tells why that does not work. -/
def write (w : Writer) (line : String) : Except String Writer :=
  if w.isOpen then .ok { w with written := w.written ++ [line] } else .error w.trouble

end Writer

/-- The lines for the host, which may not want any. -/
structure Reporter where
  enabled : Bool
  writer : Writer
  deriving DecidableEq, Repr

namespace Reporter

/-- Writes the line of a report, if lines are wanted. Progress among no steps is no line. -/
def send (r : Reporter) (report : Report) : Except String Reporter :=
  match report with
  | .progress _ 0 => .ok r
  | report =>
    if r.enabled then do
      let writer ← r.writer.write report.line
      return { r with writer := writer }
    else .ok r

end Reporter

end PageScript
