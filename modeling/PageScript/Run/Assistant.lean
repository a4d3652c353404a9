import PageScript.Run.State
import PageScript.Variables

/-!
# Assistants

Whoever carries out instructions in natural language. An assistant is described by the computation
that an instruction leads to; `Assistant.answering` is one that only answers and touches nothing.
-/

namespace PageScript

/-- Whoever carries out instructions. -/
structure Assistant where
  /-- Carries out an instruction, for whose operations on the page a timeout is given; there may be
  no outcome at all. -/
  act : Variables → String → Nat → Run (Option ActOutcome)
  /-- Reads data off the page, if it finds what is asked for. -/
  extract : String → Nat → Run (Option Json)

namespace Assistant

/-- Makes a call that is answered at once, by what the calls before it were. -/
def respond (call : Call) (answer : History → Except Failure α) : Run α := fun s =>
  match answer s.history with
  | .ok a => .ok a (s.addCall call)
  | .error e => .error e (s.addCall call)

/-- An assistant that answers at once and does nothing else. -/
def answering (act : History → Except Failure (Option ActOutcome))
    (extract : History → Except Failure (Option Json)) : Assistant where
  act vars instruction timeout :=
    respond (.act instruction timeout (vars.referencedNames instruction)) act
  extract instruction timeout := respond (.extract instruction timeout) extract

end Assistant

end PageScript
