import PageScript.Json.Fault
import PageScript.Text.Utf8

/-!
# Readers

Documents are read from symbols, so that bytes which are no text can be refused where they stand.
A reader takes a value off the front of the symbols and leaves fewer of them, which is why lists
and objects of any length end. A refusal counts the bytes that were not read.
-/

namespace PageScript

namespace Json

open Text (Symbol width)

/-- A refusal, by the number of bytes after the place. -/
structure Fault where
  cause : Cause
  /-- How many bytes follow the place. -/
  left : Nat
  deriving DecidableEq, Repr

/-- What reading a part of a document gives: the part and the symbols after it. -/
abbrev Outcome (α : Type) := Except Fault (α × List Symbol)

/-- Refuses at the place where the given symbols begin. -/
def refuse (cause : Cause) (s : List Symbol) : Outcome α :=
  .error ⟨cause, width s⟩

/-- Refuses one byte into the given symbols, or at their end when there are none. -/
def refuseNext (cause : Cause) (s : List Symbol) : Outcome α :=
  .error ⟨cause, width s - 1⟩

/-- Applies a function to the part that was read. -/
def onValue (f : α → β) : Outcome α → Outcome β
  | .ok (a, r) => .ok (f a, r)
  | .error e => .error e

theorem onValue_eq_ok {f : α → β} {o : Outcome α} {b : β} {r : List Symbol} :
    onValue f o = .ok (b, r) ↔ ∃ a, o = .ok (a, r) ∧ f a = b := by
  cases o with
  | error e => simp [onValue]
  | ok p => obtain ⟨a, r'⟩ := p; simp [onValue]; grind

/-- Whether a symbol may stand between the tokens of a document. -/
def isSeparator : Symbol → Bool
  | .char c => c == ' ' || c == '\n' || c == '\t' || c == '\r'
  | .stray _ => false

/-- The symbols from the first that is no separator. -/
def skipBlank (s : List Symbol) : List Symbol :=
  s.dropWhile isSeparator

theorem length_skipBlank_le (s : List Symbol) : (skipBlank s).length ≤ s.length :=
  (List.dropWhile_suffix isSeparator).length_le

/-- Takes a value off the front of symbols. -/
structure Reader (α : Type) where
  /-- The value and the symbols after it. -/
  run : List Symbol → Outcome α
  /-- A value takes at least one symbol. -/
  shorter : ∀ {s a r}, run s = .ok (a, r) → r.length < s.length

end Json

end PageScript
