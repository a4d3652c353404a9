import Mathlib.Data.List.Basic
import PageScript.Proofs.Json.Fields
import PageScript.Proofs.Script.Keyword
import PageScript.Proofs.Text.Numerals
import PageScript.Script.Compile

/-!
# Line scripts and structured scripts agree

A step that a line can hold has a document (`LineStep.toJson`) and many spellings (`Spells`): any
case of the keyword's letters, a colon or none, any blanks, the words `to` and `for` or not. A line
script is written in rows, one for each step, indented in any way, with blank rows and comments
between them. `lines_agree_with_documents` says that compiling the rows gives the steps that
compiling the documents gives.

**What it does not establish.** Only what a line can hold is compared: a document may also hold a
timeout, a size, or a kind of step that no line has.
-/

namespace PageScript.Script

open Line Text

/-! ## Steps that a line can hold -/

/-- A text that is not empty and holds no blank. -/
structure Token where
  chars : List Char
  some : chars ≠ []
  solid : hasBlank chars = false

/-- A text that is not empty, neither begins nor ends with a blank, and is a single line. -/
structure Phrase where
  chars : List Char
  some : chars ≠ []
  bare : Bare chars
  oneLine : '\n' ∉ chars

/-- A step that a line can hold. -/
inductive LineStep where
  | navigate (url : Token)
  | capture (url : Token)
  /-- Read data off the page; the instruction begins with the keyword. -/
  | extract (prompt : Phrase) (asks : (afterKeyword "extract".toList prompt.chars).isSome = true)
  | evaluate (script : Phrase)
  | sleep (ms : UInt64)
  /-- Carry out an instruction, which no rule accepts. -/
  | action (prompt : Phrase) (begins : isInstruction prompt.chars = true)
      (refused : ∀ rule ∈ rules, rule.read prompt.chars = none)

namespace LineStep

/-- The step that a line holds. -/
def toStep : LineStep → Step
  | .navigate url => .navigate ⟨some (.string (String.ofList url.chars)), none, none⟩
  | .capture url => .capture ⟨some (.string (String.ofList url.chars)), false, false⟩
  | .extract prompt _ => .extract ⟨some (String.ofList prompt.chars), none⟩
  | .evaluate script => .evaluate ⟨some (String.ofList script.chars)⟩
  | .sleep ms => .sleep ⟨some ms.toNat⟩
  | .action prompt _ _ => .action ⟨some (String.ofList prompt.chars), none⟩

/-- A document with a type and one further field. -/
def document (kind name : String) (value : Json) : Json :=
  .ofFields [("type", .string kind), (name, value)]

/-- The document of the step: its type, and the one field the type is about. -/
def toJson : LineStep → Json
  | .navigate url => document "navigate" "url" (.string (String.ofList url.chars))
  | .capture url => document "capture" "url" (.string (String.ofList url.chars))
  | .extract prompt _ => document "extract" "prompt" (.string (String.ofList prompt.chars))
  | .evaluate script => document "evaluate" "script" (.string (String.ofList script.chars))
  | .sleep ms => document "sleep" "duration" (.ofUInt64 ms)
  | .action prompt _ _ => document "action" "prompt" (.string (String.ofList prompt.chars))

/-! ## Reading documents -/

/-- The fields of a document: its own and its type. -/
theorem field?_document (kind name : String) (value : Json) (wanted : String) :
    (document kind name value).field? wanted =
      if name = wanted then some value
      else if "type" = wanted then some (.string kind) else none := by
  rw [document, Json.field?_ofFields]
  rfl

/-- The kind of a document is its type, unless its own field has that name. -/
theorem kindOf_document {kind name : String} (value : Json) (other : name ≠ "type") :
    Step.kindOf (document kind name value) = kind := by
  rw [Step.kindOf, field?_document, if_neg other, if_pos rfl]
  rfl

/-- A text that is not empty is read as itself. -/
theorem text?_ofList {s : List Char} (some : s ≠ []) :
    Lenient.text? (.string (String.ofList s)) = Option.some (String.ofList s) := by
  have filled : (String.ofList s).isEmpty = false := by simpa using some
  rw [Lenient.text?, filled]
  rfl

/-- A number of 64 bits is read as itself. -/
theorem natural?_ofUInt64 (n : UInt64) : Lenient.natural? (.ofUInt64 n) = some n.toNat := by
  have positive : ¬ ((n.toNat : Int) < 0) := by omega
  simp only [Json.ofUInt64, Lenient.natural?, WholeNumber.ofUInt64, WholeNumber.toNat?, positive,
    if_false, Int.toNat_natCast]

/-- A prompt that is not empty is read as itself. -/
theorem prompt_document {s : List Char} (kind : String) (some : s ≠ []) :
    Step.prompt (document kind "prompt" (.string (String.ofList s))) =
      ⟨String.ofList s, none⟩ := by
  simp [Step.prompt, Step.text?, Step.natural?, field?_document, text?_ofList some]

/-- The document of a step reads as the step. -/
theorem ofJson_toJson (s : LineStep) : Step.ofJson s.toJson = s.toStep := by
  cases s with
  | navigate url =>
    rw [toJson, Step.ofJson, kindOf_document _ (by decide)]
    simp [toStep, Step.ofKind, Step.choice?, Step.present?, Step.natural?, field?_document,
      Json.isNull]
  | capture url =>
    rw [toJson, Step.ofJson, kindOf_document _ (by decide)]
    simp [toStep, Step.ofKind, Step.present?, Step.flag, field?_document, Json.isNull]
  | extract prompt asks =>
    rw [toJson, Step.ofJson, kindOf_document _ (by decide)]
    simp only [toStep, Step.ofKind, prompt_document _ prompt.some]
  | evaluate script =>
    rw [toJson, Step.ofJson, kindOf_document _ (by decide)]
    simp [toStep, Step.ofKind, Step.text?, field?_document, text?_ofList script.some]
  | sleep ms =>
    rw [toJson, Step.ofJson, kindOf_document _ (by decide)]
    simp [toStep, Step.ofKind, Step.natural?, field?_document, natural?_ofUInt64]
  | action prompt begins refused =>
    rw [toJson, Step.ofJson, kindOf_document _ (by decide)]
    simp only [toStep, Step.ofKind, prompt_document _ prompt.some]

end LineStep

/-! ## Spellings -/

/-- A spelling of a step on a line of its own. -/
inductive Spells : LineStep → List Char → Prop where
  | navigate (url : Token) (opening : List Char) (opens : Opening "navigate".toList opening) :
    Spells (.navigate url) (opening ++ url.chars)
  | navigateTo (url : Token) (opening link : List Char)
      (opens : Opening "navigate".toList opening) (word : Opening "to".toList link) :
    Spells (.navigate url) (opening ++ (link ++ url.chars))
  | capture (url : Token) (opening : List Char) (opens : Opening "capture".toList opening) :
    Spells (.capture url) (opening ++ url.chars)
  | extract (prompt : Phrase) (asks) : Spells (.extract prompt asks) prompt.chars
  | evaluate (script : Phrase) (opening : List Char)
      (opens : Opening "evaluate".toList opening) :
    Spells (.evaluate script) (opening ++ script.chars)
  | sleep (ms : UInt64) (opening : List Char) (opens : Opening "sleep".toList opening) :
    Spells (.sleep ms) (opening ++ decimal ms.toNat)
  | sleepFor (ms : UInt64) (opening link : List Char) (opens : Opening "sleep".toList opening)
      (word : Opening "for".toList link) :
    Spells (.sleep ms) (opening ++ (link ++ decimal ms.toNat))
  | action (prompt : Phrase) (begins refused) :
    Spells (.action prompt begins refused) prompt.chars

/-! ## Reading spellings -/

/-- What holds no blank does not begin with one. -/
theorem head_of_solid {s : List Char} (solid : hasBlank s = false) :
    ∀ c ∈ s.head?, isBlank c = false := by
  intro c mem
  have all := List.any_eq_false.mp solid c (List.mem_of_mem_head? mem)
  simpa using all

/-- What holds no blank does not end with one. -/
theorem last_of_solid {s : List Char} (solid : hasBlank s = false) :
    ∀ c ∈ s.getLast?, isBlank c = false := by
  intro c mem
  have all := List.any_eq_false.mp solid c (List.mem_of_mem_getLast? mem)
  simpa using all

/-- Digits hold no blank. -/
theorem decimal_solid (n : Nat) : hasBlank (decimal n) = false := by
  refine List.any_eq_false.mpr fun c mem => ?_
  rw [isBlank_of_isDigit (decimal_isDigit n c mem)]
  decide

/-- A text without blanks stands for itself, with or without the word before it. -/
theorem tokenAfter?_of_solid {s : List Char} (word : List Char) (solid : hasBlank s = false) :
    tokenAfter? word s = some s := by
  rw [tokenAfter?, afterKeyword_of_solid word solid, token?, solid]
  rfl

/-- After the opening of a word, what holds no blank is its token. -/
theorem tokenAfter?_of_opening {word opening s : List Char} (opens : Opening word opening)
    (some : s ≠ []) (solid : hasBlank s = false) :
    tokenAfter? word (opening ++ s) = Option.some s := by
  rw [tokenAfter?, opens.afterKeyword some (head_of_solid solid), Option.bind_some, token?, solid]
  rfl

/-- A duration of 64 bits is read back from its digits. -/
theorem milliseconds?_decimal {n : Nat} (fits : n < 0x10000000000000000) :
    milliseconds? (decimal n) = some n := by
  have digits : (decimal n).all Char.isDigit = true := List.all_eq_true.mpr (decimal_isDigit n)
  simp only [milliseconds?, decimalValue_decimal, List.isEmpty_eq_false_iff.mpr (decimal_ne_nil n),
    digits, Bool.not_true, Bool.false_or, ge_iff_le, Nat.not_le.mpr fits, decide_false,
    Bool.false_eq_true, if_false]

namespace Spells

/-- A spelling begins as instructions do. -/
theorem isInstruction {s : LineStep} {core : List Char} (spells : Spells s core) :
    isInstruction core = true := by
  cases spells with
  | navigate url opening opens => exact opens.isInstruction (by decide) _
  | navigateTo url opening link opens _ => exact opens.isInstruction (by decide) _
  | capture url opening opens => exact opens.isInstruction (by decide) _
  | extract prompt asks =>
    obtain ⟨rest, found⟩ := Option.isSome_iff_exists.mp asks
    obtain ⟨⟨opening, opens, same⟩, -⟩ := afterKeyword_eq_some_iff.mp found
    rw [same]
    exact opens.isInstruction (by decide) _
  | evaluate script opening opens => exact opens.isInstruction (by decide) _
  | sleep ms opening opens => exact opens.isInstruction (by decide) _
  | sleepFor ms opening link opens _ => exact opens.isInstruction (by decide) _
  | action prompt begins refused =>
    exact begins

/-- A spelling does not end with a blank. -/
theorem last {s : LineStep} {core : List Char} (spells : Spells s core) :
    ∀ c ∈ core.getLast?, isBlank c = false := by
  have append {rest : List Char} (some : rest ≠ []) (last : ∀ c ∈ rest.getLast?, isBlank c = false)
      (opening : List Char) : ∀ c ∈ (opening ++ rest).getLast?, isBlank c = false := by
    rwa [List.getLast?_append_of_ne_nil _ some]
  have number (n : Nat) (opening : List Char) :
      ∀ c ∈ (opening ++ decimal n).getLast?, isBlank c = false :=
    append (decimal_ne_nil n) (last_of_solid (decimal_solid n)) opening
  cases spells with
  | navigate url _ _ =>
    exact append url.some (last_of_solid url.solid) _
  | navigateTo url _ _ _ _ =>
    rw [← List.append_assoc]
    exact append url.some (last_of_solid url.solid) _
  | capture url _ _ =>
    exact append url.some (last_of_solid url.solid) _
  | extract prompt asks =>
    exact prompt.bare.last
  | evaluate script _ _ =>
    exact append script.some script.bare.last _
  | sleep ms _ _ => exact number _ _
  | sleepFor ms _ _ _ _ =>
    rw [← List.append_assoc]
    exact number _ _
  | action prompt begins refused =>
    exact prompt.bare.last

/-- A spelling neither begins nor ends with a blank. -/
theorem bare {s : LineStep} {core : List Char} (spells : Spells s core) : Bare core :=
  ⟨head_of_isInstruction spells.isInstruction, spells.last⟩

/-- What a spelling is read as is the step that it spells. -/
theorem step {s : LineStep} {core : List Char} (spells : Spells s core) :
    Line.step core = s.toStep := by
  cases spells with
  | navigate url opening opens =>
    have found := opens.afterKeyword url.some (head_of_solid url.solid)
    exact step_navigate found (tokenAfter?_of_solid _ url.solid)
  | navigateTo url opening link opens word =>
    have begins : Line.isInstruction (link ++ url.chars) = true := word.isInstruction (by decide) _
    have found := opens.afterKeyword (List.append_ne_nil_of_right_ne_nil _ url.some)
      (head_of_isInstruction begins)
    exact step_navigate found (tokenAfter?_of_opening word url.some url.solid)
  | capture url opening opens =>
    exact step_capture (opens.afterKeyword url.some (head_of_solid url.solid)) url.solid
  | extract prompt asks =>
    obtain ⟨rest, found⟩ := Option.isSome_iff_exists.mp asks
    exact step_extract found
  | evaluate script opening opens =>
    exact step_evaluate (opens.afterKeyword script.some script.bare.head)
  | sleep ms opening opens =>
    have solid := decimal_solid ms.toNat
    have found := opens.afterKeyword (decimal_ne_nil ms.toNat) (head_of_solid solid)
    exact step_sleep found (tokenAfter?_of_solid _ solid) (milliseconds?_decimal ms.toNat_lt)
  | sleepFor ms opening link opens word =>
    have some := decimal_ne_nil ms.toNat
    have begins : Line.isInstruction (link ++ decimal ms.toNat) = true :=
      word.isInstruction (by decide) _
    have found := opens.afterKeyword (List.append_ne_nil_of_right_ne_nil _ some)
      (head_of_isInstruction begins)
    exact step_sleep found (tokenAfter?_of_opening word some (decimal_solid _))
      (milliseconds?_decimal ms.toNat_lt)
  | action prompt begins refused =>
    exact step_action refused

end Spells

/-! ## Rows -/

/-- A row without a step: blank, or a comment. -/
inductive Remark : List Char → Prop where
  | blank (s : List Char) (blanks : Blanks s) : Remark s
  | hash (indent : List Char) (blanks : Blanks indent) (text : List Char) :
    Remark (indent ++ '#' :: text)
  | slashes (indent : List Char) (blanks : Blanks indent) (text : List Char) :
    Remark (indent ++ '/' :: '/' :: text)

/-- A row of a line script, which holds no line feed. -/
inductive Row where
  | remark (chars : List Char) (remark : Remark chars) (whole : '\n' ∉ chars)
  /-- A step, spelled in some way, with blanks around it. -/
  | step (s : LineStep) (indent core trail : List Char) (spells : Spells s core)
      (before : Blanks indent) (after : Blanks trail) (whole : '\n' ∉ indent ++ core ++ trail)

namespace Row

/-- The characters of a row, without the line feed at its end. -/
def chars : Row → List Char
  | .remark chars _ _ => chars
  | .step _ indent core trail _ _ _ _ => indent ++ core ++ trail

/-- The step of the row, if there is one. -/
def step? : Row → Option LineStep
  | .remark _ _ _ => none
  | .step s _ _ _ _ _ _ _ => some s

/-- No row holds a line feed. -/
theorem not_mem_chars (row : Row) : '\n' ∉ row.chars := by
  cases row with
  | remark _ _ whole => exact whole
  | step _ _ _ _ _ _ _ whole => exact whole

/-- A blank row and a comment are no instruction. -/
theorem isInstruction_remark {s : List Char} (remark : Remark s) :
    isInstruction (trim s) = false := by
  cases remark with
  | blank _ blanks =>
    rw [trim_of_blanks blanks]
    rfl
  | hash indent blanks text =>
    obtain ⟨rest, same⟩ := trim_cons (show isBlank '#' = false by decide) text
    rw [trim_append_left blanks, same]
    rfl
  | slashes indent blanks text =>
    obtain ⟨rest, same⟩ := trim_cons (show isBlank '/' = false by decide) ('/' :: text)
    rw [trim_append_left blanks, same]
    rfl

/-- The steps read from rows are the steps written in them. -/
theorem steps_of_rows (rows : List Row) :
    (((rows.map chars).map trim).filter isInstruction).map Line.step =
      (rows.filterMap step?).map LineStep.toStep := by
  induction rows with
  | nil => rfl
  | cons row rest ih =>
    rw [List.map_cons, List.map_cons, List.filter_cons]
    cases row with
    | remark s remark whole =>
      rw [chars, isInstruction_remark remark, List.filterMap_cons, step?]
      exact ih
    | step s indent core trail spells before after whole =>
      have cut : trim (indent ++ core ++ trail) = core := by
        rw [trim_append_right after, trim_append_left before, trim_of_bare spells.bare]
      rw [chars, cut, spells.isInstruction, List.filterMap_cons, step?]
      simp only [if_true, List.map_cons, spells.step, ih]

end Row

/-! ## The agreement -/

/-- The line script with these rows. -/
def written (rows : List Row) : String :=
  String.ofList (joinWith ['\n'] (rows.map Row.chars))

/-- The structured script with these steps. -/
def structured (script : List LineStep) : Json :=
  .ofFields [("steps", .array (script.map LineStep.toJson))]

/-- The rows of a line script give the steps that are written in them. -/
theorem steps_written (rows : List Row) :
    Line.steps (written rows) = (rows.filterMap Row.step?).map LineStep.toStep := by
  have whole : ∀ chars ∈ rows.map Row.chars, '\n' ∉ chars := by
    intro chars mem
    obtain ⟨row, -, rfl⟩ := List.mem_map.mp mem
    exact row.not_mem_chars
  rw [Line.steps, written, String.toList_ofList, instructions,
    trimmed_lines_joinWith whole (by rfl), Row.steps_of_rows]

/-- A structured script gives its steps, and stays as it is. -/
theorem compile_structured (script : List LineStep) :
    compile (structured script) = (.ok (script.map LineStep.toStep), structured script) := by
  have found : (structured script).field? "steps" =
      some (.array (script.map LineStep.toJson)) := by
    rw [structured, Json.field?_ofFields]
    rfl
  have read : ofObject (structured script) = .ok (script.map LineStep.toStep) := by
    rw [ofObject, found]
    simp only [List.map_map, Function.comp_def, LineStep.ofJson_toJson]
  rw [← read]
  rfl

/-- Compiling a line script gives what compiling the structured script with the same steps gives,
however the lines are spelled. -/
theorem lines_agree_with_documents (rows : List Row) :
    let script := rows.filterMap Row.step?
    Line.steps (written rows) = script.map LineStep.toStep ∧
      compile (structured script) = (.ok (Line.steps (written rows)), structured script) := by
  intro script
  rw [compile_structured, steps_written]
  exact ⟨rfl, rfl⟩

/-- A comment, a navigation, a blank row, a pause and an instruction. -/
theorem lines_agree_with_documents_tour :
    ∃ rows : List Row,
      written rows = "# tour\n\tNAVIGATE: to  https://example.org\n\nsleep for 500\nclick it" ∧
      compile (structured (rows.filterMap Row.step?)) =
        (.ok (Line.steps (written rows)), structured (rows.filterMap Row.step?)) := by
  let url : Token := ⟨"https://example.org".toList, by decide, by decide⟩
  let click : Phrase := ⟨"click it".toList, by decide, by decide, by decide⟩
  let navigate : Row := .step (.navigate url) ['\t'] "NAVIGATE: to  https://example.org".toList []
    (.navigateTo url "NAVIGATE: ".toList "to  ".toList
      (.colon "NAVIGATE".toList [' '] (by decide) (by decide) (by decide))
      (.plain "to".toList [' ', ' '] (by decide) (by decide) (by decide)))
    (by decide) (by decide) (by decide)
  have spells : Spells (.sleep 500) "sleep for 500".toList := by
    have spelling := Spells.sleepFor 500 "sleep ".toList "for ".toList
      (.plain "sleep".toList [' '] (by decide) (by decide) (by decide))
      (.plain "for".toList [' '] (by decide) (by decide) (by decide))
    have digits : decimal (UInt64.toNat 500) = "500".toList := by simp [decimal, digitChar]
    rwa [digits] at spelling
  let sleep : Row := .step (.sleep 500) [] "sleep for 500".toList [] spells
    (by decide) (by decide) (by decide)
  let action : Row := .step (.action click (by decide) (by decide)) [] click.chars []
    (.action click (by decide) (by decide)) (by decide) (by decide) (by decide)
  let rows : List Row :=
    [.remark "# tour".toList (.hash [] (by decide) " tour".toList) (by decide), navigate,
      .remark [] (.blank [] (by decide)) (by decide), sleep, action]
  exact ⟨rows, rfl, (lines_agree_with_documents rows).2⟩

end PageScript.Script
