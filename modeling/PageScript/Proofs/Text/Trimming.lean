import Mathlib.Data.List.Basic
import Mathlib.Data.List.TakeWhile
import PageScript.Text.Blank
import PageScript.Text.Lines
import PageScript.Text.Search

/-!
# Cutting texts at their ends and into lines

What follows a beginning and what precedes an ending are told by how the text is put together
(`after?_eq_some_iff`, `before?_append`).

Surrounding blanks make no difference to a trimmed text, and a text that neither begins nor ends
with a blank is trimmed already (`trim_append_left`, `trim_append_right`, `trim_of_bare`), as every
trimmed text is (`bare_trim`). A text put together from lines is cut into the same lines again, but
for what trimming drops anyway: a carriage return before a line feed, and a last line that is empty.

**What it does not establish.** Only the blanks that the program trims are meant. Of the cutting
into lines nothing is said for a text that is not put together from lines.
-/

namespace PageScript.Text

/-- All characters of a text are blank. -/
def Blanks (s : List Char) : Prop :=
  ∀ c ∈ s, isBlank c = true

/-- A text neither begins nor ends with a blank. -/
structure Bare (s : List Char) : Prop where
  head : ∀ c ∈ s.head?, isBlank c = false
  last : ∀ c ∈ s.getLast?, isBlank c = false

instance (s : List Char) : Decidable (Blanks s) :=
  decidable_of_iff (allBlank s = true) List.all_eq_true

/-- Being bare is decided by the first and the last character. -/
theorem bare_iff {s : List Char} :
    Bare s ↔ s.head?.all (!isBlank ·) = true ∧ s.getLast?.all (!isBlank ·) = true := by
  simp only [Option.all_eq_true, Bool.not_eq_true', ← Option.mem_def]
  exact ⟨fun h => ⟨h.head, h.last⟩, fun h => ⟨h.1, h.2⟩⟩

instance (s : List Char) : Decidable (Bare s) :=
  decidable_of_iff _ bare_iff.symm

/-- Letters and digits are not blank. -/
theorem isBlank_of_isAlphanum {c : Char} (visible : c.isAlphanum = true) : isBlank c = false := by
  have upper : c.isUpper = decide (65 ≤ c.toNat ∧ c.toNat ≤ 90) := rfl
  have lower : c.isLower = (decide (97 ≤ c.toNat) && decide (c.toNat ≤ 122)) := rfl
  have digit : c.isDigit = (decide (48 ≤ c.toNat) && decide (c.toNat ≤ 57)) := rfl
  have parts : (c.isUpper || c.isLower || c.isDigit) = true := visible
  simp only [upper, lower, digit, Bool.or_eq_true, Bool.and_eq_true, decide_eq_true_eq] at parts
  simp only [isBlank, Bool.or_eq_false_iff, Bool.and_eq_false_iff, decide_eq_false_iff_not,
    beq_eq_false_iff_ne, ne_eq]
  omega

/-! ## Trimming -/

/-- Blanks at the beginning make no difference to what is left when the beginning is trimmed. -/
theorem trimStart_append {a : List Char} (blanks : Blanks a) (s : List Char) :
    trimStart (a ++ s) = trimStart s :=
  List.dropWhile_append_of_pos blanks

/-- Of blanks alone nothing is left. -/
theorem trimStart_of_blanks {a : List Char} (blanks : Blanks a) : trimStart a = [] :=
  List.dropWhile_eq_nil_iff.mpr blanks

/-- A text that does not begin with a blank keeps its beginning. -/
theorem trimStart_of_head {s : List Char} (head : ∀ c ∈ s.head?, isBlank c = false) :
    trimStart s = s := by
  cases s with
  | nil => rfl
  | cons c rest => exact List.dropWhile_cons_of_neg (by simp [head c rfl])

/-- A text whose beginning was trimmed does not begin with a blank. -/
theorem head_trimStart (s : List Char) : ∀ c ∈ (trimStart s).head?, isBlank c = false := by
  intro c mem
  have kept := List.head?_dropWhile_not isBlank s
  rw [show s.dropWhile isBlank = trimStart s from rfl, Option.mem_def.mp mem] at kept
  simpa using kept

/-- Blanks at the end make no difference to what is left when the end is trimmed. -/
theorem trimEnd_append {b : List Char} (blanks : Blanks b) (s : List Char) :
    trimEnd (s ++ b) = trimEnd s := by
  have back : Blanks b.reverse := fun c mem => blanks c (List.mem_reverse.mp mem)
  rw [trimEnd, List.reverse_append, trimStart_append back, trimEnd]

/-- Blanks before a text make no difference once it is trimmed. -/
theorem trim_append_left {a : List Char} (blanks : Blanks a) (s : List Char) :
    trim (a ++ s) = trim s := by
  rw [trim, trimStart_append blanks, trim]

/-- Blanks after a text make no difference once it is trimmed. -/
theorem trim_append_right {b : List Char} (blanks : Blanks b) (s : List Char) :
    trim (s ++ b) = trim s := by
  simp only [trim, trimStart, List.dropWhile_append]
  split
  · rename_i none
    rw [List.isEmpty_iff.mp none, show b.dropWhile isBlank = [] from trimStart_of_blanks blanks]
  · exact trimEnd_append blanks _

/-- A text that neither begins nor ends with a blank is left as it is. -/
theorem trim_of_bare {s : List Char} (bare : Bare s) : trim s = s := by
  have back : ∀ c ∈ s.reverse.head?, isBlank c = false := by
    rw [List.head?_reverse]
    exact bare.last
  rw [trim, trimStart_of_head bare.head, trimEnd, trimStart_of_head back, List.reverse_reverse]

/-- Of blanks alone nothing is left. -/
theorem trim_of_blanks {s : List Char} (blanks : Blanks s) : trim s = [] := by
  rw [trim, trimStart_of_blanks blanks]
  rfl

/-- A trimmed text is empty if and only if the text was blank. -/
theorem trim_eq_nil_iff {s : List Char} : trim s = [] ↔ Blanks s := by
  refine ⟨fun nothing => ?_, trim_of_blanks⟩
  have blanks : Blanks (trimStart s).reverse :=
    List.dropWhile_eq_nil_iff.mp (List.reverse_eq_nil_iff.mp nothing)
  have started := head_trimStart s
  cases cut : trimStart s with
  | nil => exact List.dropWhile_eq_nil_iff.mp cut
  | cons c rest =>
    have visible := started c (by rw [cut]; rfl)
    have blank := blanks c (List.mem_reverse.mpr (by rw [cut]; exact List.mem_cons_self))
    cases visible.symm.trans blank

/-- Trimming the end leaves a prefix of the text. -/
theorem trimEnd_isPrefix (s : List Char) : trimEnd s <+: s := by
  rw [trimEnd, ← List.reverse_suffix, List.reverse_reverse]
  exact List.dropWhile_suffix _

/-- Trimming takes blanks off the end, and nothing else. -/
theorem exists_trimEnd (s : List Char) : ∃ after, s = trimEnd s ++ after ∧ Blanks after := by
  refine ⟨(s.reverse.takeWhile isBlank).reverse, ?_, fun c mem => ?_⟩
  · rw [trimEnd, trimStart, ← List.reverse_append, List.takeWhile_append_dropWhile,
      List.reverse_reverse]
  · exact List.mem_takeWhile_imp (List.mem_reverse.mp mem)

/-- Trimming takes blanks off both ends, and nothing else. -/
theorem exists_trim (s : List Char) :
    ∃ before after, s = before ++ trim s ++ after ∧ Blanks before ∧ Blanks after := by
  obtain ⟨after, ends, blanks⟩ := exists_trimEnd (trimStart s)
  refine ⟨s.takeWhile isBlank, after, ?_, fun c mem => List.mem_takeWhile_imp mem, blanks⟩
  rw [List.append_assoc, trim, ← ends, trimStart, List.takeWhile_append_dropWhile]

/-- A trimmed text neither begins nor ends with a blank. -/
theorem bare_trim (s : List Char) : Bare (trim s) where
  head c mem := by
    obtain ⟨rest, whole⟩ := trimEnd_isPrefix (trimStart s)
    have first : (trimEnd (trimStart s)).head? = some c := mem
    refine head_trimStart s c ?_
    rw [← whole, List.head?_append, first]
    rfl
  last c mem := by
    rw [trim, trimEnd, List.getLast?_reverse] at mem
    exact head_trimStart _ c mem

/-- Trimming once more changes nothing. -/
theorem trim_trim (s : List Char) : trim (trim s) = trim s :=
  trim_of_bare (bare_trim s)

/-- Trimming keeps a first character that is not blank. -/
theorem trim_cons {c : Char} (visible : isBlank c = false) (s : List Char) :
    ∃ rest, trim (c :: s) = c :: rest := by
  have head : trimStart (c :: s) = c :: s := trimStart_of_head fun d mem => by
    obtain rfl := Option.some.inj mem
    exact visible
  have last : [c].dropWhile isBlank = [c] := List.dropWhile_cons_of_neg (by simp [visible])
  rw [trim, head, trimEnd, List.reverse_cons, trimStart, List.dropWhile_append, last]
  split
  · exact ⟨[], rfl⟩
  · refine ⟨(s.reverse.dropWhile isBlank).reverse, ?_⟩
    rw [List.reverse_append, List.reverse_singleton, List.singleton_append]

/-- The carriage return that is dropped with a line feed is blank, so it would be trimmed. -/
theorem trim_dropReturn (line : List Char) : trim (dropReturn line) = trim line := by
  unfold dropReturn
  split
  · rename_i rest ends
    have whole : line = rest.reverse ++ ['\r'] := by
      rw [← List.reverse_reverse line, ends, List.reverse_cons]
    have blanks : Blanks ['\r'] := by decide
    rw [whole, trim_append_right blanks]
  · rfl

/-! ## Beginnings and endings -/

/-- What follows a beginning is what was put after it. -/
theorem after?_eq_some_iff {start s rest : List Char} :
    after? start s = some rest ↔ s = start ++ rest := by
  rw [after?, List.isPrefixOf?_eq_some_iff_append_eq, eq_comm]

/-- What was put after a beginning follows it. -/
theorem after?_append (start rest : List Char) : after? start (start ++ rest) = some rest :=
  after?_eq_some_iff.mpr rfl

/-- Nothing follows what is not the beginning of the text. -/
theorem after?_eq_none_iff {start s : List Char} : after? start s = none ↔ ¬ start <+: s := by
  rw [Option.eq_none_iff_forall_ne_some]
  refine ⟨fun never => ?_, fun other rest found => ?_⟩
  · rintro ⟨rest, rfl⟩
    exact never rest (after?_append start rest)
  · exact other ⟨rest, (after?_eq_some_iff.mp found).symm⟩

/-- What was put before an ending precedes it. -/
theorem before?_append (s ending : List Char) : before? ending (s ++ ending) = some s := by
  have back : ending.reverse.isPrefixOf? (s ++ ending).reverse = some s.reverse := by
    rw [List.reverse_append]
    exact List.isPrefixOf?_eq_some_iff_append_eq.mpr rfl
  rw [before?, List.isSuffixOf?, back, Option.map_some, List.reverse_reverse]

/-! ## Lines -/

/-- Characters that are no line feed are added to the line that is being read. -/
theorem linesFrom_append {line : List Char} (whole : '\n' ∉ line) (current rest : List Char) :
    linesFrom current (line ++ rest) = linesFrom (line.reverse ++ current) rest := by
  induction line generalizing current with
  | nil => rfl
  | cons c line ih =>
    obtain ⟨here, later⟩ := not_or.mp (mt List.mem_cons.mpr whole)
    rw [List.cons_append, linesFrom, ih later, List.reverse_cons, List.append_assoc]
    · rfl
    · exact fun same => here same.symm

/-- A line feed ends the line before it. -/
theorem lines_append_feed {line : List Char} (whole : '\n' ∉ line) (rest : List Char) :
    lines (line ++ '\n' :: rest) = dropReturn line :: lines rest := by
  rw [lines, linesFrom_append whole, List.append_nil, linesFrom, List.reverse_reverse, lines]

/-- A text without line feeds is one line, or none when it is empty. -/
theorem lines_of_not_mem {line : List Char} (whole : '\n' ∉ line) :
    lines line = if line.isEmpty then [] else [line] := by
  have cut := linesFrom_append whole [] []
  rw [List.append_nil, List.append_nil] at cut
  rw [lines, cut, linesFrom, List.isEmpty_reverse, List.reverse_reverse]

/-- Joined lines come apart again, as far as trimmed lines that are not empty go. -/
theorem trimmed_lines_joinWith {rows : List (List Char)} (whole : ∀ row ∈ rows, '\n' ∉ row)
    {p : List Char → Bool} (drops : p [] = false) :
    ((lines (joinWith ['\n'] rows)).map trim).filter p = (rows.map trim).filter p := by
  induction rows with
  | nil => rfl
  | cons row rest ih =>
    obtain ⟨here, later⟩ := List.forall_mem_cons.mp whole
    cases rest with
    | nil =>
      -- The last row has no line feed after it: it keeps its carriage return, or is no line.
      rw [joinWith, lines_of_not_mem here]
      split
      · rename_i empty
        have none : trim row = [] := by rw [List.isEmpty_iff.mp empty]; rfl
        simp only [List.map_nil, List.filter_nil, List.map_cons, none, List.filter_cons, drops,
          Bool.false_eq_true, if_false]
      · rfl
    | cons next rest =>
      rw [joinWith, List.append_assoc, List.singleton_append, lines_append_feed here,
        List.map_cons, trim_dropReturn, List.filter_cons, List.map_cons, List.filter_cons,
        ih later]
      exact List.cons_ne_nil _ _

end PageScript.Text
