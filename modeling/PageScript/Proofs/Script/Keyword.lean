import Mathlib.Data.List.Pairwise
import PageScript.Proofs.Text.Letters
import PageScript.Proofs.Text.Trimming
import PageScript.Script.Line

/-!
# Keywords of line scripts

What a line rule looks for is an opening: its keyword in any case of the letters, maybe a colon,
and blanks. `afterKeyword_eq_some_iff` says that what is read after a keyword is exactly what
follows an opening, if it is not empty and does not begin with a blank. No two of the five keywords
open the same line (`afterKeyword_of_apart`), so that a line which one keyword opens is read by the
rule of that keyword or by none (`step_of_keyword`).

**What it does not establish.** Of a line that no keyword opens nothing is said but that none of the
five rules reads it.
-/

namespace PageScript.Line

open Text

/-- A keyword in any case of the letters, with or without a colon, and at least one blank. -/
inductive Opening (keyword : List Char) : List Char → Prop where
  | plain (word blanks : List Char) (letters : sameLetters word keyword = true)
      (some : blanks ≠ []) (all : Blanks blanks) : Opening keyword (word ++ blanks)
  | colon (word blanks : List Char) (letters : sameLetters word keyword = true)
      (some : blanks ≠ []) (all : Blanks blanks) : Opening keyword (word ++ ':' :: blanks)

/-! ## The parts of an opening -/

/-- What is left without one colon at the beginning. -/
def dropColon : List Char → List Char
  | ':' :: rest => rest
  | rest => rest

/-- What follows blanks, if there are some and it is not empty. -/
def afterBlanks (s : List Char) : Option (List Char) :=
  match s with
  | c :: _ => if isBlank c && !(trimStart s).isEmpty then some (trimStart s) else none
  | [] => none

/-- A keyword is found if the line begins with its letters, and then what follows is read after an
optional colon. -/
theorem afterKeyword_eq (keyword line : List Char) :
    afterKeyword keyword line =
      if sameLetters (line.take keyword.length) keyword then
        afterBlanks (dropColon (line.drop keyword.length))
      else none := by
  rfl

/-- What does not begin with a colon is left as it is. -/
theorem dropColon_of_ne {s : List Char} (other : ∀ c ∈ s.head?, c ≠ ':') : dropColon s = s := by
  cases s with
  | nil => rfl
  | cons c rest =>
    have here := other c rfl
    unfold dropColon
    split
    · rename_i same
      exact absurd (List.cons.inj same).1 here
    · rfl

/-- A text is what is left of it, or a colon before that. -/
theorem eq_dropColon (s : List Char) : s = dropColon s ∨ s = ':' :: dropColon s := by
  unfold dropColon
  split
  · exact .inr rfl
  · exact .inl rfl

/-- What is read after blanks is what follows them, if there are blanks and something after them. -/
theorem afterBlanks_eq_some_iff {s rest : List Char} :
    afterBlanks s = some rest ↔
      (∃ blanks, blanks ≠ [] ∧ Blanks blanks ∧ s = blanks ++ rest) ∧
        rest ≠ [] ∧ ∀ c ∈ rest.head?, isBlank c = false := by
  constructor
  · intro found
    unfold afterBlanks at found
    split at found
    · rename_i c tail
      split at found
      · rename_i fits
        obtain ⟨blank, filled⟩ := Bool.and_eq_true_iff.mp fits
        obtain rfl := Option.some.inj found
        refine ⟨⟨(c :: tail).takeWhile isBlank, ?_, ?_, ?_⟩, ?_, ?_⟩
        · rw [List.takeWhile_cons_of_pos blank]
          exact List.cons_ne_nil _ _
        · exact fun d mem => List.mem_takeWhile_imp mem
        · exact List.takeWhile_append_dropWhile.symm
        · simpa using filled
        · exact head_trimStart _
      · cases found
    · cases found
  · rintro ⟨⟨blanks, some, all, rfl⟩, filled, head⟩
    obtain ⟨c, tail, rfl⟩ := List.exists_cons_of_ne_nil some
    have cut : trimStart (c :: tail ++ rest) = rest := by
      rw [trimStart_append all, trimStart_of_head head]
    have blank : isBlank c = true := all c List.mem_cons_self
    unfold afterBlanks
    rw [List.cons_append] at cut ⊢
    simp only [cut, blank, Bool.true_and, List.isEmpty_eq_false_iff.mpr filled, Bool.not_false,
      if_true]

/-! ## What follows a keyword -/

/-- What is read after a keyword is what follows an opening, if it is not empty and does not begin
with a blank. -/
theorem afterKeyword_eq_some_iff {keyword line rest : List Char} :
    afterKeyword keyword line = some rest ↔
      (∃ opening, Opening keyword opening ∧ line = opening ++ rest) ∧
        rest ≠ [] ∧ ∀ c ∈ rest.head?, isBlank c = false := by
  rw [afterKeyword_eq]
  constructor
  · intro found
    split at found
    · rename_i letters
      obtain ⟨⟨blanks, some, all, cut⟩, filled⟩ := afterBlanks_eq_some_iff.mp found
      refine ⟨?_, filled⟩
      have whole := List.take_append_drop keyword.length line
      rcases eq_dropColon (line.drop keyword.length) with plain | colon
      · refine ⟨_, .plain _ _ letters some all, ?_⟩
        rw [List.append_assoc, ← cut, ← plain, whole]
      · refine ⟨_, .colon _ _ letters some all, ?_⟩
        rw [List.append_assoc, List.cons_append, ← cut, ← colon, whole]
    · cases found
  · rintro ⟨⟨opening, opens, rfl⟩, filled⟩
    cases opens with
    | plain word blanks letters some all =>
      rw [← length_of_sameLetters letters, List.append_assoc, List.take_left, if_pos letters,
        List.drop_left, dropColon_of_ne]
      · exact afterBlanks_eq_some_iff.mpr ⟨⟨blanks, some, all, rfl⟩, filled⟩
      · obtain ⟨c, tail, rfl⟩ := List.exists_cons_of_ne_nil some
        rintro d mem rfl
        obtain rfl := Option.some.inj mem
        exact absurd (all ':' List.mem_cons_self) (by decide)
    | colon word blanks letters some all =>
      rw [← length_of_sameLetters letters, List.append_assoc, List.take_left, if_pos letters,
        List.drop_left]
      exact afterBlanks_eq_some_iff.mpr ⟨⟨blanks, some, all, rfl⟩, filled⟩

/-- What follows an opening is read, if it is not empty and does not begin with a blank. -/
theorem Opening.afterKeyword {keyword opening rest : List Char} (opens : Opening keyword opening)
    (some : rest ≠ []) (head : ∀ c ∈ rest.head?, isBlank c = false) :
    afterKeyword keyword (opening ++ rest) = Option.some rest :=
  afterKeyword_eq_some_iff.mpr ⟨⟨opening, opens, rfl⟩, some, head⟩

/-- The opening of a keyword holds a blank. -/
theorem Opening.hasBlank {keyword opening : List Char} (opens : Opening keyword opening) :
    hasBlank opening = true := by
  have within {blanks : List Char} (some : blanks ≠ []) (all : Blanks blanks) (word : List Char) :
      Text.hasBlank (word ++ blanks) = true := by
    obtain ⟨c, tail, rfl⟩ := List.exists_cons_of_ne_nil some
    refine List.any_eq_true.mpr ⟨c, ?_, all c List.mem_cons_self⟩
    exact List.mem_append_right _ List.mem_cons_self
  cases opens with
  | plain word blanks letters some all => exact within some all _
  | colon word blanks letters some all =>
    rw [List.append_cons]
    exact within some all _

/-- A text without blanks is not opened by a keyword. -/
theorem afterKeyword_of_solid {line : List Char} (keyword : List Char)
    (solid : hasBlank line = false) : afterKeyword keyword line = none := by
  refine Option.eq_none_iff_forall_ne_some.mpr fun rest found => ?_
  obtain ⟨⟨opening, opens, rfl⟩, -⟩ := afterKeyword_eq_some_iff.mp found
  rw [hasBlank, List.any_append, Bool.or_eq_false_iff] at solid
  exact absurd opens.hasBlank (by rw [hasBlank, solid.1]; decide)

/-! ## Keywords keep apart -/

/-- The letters of an opening begin with the letters of its keyword. -/
theorem Opening.letters_prefix {keyword opening : List Char} (opens : Opening keyword opening) :
    keyword.map Char.toLower <+: opening.map Char.toLower := by
  cases opens with
  | plain word blanks letters _ _ =>
    rw [List.map_append, ← eq_of_beq letters]
    exact List.prefix_append _ _
  | colon word blanks letters _ _ =>
    rw [List.map_append, ← eq_of_beq letters]
    exact List.prefix_append _ _

/-- A line in which a keyword is found begins with the letters of the keyword. -/
theorem letters_prefix_of_afterKeyword {keyword line rest : List Char}
    (found : afterKeyword keyword line = some rest) :
    keyword.map Char.toLower <+: line.map Char.toLower := by
  obtain ⟨⟨opening, opens, rfl⟩, -⟩ := afterKeyword_eq_some_iff.mp found
  rw [List.map_append]
  exact opens.letters_prefix.trans (List.prefix_append _ _)

/-- An opening begins with a letter if its keyword does. -/
theorem Opening.head_isAlpha {first : Char} {keyword opening : List Char}
    (letter : first.toLower.isAlpha = true) (opens : Opening (first :: keyword) opening) :
    ∃ c rest, opening = c :: rest ∧ c.isAlpha = true :=
  head_isAlpha_of_prefix letter opens.letters_prefix

/-- A line that a keyword opens begins as instructions do, if the keyword begins with a letter. -/
theorem Opening.isInstruction {first : Char} {keyword opening : List Char}
    (opens : Opening (first :: keyword) opening) (letter : first.toLower.isAlpha = true)
    (rest : List Char) : isInstruction (opening ++ rest) = true := by
  obtain ⟨c, tail, rfl, alpha⟩ := opens.head_isAlpha letter
  simp only [List.cons_append, Line.isInstruction, Char.isAlphanum, alpha, Bool.true_or]

/-- An instruction does not begin with a blank. -/
theorem head_of_isInstruction {line : List Char} (begins : isInstruction line = true) :
    ∀ c ∈ line.head?, isBlank c = false := by
  intro c mem
  cases line with
  | nil => cases mem
  | cons d rest =>
    obtain rfl := Option.some.inj mem
    rcases Bool.or_eq_true_iff.mp begins with visible | score
    · exact isBlank_of_isAlphanum visible
    · rw [eq_of_beq score]
      decide

/-- Neither keyword begins with the other. -/
def Apart (keyword other : List Char) : Prop :=
  ¬ keyword.map Char.toLower <+: other.map Char.toLower ∧
    ¬ other.map Char.toLower <+: keyword.map Char.toLower

instance (keyword other : List Char) : Decidable (Apart keyword other) :=
  inferInstanceAs (Decidable (_ ∧ _))

/-- A line that one keyword opens is not opened by another. -/
theorem afterKeyword_of_apart {keyword other line rest : List Char}
    (found : afterKeyword keyword line = some rest) (apart : Apart keyword other) :
    afterKeyword other line = none := by
  refine Option.eq_none_iff_forall_ne_some.mpr fun rest' found' => ?_
  have one := letters_prefix_of_afterKeyword found
  have two := letters_prefix_of_afterKeyword found'
  rcases List.prefix_or_prefix_of_prefix one two with h | h
  · exact apart.1 h
  · exact apart.2 h

/-! ## Rules -/

/-- A line rule with the keyword it needs. -/
structure Rule where
  keyword : List Char
  read : List Char → Option Step

/-- The rules, in the order in which they are tried. -/
def rules : List Rule :=
  [⟨"navigate".toList, navigate?⟩, ⟨"capture".toList, capture?⟩, ⟨"extract".toList, extract?⟩,
   ⟨"evaluate".toList, evaluate?⟩, ⟨"sleep".toList, sleep?⟩]

/-- The first rule that accepts a line makes its step. -/
theorem step_eq (line : List Char) :
    step line = (rules.findSome? (·.read line)).getD (action line) := by
  simp only [step, rules, List.findSome?]
  cases navigate? line <;> cases capture? line <;> cases extract? line <;>
    cases evaluate? line <;> cases sleep? line <;> rfl

/-- No rule accepts a line that its keyword does not open. -/
theorem read_of_afterKeyword_none {line : List Char} :
    ∀ rule ∈ rules, afterKeyword rule.keyword line = none → rule.read line = none := by
  simp only [rules, List.forall_mem_cons, navigate?, capture?, extract?, evaluate?, sleep?]
  refine ⟨?_, ?_, ?_, ?_, ?_, nofun⟩ <;> intro none <;> rw [none] <;> rfl

/-- The keywords of the rules are apart from each other. -/
theorem rules_apart : rules.Pairwise fun rule other => Apart rule.keyword other.keyword := by
  decide

/-- What only one member of a list gives is found there. -/
theorem findSome?_of_only {l : List β} {f : β → Option γ} {b : β} (mem : b ∈ l)
    (only : ∀ a ∈ l, a = b ∨ f a = none) : l.findSome? f = f b := by
  cases found : f b with
  | none =>
    refine List.findSome?_eq_none_iff.mpr fun a h => ?_
    rcases only a h with rfl | none
    · exact found
    · exact none
  | some c =>
    -- The first element that gives something is one of the list, so it can only be `b`.
    have some : (l.findSome? f).isSome := List.findSome?_isSome_iff.mpr ⟨b, mem, by simp [found]⟩
    obtain ⟨d, first⟩ := Option.isSome_iff_exists.mp some
    obtain ⟨a, h, value⟩ := List.exists_of_findSome?_eq_some first
    rcases only a h with rfl | none
    · rw [first, ← value, found]
    · cases none.symm.trans value

/-- A line that one keyword opens is accepted by no other rule than that of the keyword. -/
theorem only_rule_of_keyword {rule : Rule} (mem : rule ∈ rules) {line rest : List Char}
    (found : afterKeyword rule.keyword line = some rest) :
    ∀ other ∈ rules, other = rule ∨ other.read line = none := by
  have : Std.Symm fun rule other : Rule => Apart rule.keyword other.keyword :=
    ⟨fun _ _ apart => ⟨apart.2, apart.1⟩⟩
  intro other h
  by_cases same : other = rule
  · exact .inl same
  · have apart := rules_apart.forall mem h (Ne.symm same)
    exact .inr (read_of_afterKeyword_none other h (afterKeyword_of_apart found apart))

/-- A line that one keyword opens is read by the rule of that keyword. -/
theorem step_of_keyword {rule : Rule} (mem : rule ∈ rules) {line rest : List Char}
    (found : afterKeyword rule.keyword line = some rest) :
    step line = (rule.read line).getD (action line) := by
  rw [step_eq, findSome?_of_only mem (only_rule_of_keyword mem found)]

/-! ## What each rule makes of a line -/

section

variable {line rest : List Char}

/-- A line is a navigation if `navigate` opens it and an address follows, after `to` or not. -/
theorem step_navigate {url : List Char} (found : afterKeyword "navigate".toList line = some rest)
    (token : tokenAfter? "to".toList rest = some url) :
    step line = .navigate ⟨some (.string (String.ofList url)), none, none⟩ := by
  have mem : ⟨"navigate".toList, navigate?⟩ ∈ rules := by simp [rules]
  rw [step_of_keyword mem found]
  show (navigate? line).getD _ = _
  rw [navigate?, found, Option.bind_eq_bind, Option.bind_some, token]
  rfl

/-- A line is a capture if `capture` opens it and what follows holds no blank. -/
theorem step_capture (found : afterKeyword "capture".toList line = some rest)
    (solid : hasBlank rest = false) :
    step line = .capture ⟨some (.string (String.ofList rest)), false, false⟩ := by
  have mem : ⟨"capture".toList, capture?⟩ ∈ rules := by simp [rules]
  rw [step_of_keyword mem found]
  show (capture? line).getD _ = _
  rw [capture?, found, Option.bind_eq_bind, Option.bind_some, token?,
    solid]
  rfl

/-- A line that `extract` opens is an extraction, with the whole line as its prompt. -/
theorem step_extract (found : afterKeyword "extract".toList line = some rest) :
    step line = .extract ⟨some (String.ofList line), none⟩ := by
  have mem : ⟨"extract".toList, extract?⟩ ∈ rules := by simp [rules]
  rw [step_of_keyword mem found]
  show (extract? line).getD _ = _
  rw [extract?, found]
  rfl

/-- A line that `evaluate` opens is an evaluation of what follows. -/
theorem step_evaluate (found : afterKeyword "evaluate".toList line = some rest) :
    step line = .evaluate ⟨some (String.ofList rest)⟩ := by
  have mem : ⟨"evaluate".toList, evaluate?⟩ ∈ rules := by simp [rules]
  rw [step_of_keyword mem found]
  show (evaluate? line).getD _ = _
  rw [evaluate?, found]
  rfl

/-- A line is a sleep if `sleep` opens it and milliseconds follow, after `for` or not. -/
theorem step_sleep {digits : List Char} {ms : Nat}
    (found : afterKeyword "sleep".toList line = some rest)
    (token : tokenAfter? "for".toList rest = some digits)
    (reads : milliseconds? digits = some ms) : step line = .sleep ⟨some ms⟩ := by
  have mem : ⟨"sleep".toList, sleep?⟩ ∈ rules := by simp [rules]
  rw [step_of_keyword mem found]
  show (sleep? line).getD _ = _
  rw [sleep?, found, Option.bind_eq_bind, Option.bind_some, token,
    Option.bind_some, reads]
  rfl

/-- A line that no rule accepts is an instruction as it stands. -/
theorem step_action (refused : ∀ rule ∈ rules, rule.read line = none) :
    step line = .action ⟨some (String.ofList line), none⟩ := by
  rw [step_eq, List.findSome?_eq_none_iff.mpr refused]
  rfl

end

end PageScript.Line
