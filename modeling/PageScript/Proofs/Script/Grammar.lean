import PageScript.Proofs.Script.Keyword
import PageScript.Proofs.Text.Numerals

/-!
# The grammar of line scripts

What a line means is given by a relation (`Means`), with one case for each kind of step that a line
can name. The rules read off exactly that (`means_iff_read`): where the relation leaves a line no
step, the line is an instruction to carry out (`step_eq_iff`). A line is accepted by one rule at
most, as the keywords keep apart, so the rules could be tried in any order.

A text is cut into rows at its line feeds (`exists_cut`). `line_grammar` puts the cut and the
meaning of the rows together, for every text.

**What it does not establish.** Whether an instruction to carry out makes sense is left to the
assistant.
-/

namespace PageScript.Line

open Text

/-! ## What lines mean -/

/-- A line goes on after a keyword: the keyword in any case of its letters, maybe a colon and at
least one blank come before something that does not begin with a blank. -/
structure Follows (keyword line rest : List Char) : Prop where
  opened : ∃ opening, Opening keyword opening ∧ line = opening ++ rest
  filled : rest ≠ []
  head : ∀ c ∈ rest.head?, isBlank c = false

/-- What a text names, with or without a word before it. -/
def Names (word rest named : List Char) : Prop :=
  rest = named ∨ Follows word rest named

/-- The steps that lines name. -/
inductive Means (line : List Char) : Step → Prop where
  | navigate {rest url : List Char} (follows : Follows "navigate".toList line rest)
      (names : Names "to".toList rest url) (solid : hasBlank url = false) :
      Means line (.navigate ⟨some (.string (String.ofList url)), none, none⟩)
  | capture {url : List Char} (follows : Follows "capture".toList line url)
      (solid : hasBlank url = false) :
      Means line (.capture ⟨some (.string (String.ofList url)), false, false⟩)
  | extract {rest : List Char} (follows : Follows "extract".toList line rest) :
      Means line (.extract ⟨some (String.ofList line), none⟩)
  | evaluate {code : List Char} (follows : Follows "evaluate".toList line code) :
      Means line (.evaluate ⟨some (String.ofList code)⟩)
  | sleep {rest digits : List Char} (follows : Follows "sleep".toList line rest)
      (names : Names "for".toList rest digits) (digit : ∀ c ∈ digits, c.isDigit = true)
      (fits : decimalValue digits < UInt64.size) : Means line (.sleep ⟨some (decimalValue digits)⟩)

section

variable {keyword word line rest : List Char}

/-- What is read after a keyword is what follows it in the line. -/
theorem afterKeyword_iff_follows :
    afterKeyword keyword line = some rest ↔ Follows keyword line rest := by
  rw [afterKeyword_eq_some_iff]
  exact ⟨fun ⟨opened, filled, head⟩ => ⟨opened, filled, head⟩,
    fun follows => ⟨follows.opened, follows.filled, follows.head⟩⟩

/-- A token is read as it stands or after the word; never both, as what has the word before it has a
blank. -/
theorem tokenAfter?_eq_some_iff {t : List Char} :
    tokenAfter? word rest = some t ↔ Names word rest t ∧ hasBlank t = false := by
  rw [tokenAfter?, Option.or_eq_some_iff, Option.bind_eq_some_iff]
  simp only [Option.bind_eq_none_iff, token?, Option.ite_none_left_eq_some, Option.some.injEq,
    Bool.not_eq_true]
  constructor
  · rintro (⟨tail, found, solid, rfl⟩ | ⟨-, solid, rfl⟩)
    · exact ⟨.inr (afterKeyword_iff_follows.mp found), solid⟩
    · exact ⟨.inl rfl, solid⟩
  · rintro ⟨rfl | follows, solid⟩
    · refine .inr ⟨fun tail found => ?_, solid, rfl⟩
      cases (afterKeyword_of_solid word solid).symm.trans found
    · exact .inl ⟨t, afterKeyword_iff_follows.mpr follows, solid, rfl⟩

/-- Milliseconds are read from digits whose number has 64 bits. -/
theorem milliseconds?_eq_some_iff {digits : List Char} {n : Nat} (filled : digits ≠ []) :
    milliseconds? digits = some n ↔
      (∀ c ∈ digits, c.isDigit = true) ∧ decimalValue digits < UInt64.size ∧
        decimalValue digits = n := by
  have some : digits.isEmpty = false := List.isEmpty_eq_false_iff.mpr filled
  rw [show UInt64.size = 0x10000000000000000 from rfl]
  simp only [milliseconds?, some, Bool.false_or, Option.ite_none_left_eq_some, Option.some.injEq,
    Bool.or_eq_true, Bool.not_eq_true', decide_eq_true_eq, not_or, Bool.not_eq_false,
    List.all_eq_true, ge_iff_le, Nat.not_le, and_assoc]

/-- Digits hold no blank. -/
theorem hasBlank_of_digits {digits : List Char} (digit : ∀ c ∈ digits, c.isDigit = true) :
    hasBlank digits = false :=
  List.any_eq_false.mpr fun c mem blank => by
    cases blank.symm.trans (isBlank_of_isDigit (digit c mem))

/-- What follows a word, or stands without it, is not empty if the rest is not. -/
theorem Names.ne_nil {named : List Char} (names : Names word rest named) (filled : rest ≠ []) :
    named ≠ [] := by
  rcases names with rfl | follows
  · exact filled
  · exact follows.filled

/-! ## The rules read what lines mean -/

variable {s : Step}

/-- The rule of navigations reads an address after the keyword, with `to` or without it. -/
theorem navigate?_eq_some_iff :
    navigate? line = some s ↔
      ∃ rest url, Follows "navigate".toList line rest ∧ Names "to".toList rest url ∧
        hasBlank url = false ∧ s = .navigate ⟨some (.string (String.ofList url)), none, none⟩ := by
  simp only [navigate?, Option.bind_eq_bind, Option.pure_def, Option.bind_eq_some_iff,
    afterKeyword_iff_follows, tokenAfter?_eq_some_iff, Option.some.injEq, and_assoc,
    exists_and_left, eq_comm (a := s)]

/-- The rule of captures reads an address without blanks after the keyword. -/
theorem capture?_eq_some_iff :
    capture? line = some s ↔
      ∃ url, Follows "capture".toList line url ∧ hasBlank url = false ∧
        s = .capture ⟨some (.string (String.ofList url)), false, false⟩ := by
  simp only [capture?, Option.bind_eq_bind, Option.pure_def, Option.bind_eq_some_iff,
    afterKeyword_iff_follows, token?, Option.ite_none_left_eq_some, Option.some.injEq,
    Bool.not_eq_true, and_assoc, exists_eq_left', exists_and_left, eq_comm (a := s)]

/-- The rule of extractions keeps the whole line. -/
theorem extract?_eq_some_iff :
    extract? line = some s ↔
      ∃ rest, Follows "extract".toList line rest ∧
        s = .extract ⟨some (String.ofList line), none⟩ := by
  simp only [extract?, Option.bind_eq_bind, Option.pure_def, Option.bind_eq_some_iff,
    afterKeyword_iff_follows, Option.some.injEq, eq_comm (a := s)]

/-- The rule of evaluations reads what follows the keyword. -/
theorem evaluate?_eq_some_iff :
    evaluate? line = some s ↔
      ∃ code, Follows "evaluate".toList line code ∧
        s = .evaluate ⟨some (String.ofList code)⟩ := by
  simp only [evaluate?, Option.bind_eq_bind, Option.pure_def, Option.bind_eq_some_iff,
    afterKeyword_iff_follows, Option.some.injEq, eq_comm (a := s)]

/-- The rule of sleeps reads digits after the keyword, with `for` or without it. -/
theorem sleep?_eq_some_iff :
    sleep? line = some s ↔
      ∃ rest digits, Follows "sleep".toList line rest ∧ Names "for".toList rest digits ∧
        (∀ c ∈ digits, c.isDigit = true) ∧ decimalValue digits < UInt64.size ∧
        s = .sleep ⟨some (decimalValue digits)⟩ := by
  simp only [sleep?, Option.bind_eq_bind, Option.pure_def, Option.bind_eq_some_iff,
    afterKeyword_iff_follows, tokenAfter?_eq_some_iff, Option.some.injEq]
  constructor
  · rintro ⟨rest, follows, digits, ⟨names, -⟩, n, reads, rfl⟩
    obtain ⟨digit, fits, rfl⟩ :=
      (milliseconds?_eq_some_iff (names.ne_nil follows.filled)).mp reads
    exact ⟨rest, digits, follows, names, digit, fits, rfl⟩
  · rintro ⟨rest, digits, follows, names, digit, fits, rfl⟩
    exact ⟨rest, follows, digits, ⟨names, hasBlank_of_digits digit⟩, _,
      (milliseconds?_eq_some_iff (names.ne_nil follows.filled)).mpr ⟨digit, fits, rfl⟩, rfl⟩

/-- A line means what one of the rules reads. -/
theorem means_iff_read : Means line s ↔ ∃ rule ∈ rules, rule.read line = some s := by
  simp only [rules, List.mem_cons, List.not_mem_nil, or_false, exists_eq_or_imp, exists_eq_left,
    navigate?_eq_some_iff, capture?_eq_some_iff, extract?_eq_some_iff, evaluate?_eq_some_iff,
    sleep?_eq_some_iff]
  constructor
  · intro means
    cases means with
    | navigate follows names solid => exact .inl ⟨_, _, follows, names, solid, rfl⟩
    | capture follows solid => exact .inr (.inl ⟨_, follows, solid, rfl⟩)
    | extract follows => exact .inr (.inr (.inl ⟨_, follows, rfl⟩))
    | evaluate follows => exact .inr (.inr (.inr (.inl ⟨_, follows, rfl⟩)))
    | sleep follows names digit fits =>
      exact .inr (.inr (.inr (.inr ⟨_, _, follows, names, digit, fits, rfl⟩)))
  · rintro (⟨_, _, follows, names, solid, rfl⟩ | ⟨_, follows, solid, rfl⟩ | ⟨_, follows, rfl⟩ |
      ⟨_, follows, rfl⟩ | ⟨_, _, follows, names, digit, fits, rfl⟩)
    · exact .navigate follows names solid
    · exact .capture follows solid
    · exact .extract follows
    · exact .evaluate follows
    · exact .sleep follows names digit fits

/-! ## One rule at most -/

/-- No two rules accept the same line. -/
theorem eq_of_read {rule other : Rule} (mem : rule ∈ rules) (mem' : other ∈ rules)
    (accepts : rule.read line ≠ none) (accepts' : other.read line ≠ none) : rule = other := by
  obtain ⟨rest, found⟩ :=
    Option.ne_none_iff_exists'.mp (mt (read_of_afterKeyword_none rule mem) accepts)
  rcases only_rule_of_keyword mem found other mem' with same | refused
  · exact same.symm
  · exact absurd refused accepts'

/-- A line means one step at most. -/
theorem Means.unique {t : Step} (means : Means line s) (means' : Means line t) : s = t := by
  obtain ⟨rule, mem, read⟩ := means_iff_read.mp means
  obtain ⟨other, mem', read'⟩ := means_iff_read.mp means'
  have accepts : rule.read line ≠ none := by simp [read]
  have accepts' : other.read line ≠ none := by simp [read']
  obtain rfl : rule = other := eq_of_read mem mem' accepts accepts'
  exact Option.some.inj (read.symm.trans read')

/-- A line makes the step it means; one that means none is an instruction as it stands. -/
theorem step_eq_iff :
    step line = s ↔ Means line s ∨ (∀ t, ¬ Means line t) ∧ s = action line := by
  cases read : rules.findSome? (·.read line) with
  | none =>
    have refused : ∀ t, ¬ Means line t := fun t means => by
      obtain ⟨rule, mem, accepts⟩ := means_iff_read.mp means
      cases (List.findSome?_eq_none_iff.mp read rule mem).symm.trans accepts
    rw [step_eq, read]
    exact ⟨fun made => .inr ⟨refused, made.symm⟩,
      fun cases => cases.elim (fun means => absurd means (refused s)) (fun h => h.2.symm)⟩
  | some made =>
    have means : Means line made := means_iff_read.mpr (List.exists_of_findSome?_eq_some read)
    rw [step_eq, read]
    constructor
    · rintro rfl
      exact .inl means
    · rintro (other | ⟨refused, -⟩)
      · exact means.unique other
      · exact absurd means (refused made)

/-- The rules make the same step in any order. -/
theorem findSome?_of_perm {order : List Rule} (perm : order.Perm rules) (line : List Char) :
    order.findSome? (·.read line) = rules.findSome? (·.read line) := by
  by_cases accepted : ∃ rule ∈ rules, rule.read line ≠ none
  · obtain ⟨rule, mem, accepts⟩ := accepted
    have only : ∀ other ∈ rules, other = rule ∨ other.read line = none := fun other mem' =>
      or_iff_not_imp_right.mpr fun accepts' => eq_of_read mem' mem accepts' accepts
    rw [findSome?_of_only mem only,
      findSome?_of_only (perm.mem_iff.mpr mem) fun other h => only other (perm.mem_iff.mp h)]
  · have refused : ∀ rule ∈ rules, rule.read line = none := fun rule mem =>
      not_not.mp fun accepts => accepted ⟨rule, mem, accepts⟩
    rw [List.findSome?_eq_none_iff.mpr refused,
      List.findSome?_eq_none_iff.mpr fun rule h => refused rule (perm.mem_iff.mp h)]

end

/-! ## Rows -/

/-- A text is cut into rows that each end at a line feed and what is left after the last of them. -/
structure Cut (text : List Char) (rows : List (List Char)) (last : List Char) : Prop where
  whole : text = (rows.flatMap fun row => row ++ ['\n']) ++ last
  rows : ∀ row ∈ rows, '\n' ∉ row
  last : '\n' ∉ last

/-- Every text can be cut into rows. -/
theorem exists_cut (text : List Char) : ∃ rows last, Cut text rows last := by
  induction text with
  | nil => exact ⟨[], [], rfl, nofun, List.not_mem_nil⟩
  | cons c text ih =>
    obtain ⟨rows, last, rfl, within, left⟩ := ih
    by_cases feed : c = '\n'
    · subst feed
      exact ⟨[] :: rows, last, rfl, List.forall_mem_cons.mpr ⟨List.not_mem_nil, within⟩, left⟩
    · cases rows with
      | nil => exact ⟨[], c :: last, rfl, nofun, by simp [Ne.symm feed, left]⟩
      | cons row rows =>
        obtain ⟨here, later⟩ := List.forall_mem_cons.mp within
        exact ⟨(c :: row) :: rows, last, rfl,
          List.forall_mem_cons.mpr ⟨by simp [Ne.symm feed, here], later⟩, left⟩

/-- The lines of a text are its rows, and what is left of it if there is something left. -/
theorem Cut.lines {text last : List Char} {rows : List (List Char)} (cut : Cut text rows last) :
    lines text = rows.map dropReturn ++ if last.isEmpty then [] else [last] := by
  obtain ⟨rfl, within, left⟩ := cut
  induction rows with
  | nil => exact lines_of_not_mem left
  | cons row rows ih =>
    obtain ⟨here, later⟩ := List.forall_mem_cons.mp within
    rw [List.flatMap_cons, List.append_assoc, List.append_assoc, List.singleton_append,
      lines_append_feed here, ih later, List.map_cons, List.cons_append]

/-- The instructions of a text are the trimmed rows that are neither empty nor comments. -/
theorem Cut.instructions {text last : List Char} {rows : List (List Char)}
    (cut : Cut text rows last) :
    instructions text =
      ((rows.map dropReturn ++ [last]).map trim).filter isInstruction := by
  rw [Line.instructions, cut.lines]
  cases last with
  | nil =>
    -- Nothing is left, which would be trimmed to nothing and begin with no letter.
    have none : isInstruction (trim []) = false := rfl
    simp only [List.isEmpty_nil, if_true, List.append_nil, List.map_append, List.map_cons,
      List.map_nil, List.filter_append, List.filter_cons, none, Bool.false_eq_true, if_false,
      List.filter_nil]
  | cons c rest => rfl

/-- The steps of a text are the steps of its trimmed rows that begin with a letter, a digit or an
underscore, one step a row. A row makes the step it means, and otherwise one that carries it out.
No two rules accept the same row, so they make the same step in any order. -/
theorem line_grammar (text : String) :
    (∃ rows last, Cut text.toList rows last) ∧
    (∀ rows last, Cut text.toList rows last →
      steps text = (((rows.map dropReturn ++ [last]).map trim).filter isInstruction).map step) ∧
    (∀ line s, step line = s ↔ Means line s ∨ (∀ t, ¬ Means line t) ∧ s = action line) ∧
    (∀ line, ∀ rule ∈ rules, ∀ other ∈ rules,
      rule.read line ≠ none → other.read line ≠ none → rule = other) ∧
    (∀ order : List Rule, order.Perm rules → ∀ line,
      step line = (order.findSome? (·.read line)).getD (action line)) := by
  refine ⟨exists_cut text.toList, fun rows last cut => ?_, fun line s => step_eq_iff,
    fun line rule mem other mem' => eq_of_read mem mem', fun order perm line => ?_⟩
  · rw [steps, cut.instructions]
  · rw [step_eq, findSome?_of_perm perm]

end PageScript.Line
