import PageScript.Proofs.Json.Layout
import PageScript.Proofs.Json.Numerals

/-!
# The grammar of documents

What a JSON text is, said without a reader or a printer: words, numbers, texts in quotes, and lists
and objects with blanks between their tokens (`IsText`). Every value is written as one in every
layout, whatever its texts and however deep it nests (`Layout.isText`); without blanks there is no
character below a space in it (`le_of_mem_compact`).

**What it does not establish.** Which value a text stands for: that is the matter of reading it
back.
-/

namespace PageScript.Json

/-! ## Grammar -/

/-- What may stand between quotes: characters other than quotes, backslashes and control characters,
and escapes. -/
inductive IsInside : List Char → Prop where
  | nil : IsInside []
  | plain {c : Char} {rest : List Char} (notQuote : c ≠ '"') (notBackslash : c ≠ '\\')
      (visible : 0x20 ≤ c.toNat) (later : IsInside rest) : IsInside (c :: rest)
  | escape {c : Char} {rest : List Char}
      (letter : c ∈ ['"', '\\', '/', 'b', 'f', 'n', 'r', 't']) (later : IsInside rest) :
      IsInside ('\\' :: c :: rest)
  | code {a b c d : Char} {rest : List Char}
      (hexadecimal : ∀ x ∈ [a, b, c, d], x ∈ "0123456789abcdefABCDEF".toList)
      (later : IsInside rest) : IsInside ('\\' :: 'u' :: a :: b :: c :: d :: rest)

/-- A text in quotes. -/
def IsQuoted (s : List Char) : Prop :=
  ∃ inside, IsInside inside ∧ s = '"' :: inside ++ ['"']

/-- A part of a document with the blanks around it. -/
structure Padded where
  before : List Char
  text : List Char
  after : List Char
  blankBefore : Separators before
  blankAfter : Separators after

/-- The part and its blanks. -/
def Padded.whole (p : Padded) : List Char :=
  p.before ++ p.text ++ p.after

/-- Parts with commas between them. -/
def commas (parts : List (List Char)) : List Char :=
  [','].intercalate parts

/-- A value, without blanks around it. -/
inductive IsValue : List Char → Prop where
  | word {s : List Char} (word : s ∈ ["null".toList, "true".toList, "false".toList]) : IsValue s
  | number {s : List Char} (numeral : IsNumeral s) : IsValue s
  | string {s : List Char} (quoted : IsQuoted s) : IsValue s
  | noItems {s : List Char} (blank : Separators s) : IsValue ('[' :: s ++ [']'])
  | items {items : List Padded} (some_ : items ≠ []) (each : ∀ p ∈ items, IsValue p.text) :
      IsValue ('[' :: commas (items.map Padded.whole) ++ [']'])
  | noFields {s : List Char} (blank : Separators s) : IsValue ('\x7b' :: s ++ ['\x7d'])
  | fields {fields : List (Padded × Padded)} (some_ : fields ≠ [])
      (names : ∀ f ∈ fields, IsQuoted f.1.text) (each : ∀ f ∈ fields, IsValue f.2.text) :
      IsValue ('\x7b' :: commas (fields.map fun f => f.1.whole ++ ':' :: f.2.whole) ++ ['\x7d'])

/-- A document: one value, with blanks around it or not. -/
def IsText (s : List Char) : Prop :=
  ∃ p : Padded, IsValue p.text ∧ s = p.whole

/-! ## Values are written so -/

/-- The digits of an escape are hexadecimal digits. -/
theorem mem_of_lt_hexDigit :
    ∀ d < 16, Text.hexDigit d ∈ "0123456789abcdefABCDEF".toList := by
  decide

/-- A character stands between quotes as it is if it may, and is escaped if it may not. -/
theorem IsInside.escapeChar {rest : List Char} (c : Char) (later : IsInside rest) :
    IsInside (escapeChar c ++ rest) := by
  unfold Json.escapeChar
  split
  case h_8 notQuote notBackslash _ _ _ _ _ =>
    split
    · rename_i control
      refine .code ?_ later
      simp only [List.forall_mem_cons]
      exact ⟨by decide, by decide, mem_of_lt_hexDigit _ (by omega), mem_of_lt_hexDigit _ (by omega),
        List.forall_mem_nil _⟩
    · rename_i visible
      exact .plain notQuote notBackslash (by omega) later
  all_goals exact .escape (by decide) later

/-- A quoted text is a text in quotes. -/
theorem isQuoted_quote (s : String) : IsQuoted (quote s) := by
  refine ⟨s.toList.flatMap escapeChar, ?_, rfl⟩
  induction s.toList with
  | nil => exact .nil
  | cons c rest ih =>
    rw [List.flatMap_cons]
    exact ih.escapeChar c

/-- The text of a number is a value. -/
theorem isValue_numberText (n : JsonNumber) : IsValue (numberText n) := by
  cases n with
  | whole n => exact .number (isNumeral_signedDecimal n.val)
  | float x =>
    unfold numberText
    dsimp only
    split
    · exact .number (Decimal.isNumeral_text x)
    · exact .word (by decide)

/-- The text of a value without other values in it is a value. -/
theorem isValue_of_isScalar {v : Json} (scalar : v.isScalar = true) : IsValue (compact v) := by
  cases v with
  | null => exact .word (by decide)
  | bool b => cases b <;> exact .word (by decide)
  | number n => exact isValue_numberText n
  | string s => exact .string (isQuoted_quote s)
  | array items => cases scalar
  | object fields => cases scalar

/-- A comma stands between one part and the next. -/
theorem commas_cons (part next : List Char) (parts : List (List Char)) :
    commas (part :: next :: parts) = part ++ ',' :: commas (next :: parts) := by
  rw [commas, List.intercalate_cons_cons, List.append_assoc]
  rfl

section Brackets

variable {α β : Type} {opening closing : Char} {inner outer : List Char} {part : α → List Char}
  {whole : β → List Char} {first last : α → β}

/-- Parts after commas, each with the blanks before it, the last one with those after it too. -/
theorem exists_flatMap_commas (whole_first : ∀ a, whole (first a) = inner ++ part a)
    (whole_last : ∀ a, whole (last a) = inner ++ part a ++ outer) (a : α) (rest : List α) :
    ∃ parts, parts ≠ [] ∧ (∀ b ∈ parts, ∃ a' ∈ a :: rest, b = first a' ∨ b = last a') ∧
      inner ++ part a ++ (rest.flatMap fun a => ',' :: inner ++ part a) ++ outer =
        commas (parts.map whole) := by
  induction rest generalizing a with
  | nil =>
    refine ⟨[last a], List.cons_ne_nil _ _, ?_, ?_⟩
    · exact List.forall_mem_singleton.mpr ⟨a, List.mem_cons_self, .inr rfl⟩
    · simp [commas, whole_last]
  | cons next rest ih =>
    obtain ⟨parts, some_, each, written⟩ := ih next
    cases parts with
    | nil => exact absurd rfl some_
    | cons b parts =>
      refine ⟨first a :: b :: parts, List.cons_ne_nil _ _, ?_, ?_⟩
      · refine List.forall_mem_cons.mpr ⟨⟨a, List.mem_cons_self, .inl rfl⟩, fun b' mem => ?_⟩
        obtain ⟨a', mem', origin⟩ := each b' mem
        exact ⟨a', List.mem_cons_of_mem a mem', origin⟩
      · rw [List.map_cons, List.map_cons, commas_cons, ← List.map_cons, ← written, whole_first]
        simp

/-- What is written in brackets is blanks or parts with commas between them. -/
theorem exists_inBrackets (whole_first : ∀ a, whole (first a) = inner ++ part a)
    (whole_last : ∀ a, whole (last a) = inner ++ part a ++ outer) (as : List α) :
    inBrackets opening closing inner outer (as.map part) = opening :: [] ++ [closing] ∨
      ∃ parts, parts ≠ [] ∧ (∀ b ∈ parts, ∃ a ∈ as, b = first a ∨ b = last a) ∧
        inBrackets opening closing inner outer (as.map part) =
          opening :: commas (parts.map whole) ++ [closing] := by
  cases as with
  | nil => exact .inl rfl
  | cons a rest =>
    obtain ⟨parts, some_, each, written⟩ := exists_flatMap_commas whole_first whole_last a rest
    refine .inr ⟨parts, some_, each, ?_⟩
    rw [← written]
    simp [inBrackets, List.flatMap_map]

end Brackets

/-- Every value is written as one, in every layout. -/
theorem Layout.isValue (l : Layout) (v : Json) (depth : Nat) : IsValue (l.text depth v) := by
  induction v using Json.induction generalizing depth with
  | scalar v scalar =>
    rw [l.scalar depth v scalar]
    exact isValue_of_isScalar scalar
  | array items ih =>
    let first (v : Json) : Padded :=
      ⟨l.breaks (depth + 1), l.text (depth + 1) v, [], l.breaks_blank _, separators_nil⟩
    let last (v : Json) : Padded :=
      ⟨l.breaks (depth + 1), l.text (depth + 1) v, l.breaks depth, l.breaks_blank _,
        l.breaks_blank _⟩
    have whole_first (v : Json) :
        (first v).whole = l.breaks (depth + 1) ++ l.text (depth + 1) v := List.append_nil _
    have whole_last (v : Json) :
        (last v).whole = l.breaks (depth + 1) ++ l.text (depth + 1) v ++ l.breaks depth := rfl
    rw [l.array]
    rcases exists_inBrackets whole_first whole_last items with none | ⟨parts, some_, each, written⟩
    · rw [none]
      exact .noItems separators_nil
    · rw [written]
      refine .items some_ fun p mem => ?_
      obtain ⟨v, here, rfl | rfl⟩ := each p mem <;> exact ih v here (depth + 1)
  | object fields ih =>
    let name (f : String × Json) : Padded :=
      ⟨l.breaks (depth + 1), quote f.1, [], l.breaks_blank _, separators_nil⟩
    let first (f : String × Json) : Padded × Padded :=
      (name f, ⟨l.gap, l.text (depth + 1) f.2, [], l.gap_blank, separators_nil⟩)
    let last (f : String × Json) : Padded × Padded :=
      (name f, ⟨l.gap, l.text (depth + 1) f.2, l.breaks depth, l.gap_blank, l.breaks_blank _⟩)
    let whole (p : Padded × Padded) : List Char := p.1.whole ++ ':' :: p.2.whole
    have whole_first (f : String × Json) : whole (first f) =
        l.breaks (depth + 1) ++ memberText l.gap f.1 (l.text (depth + 1) f.2) := by
      simp [whole, first, name, Padded.whole, memberText]
    have whole_last (f : String × Json) : whole (last f) =
        l.breaks (depth + 1) ++ memberText l.gap f.1 (l.text (depth + 1) f.2)
          ++ l.breaks depth := by
      simp [whole, last, name, Padded.whole, memberText]
    rw [l.object]
    rcases exists_inBrackets whole_first whole_last fields with none | ⟨parts, some_, each, written⟩
    · rw [none]
      exact .noFields separators_nil
    · rw [written]
      refine .fields some_ (fun p mem => ?_) fun p mem => ?_
      · obtain ⟨f, here, rfl | rfl⟩ := each p mem <;> exact isQuoted_quote f.1
      · obtain ⟨f, here, rfl | rfl⟩ := each p mem <;> exact ih f here (depth + 1)

/-- With blanks around it or not, a value is written as a document. -/
theorem Layout.isText (l : Layout) (v : Json) (depth : Nat) : IsText (l.text depth v) :=
  ⟨⟨[], l.text depth v, [], separators_nil, separators_nil⟩, l.isValue v depth,
    (List.append_nil _).symm⟩

/-! ## Control characters -/

/-- A check of a text for characters below a space, said of each character. -/
theorem le_of_mem_all {s : List Char} (all : (s.all fun c => decide (0x20 ≤ c.toNat)) = true) :
    ∀ c ∈ s, 0x20 ≤ c.toNat :=
  fun c mem => of_decide_eq_true (List.all_eq_true.mp all c mem)

/-- No digit is below a space. -/
theorem le_of_isDigit {c : Char} (digit : c.isDigit = true) : 0x20 ≤ c.toNat := by
  simp only [Char.isDigit, Bool.and_eq_true, decide_eq_true_eq, ge_iff_le, UInt32.le_iff_toNat_le]
    at digit
  exact Nat.le_trans (by decide) digit.1

/-- What holds of digits, signs, the point and the marks of an exponent holds of a number. -/
theorem IsNumeral.forall_mem {P : Char → Prop} {s : List Char} (numeral : IsNumeral s)
    (digit : ∀ c, c.isDigit = true → P c) (other : ∀ c ∈ ['+', '-', '.', 'e', 'E'], P c) :
    ∀ c ∈ s, P c := by
  obtain ⟨sign, whole, fraction, exponent, isSign, isWhole, isFraction, isExponent, rfl⟩ := numeral
  simp only [List.forall_mem_cons] at other
  obtain ⟨plus, minus, point, small, capital, -⟩ := other
  have inDigits {s : List Char} (digits : IsDigits s) : ∀ c ∈ s, P c :=
    fun c mem => digit c (digits.2 c mem)
  have inSign : ∀ c ∈ sign, P c := by
    rcases List.mem_pair.mp isSign with rfl | rfl
    · exact List.forall_mem_nil _
    · exact List.forall_mem_singleton.mpr minus
  have inFraction : ∀ c ∈ fraction, P c := by
    rcases isFraction with rfl | ⟨digits, isDigits, rfl⟩
    · exact List.forall_mem_nil _
    · exact List.forall_mem_cons.mpr ⟨point, inDigits isDigits⟩
  have inExponent : ∀ c ∈ exponent, P c := by
    rcases isExponent with rfl | ⟨mark, sign, digits, isMark, isSign, isDigits, rfl⟩
    · exact List.forall_mem_nil _
    · have inMark : P mark := by
        rcases List.mem_pair.mp isMark with rfl | rfl <;> assumption
      have inSign : ∀ c ∈ sign, P c := by
        simp only [List.mem_cons, List.not_mem_nil, or_false] at isSign
        rcases isSign with rfl | rfl | rfl
        · exact List.forall_mem_nil _
        · exact List.forall_mem_singleton.mpr plus
        · exact List.forall_mem_singleton.mpr minus
      have later := List.forall_mem_append.mpr ⟨inSign, inDigits isDigits⟩
      exact List.forall_mem_cons.mpr ⟨inMark, later⟩
  simp only [List.forall_mem_append]
  exact ⟨⟨⟨inSign, inDigits isWhole.1⟩, inFraction⟩, inExponent⟩

/-- No character of a number is below a space. -/
theorem IsNumeral.le_of_mem {s : List Char} (numeral : IsNumeral s) : ∀ c ∈ s, 0x20 ≤ c.toNat :=
  numeral.forall_mem (fun _ => le_of_isDigit) (le_of_mem_all rfl)

/-- No character within quotes is below a space. -/
theorem IsInside.le_of_mem {s : List Char} (inside : IsInside s) : ∀ c ∈ s, 0x20 ≤ c.toNat := by
  induction inside with
  | nil => exact List.forall_mem_nil _
  | plain notQuote notBackslash visible later ih => exact List.forall_mem_cons.mpr ⟨visible, ih⟩
  | @escape c rest letter later ih =>
    have visible : 0x20 ≤ c.toNat := le_of_mem_all rfl c letter
    exact List.forall_mem_cons.mpr ⟨by decide, List.forall_mem_cons.mpr ⟨visible, ih⟩⟩
  | @code a b c d rest hexadecimal later ih =>
    have digits : ∀ x ∈ [a, b, c, d], 0x20 ≤ x.toNat := fun x mem =>
      le_of_mem_all rfl x (hexadecimal x mem)
    refine List.forall_mem_cons.mpr ⟨by decide, List.forall_mem_cons.mpr ⟨by decide, ?_⟩⟩
    exact List.forall_mem_append.mpr ⟨digits, ih⟩

/-- No character of a text in quotes is below a space. -/
theorem IsQuoted.le_of_mem {s : List Char} (quoted : IsQuoted s) : ∀ c ∈ s, 0x20 ≤ c.toNat := by
  obtain ⟨inside, isInside, rfl⟩ := quoted
  refine List.forall_mem_cons.mpr ⟨by decide, List.forall_mem_append.mpr ⟨isInside.le_of_mem, ?_⟩⟩
  exact List.forall_mem_singleton.mpr (by decide)

/-- No character of a value without other values in it is below a space. -/
theorem le_of_mem_scalar {v : Json} (scalar : v.isScalar = true) :
    ∀ c ∈ compact v, 0x20 ≤ c.toNat := by
  cases v with
  | null => exact le_of_mem_all rfl
  | bool b => cases b <;> exact le_of_mem_all rfl
  | number n =>
    cases n with
    | whole n => exact (isNumeral_signedDecimal n.val).le_of_mem
    | float x =>
      show ∀ c ∈ (if x.isFinite then Decimal.text x else "null".toList), _
      split
      · exact (Decimal.isNumeral_text x).le_of_mem
      · exact le_of_mem_all rfl
  | string s => exact (isQuoted_quote s).le_of_mem
  | array items => cases scalar
  | object fields => cases scalar

/-- What holds of the brackets, the comma and the parts holds of all there is in brackets. -/
theorem forall_mem_inBrackets {P : Char → Prop} {opening closing : Char} {parts : List (List Char)}
    (opens : P opening) (closes : P closing) (comma : P ',')
    (each : ∀ part ∈ parts, ∀ c ∈ part, P c) :
    ∀ c ∈ inBrackets opening closing [] [] parts, P c := by
  cases parts with
  | nil =>
    exact List.forall_mem_cons.mpr ⟨opens, List.forall_mem_singleton.mpr closes⟩
  | cons part parts =>
    obtain ⟨here, later⟩ := List.forall_mem_cons.mp each
    have others : ∀ c ∈ parts.flatMap fun next => ',' :: next, P c := by
      intro c mem
      obtain ⟨next, inParts, mem⟩ := List.mem_flatMap.mp mem
      rcases List.mem_cons.mp mem with rfl | mem
      · exact comma
      · exact later next inParts c mem
    simp only [inBrackets, List.append_nil, List.cons_append, List.nil_append,
      List.forall_mem_cons, List.forall_mem_append]
    exact ⟨opens, ⟨here, others⟩, closes, List.forall_mem_nil _⟩

/-- Written without blanks, a value has no character below a space. -/
theorem le_of_mem_compact (v : Json) : ∀ c ∈ compact v, 0x20 ≤ c.toNat := by
  induction v using Json.induction with
  | scalar v scalar => exact le_of_mem_scalar scalar
  | array items ih =>
    have written : compact (.array items) = _ := Layout.tight.array 0 items
    rw [written]
    refine forall_mem_inBrackets (by decide) (by decide) (by decide) fun part mem => ?_
    obtain ⟨v, here, rfl⟩ := List.mem_map.mp mem
    exact ih v here
  | object fields ih =>
    have written : compact (.object fields) = _ := Layout.tight.object 0 fields
    rw [written]
    refine forall_mem_inBrackets (by decide) (by decide) (by decide) fun part mem => ?_
    obtain ⟨f, here, rfl⟩ := List.mem_map.mp mem
    have name := (isQuoted_quote f.1).le_of_mem
    refine List.forall_mem_append.mpr ⟨List.forall_mem_append.mpr ⟨name, ?_⟩, ih f here⟩
    exact List.forall_mem_singleton.mpr (by decide)

end PageScript.Json
