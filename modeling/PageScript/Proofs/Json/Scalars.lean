import Mathlib.Data.List.Basic
import PageScript.Json.Parser
import PageScript.Json.Printer
import PageScript.Proofs.Text.Numerals

/-!
# Reading single values back

A value without other values in it is read back from its text (`valueWith_compact`): a text from
its escapes, a whole number from its digits. A number is read as far as it goes, so what follows it
must not go on with it (`Stops`).

Reading a floating-point number rounds twice, so not every such number is read back from its text;
those that are are `ExactNumber`, and a value that holds no others is `Exact`. A value whose numbers
are whole is (`Whole.exact`), and a number below one is if its digits say so
(`exactNumber_of_fraction`).

**What it does not establish.** Which floating-point numbers are exact: that is decided number by
number.
-/

namespace PageScript.Json

open Text (Symbol)

/-- Whether there are no other values in a value. -/
def isScalar : Json → Bool
  | .array _ | .object _ => false
  | _ => true

/-- The value of a field is smaller than the fields. -/
theorem sizeOf_lt_of_mem {f : String × Json} {fields : List (String × Json)} (mem : f ∈ fields) :
    sizeOf f.2 < sizeOf fields := by
  have inside := List.sizeOf_lt_of_mem mem
  obtain ⟨name, v⟩ := f
  simp only [Prod.mk.sizeOf_spec] at inside ⊢
  omega

/-- What holds of single values, and of lists and objects if it holds of what is in them, holds of
every value. -/
@[elab_as_elim]
theorem induction {P : Json → Prop} (scalar : ∀ v, v.isScalar = true → P v)
    (array : ∀ items, (∀ v ∈ items, P v) → P (.array items))
    (object : ∀ fields, (∀ f ∈ fields, P f.2) → P (.object fields)) : ∀ v, P v
  | .array items => array items fun v _ => induction scalar array object v
  | .object fields => object fields fun f mem =>
    have := sizeOf_lt_of_mem mem
    induction scalar array object f.2
  | .null => scalar .null rfl
  | .bool b => scalar (.bool b) rfl
  | .number n => scalar (.number n) rfl
  | .string s => scalar (.string s) rfl

/-- All numbers in a value are whole. -/
inductive Whole : Json → Prop where
  | null : Whole .null
  | bool (b : Bool) : Whole (.bool b)
  | number (n : WholeNumber) : Whole (.number (.whole n))
  | string (s : String) : Whole (.string s)
  | array {items : List Json} (each : ∀ v ∈ items, Whole v) : Whole (.array items)
  | object {fields : List (String × Json)} (each : ∀ f ∈ fields, Whole f.2) :
      Whole (.object fields)

/-- Characters that may stand between the tokens of a document. -/
def Separators (s : List Char) : Prop :=
  ∀ c ∈ s, isSeparator (.char c) = true

/-- Nothing at all separates too. -/
theorem separators_nil : Separators [] :=
  List.forall_mem_nil _

/-! ## Texts -/

/-- The digits of an escape are characters of one byte. -/
theorem byteCount_hexDigit : ∀ d < 16, Text.byteCount (Text.hexDigit d) = 1 := by
  decide

/-- The escape of a control character gives its number back. -/
theorem fourHex?_control :
    ∀ n < 0x20, fourHex? '0' '0' (Text.hexDigit (n / 16)) (Text.hexDigit (n % 16)) = some n := by
  decide

/-- The escape of a control character by its number is read as the character. -/
theorem hexUnit_control {n : Nat} (control : n < 0x20) (r : List Symbol) :
    hexUnit (.char '0' :: .char '0' :: .char (Text.hexDigit (n / 16)) ::
      .char (Text.hexDigit (n % 16)) :: r) = .ok (n, r) := by
  have enough : ¬ Text.width (.char '0' :: .char '0' :: .char (Text.hexDigit (n / 16)) ::
      .char (Text.hexDigit (n % 16)) :: r) < 4 := by
    simp only [Text.width, List.foldr_cons, Symbol.width,
      byteCount_hexDigit (n / 16) (by omega), byteCount_hexDigit (n % 16) (by omega)]
    have zero : Text.byteCount '0' = 1 := rfl
    omega
  rw [hexUnit, if_neg enough, fourHex?_control n control]

/-- A character stands between quotes as it is, or is escaped so that it is read back. -/
theorem escapeChar_cases (c : Char) :
    (escapeChar c = [c] ∧ c ≠ '"' ∧ c ≠ '\\' ∧ ¬ c.toNat < 0x20) ∨
      ∃ letters, escapeChar c = '\\' :: letters ∧
        ∀ r, escape (letters.map .char ++ r) = .ok (c, r) := by
  unfold escapeChar
  split
  case h_8 notQuote notBackslash _ _ _ _ _ =>
    split
    · rename_i control
      refine .inr ⟨_, rfl, fun r => ?_⟩
      have whole : ¬ isTrailing c.toNat ∧ ¬ isLeading c.toNat := by
        simp only [isTrailing, isLeading, Bool.and_eq_true, decide_eq_true_eq]
        omega
      simp only [List.map_cons, List.map_nil, List.cons_append, List.nil_append, escape,
        hexUnit_control control, whole, Char.ofNat_toNat]
      simp
    · rename_i visible
      exact .inl ⟨rfl, notQuote, notBackslash, visible⟩
  all_goals exact .inr ⟨_, rfl, fun r => rfl⟩

/-- Escaped characters up to a quote are read back. -/
theorem textFrom_escaped (s taken : List Char) (r : List Symbol) :
    textFrom taken true ((s.flatMap escapeChar).map .char ++ .char '"' :: r) =
      .ok (String.ofList (taken.reverse ++ s), r) := by
  induction s generalizing taken with
  | nil => rw [List.flatMap_nil, List.map_nil, List.nil_append, textFrom, List.append_nil]; rfl
  | cons c rest ih =>
    have next := ih (c :: taken)
    rw [List.reverse_cons, List.append_assoc, List.singleton_append] at next
    rw [List.flatMap_cons, List.map_append, List.append_assoc]
    rcases escapeChar_cases c with
      ⟨plain, notQuote, notBackslash, visible⟩ | ⟨letters, escaped, read⟩
    · rw [plain, List.map_singleton, List.singleton_append, textFrom, if_neg notQuote,
        if_neg notBackslash, if_neg visible, next]
    · rw [escaped, List.map_cons, List.cons_append, textFrom, if_neg (by decide), if_pos rfl]
      split
      · rename_i h
        rw [read] at h
        cases h
      · rename_i h
        rw [read] at h
        cases h
        exact next

/-- A text in quotes is read back, after the opening quote. -/
theorem textFrom_quote (s : String) (r : List Symbol) :
    textFrom [] true ((quote s).tail.map .char ++ r) = .ok (s, r) := by
  have read := textFrom_escaped s.toList [] r
  rw [List.reverse_nil, List.nil_append, String.ofList_toList] at read
  rw [quote, List.cons_append, List.tail_cons, List.map_append, List.append_assoc]
  exact read

/-! ## Numbers -/

/-- Whether a symbol would go on with a number before it. -/
def goesOn : Symbol → Bool
  | .char c => c.isDigit || c == '.' || c == 'e' || c == 'E'
  | .stray _ => false

/-- A number ends before these symbols. -/
def Stops (r : List Symbol) : Prop :=
  ∀ symbol ∈ r.head?, goesOn symbol = false

/-- A number stops at the end of the text. -/
theorem stops_nil : Stops [] :=
  fun _ mem => absurd mem (Option.not_mem_none _)

/-- Of a run of digits all are read, and nothing after them. -/
theorem digitRun_append {digits : List Char} (all : ∀ c ∈ digits, c.isDigit = true)
    {r : List Symbol} (stops : Stops r) : digitRun (digits.map .char ++ r) = (digits, r) := by
  induction digits with
  | nil =>
    cases r with
    | nil => rfl
    | cons symbol r =>
      cases symbol with
      | stray n => rfl
      | char c =>
        have last := stops _ rfl
        simp only [goesOn, Bool.or_eq_false_iff] at last
        simp [digitRun, last.1.1.1]
  | cons c rest ih =>
    obtain ⟨here, later⟩ := List.forall_mem_cons.mp all
    rw [List.map_cons, List.cons_append, digitRun, if_pos here, ih later]

/-- Reading further digits makes no number smaller. -/
theorem le_foldl_digits (digits : List Char) (start : Nat) :
    start ≤ digits.foldl (fun n c => 10 * n + Text.digitValue c) start := by
  induction digits generalizing start with
  | nil => exact Nat.le_refl _
  | cons c rest ih =>
    have grows : start ≤ 10 * start + Text.digitValue c := by omega
    exact Nat.le_trans grows (ih _)

/-- Digits whose number fits 64 bits all go into the significand. -/
theorem significandOf_of_lt {digits : List Char} {start : Nat}
    (fits : digits.foldl (fun n c => 10 * n + Text.digitValue c) start < 0x10000000000000000) :
    significandOf start digits =
      (digits.foldl (fun n c => 10 * n + Text.digitValue c) start, 0) := by
  induction digits generalizing start with
  | nil => rfl
  | cons c rest ih =>
    have next := Nat.lt_of_le_of_lt (le_foldl_digits rest _) fits
    rw [List.foldl_cons] at fits ⊢
    rw [significandOf, if_pos next, ih fits]

/-- The digits of a number that fits in 64 bits are read as that number, with none dropped. -/
theorem significandOf_decimal {n : Nat} (fits : n < 0x10000000000000000) :
    significandOf 0 (Text.decimal n) = (n, 0) := by
  have value : (Text.decimal n).foldl (fun n c => 10 * n + Text.digitValue c) 0 = n :=
    Text.decimalValue_decimal n
  rw [significandOf_of_lt (by rwa [value]), value]

/-- What stops a number does not open an exponent. -/
theorem Stops.noExponent {r : List Symbol} (stops : Stops r) :
    r.head?.any isExponentMark = false := by
  cases r with
  | nil => rfl
  | cons symbol r =>
    have last := stops symbol rfl
    cases symbol with
    | stray n => rfl
    | char c =>
      simp only [goesOn, Bool.or_eq_false_iff] at last
      simp [isExponentMark, last.1.2, last.2]

/-- Without an exponent, the number is put together from its digits. -/
theorem exponentIfAny_of_stops {r : List Symbol} (stops : Stops r) (negative : Bool)
    (significand : Nat) (power : Int) :
    exponentIfAny negative significand power r = floatOfParts negative significand power r := by
  cases r with
  | nil => rfl
  | cons symbol r => exact if_neg (Bool.eq_false_iff.mp stops.noExponent)

/-- The notation of a number is read up to its end: as a whole number if all its digits go into the
significand. -/
theorem readNumber_digits (n : Nat) (negative : Bool) {r : List Symbol} (stops : Stops r) :
    readNumber negative ((Text.decimal n).map .char ++ r) =
      if (significandOf 0 (Text.decimal n)).2 = 0 then
        .ok (wholeOf negative (significandOf 0 (Text.decimal n)).1, r)
      else floatOfParts negative (significandOf 0 (Text.decimal n)).1
        (significandOf 0 (Text.decimal n)).2 r := by
  have run := digitRun_append (Text.decimal_isDigit n) stops
  cases digits : Text.decimal n with
  | nil => exact absurd digits (Text.decimal_ne_nil n)
  | cons first others =>
    rw [digits] at run
    have single : ¬ (first = '0' ∧ others ≠ []) := by
      rintro ⟨rfl, more⟩
      rcases Nat.eq_zero_or_pos n with rfl | positive
      · rw [Text.decimal_zero] at digits
        exact more (List.cons.inj digits).2.symm
      · exact Text.head_decimal positive (by rw [digits]; rfl)
    rw [readNumber, run]
    simp only [single, if_false]
    split
    · rename_i r'
      exact absurd (stops _ rfl) (by decide)
    · simp only [stops.noExponent, Bool.not_false, and_true, exponentIfAny_of_stops stops]

/-- A number in decimal notation is read as a whole one. -/
theorem readNumber_decimal {n : Nat} (fits : n < 0x10000000000000000) (negative : Bool)
    {r : List Symbol} (stops : Stops r) :
    readNumber negative ((Text.decimal n).map .char ++ r) = .ok (wholeOf negative n, r) := by
  rw [readNumber_digits n negative stops, significandOf_decimal fits]
  rfl

/-- A whole number is in the range of whole numbers. -/
theorem ofInt?_val (n : WholeNumber) : WholeNumber.ofInt? n.val = some n :=
  dif_pos ⟨n.low, n.high⟩

/-- The magnitude of a whole number and its sign give the number. -/
theorem wholeOf_natAbs (n : WholeNumber) : wholeOf (n.val < 0) n.val.natAbs = .whole n := by
  have low := n.low
  by_cases negative : n.val < 0
  · have fits : (n.val.natAbs == 0 || decide (n.val.natAbs > 0x8000000000000000)) = false := by
      rw [Bool.or_eq_false_iff, beq_eq_false_iff_ne, decide_eq_false_iff_not]
      omega
    have value : -(n.val.natAbs : Int) = n.val := by omega
    simp only [wholeOf, negative, decide_true, Bool.true_and, fits, if_true, value, ofInt?_val,
      Bool.false_eq_true, if_false]
  · have value : (n.val.natAbs : Int) = n.val := by omega
    simp only [wholeOf, negative, decide_false, Bool.false_and, value, ofInt?_val,
      Bool.false_eq_true, if_false]

/-- A number stops at a character that does not go on with it. -/
theorem stops_char {c : Char} (stop : goesOn (.char c) = false) (r : List Symbol) :
    Stops (.char c :: r) := by
  intro symbol mem
  cases mem
  exact stop

/-- A number stops behind separators if it stops after them. -/
theorem stops_separators {s : List Char} (blank : Separators s) {r : List Symbol}
    (stops : Stops r) : Stops (s.map .char ++ r) := by
  cases s with
  | nil => exact stops
  | cons c rest =>
    refine stops_char ?_ _
    have here := blank c List.mem_cons_self
    simp only [isSeparator, Bool.or_eq_true, beq_iff_eq] at here
    rcases here with ((rfl | rfl) | rfl) | rfl <;> rfl

/-! ## Single values -/

/-- Separators before a value are skipped. -/
theorem skipBlank_append {s : List Char} (blank : Separators s) (r : List Symbol) :
    skipBlank (s.map .char ++ r) = skipBlank r := by
  refine List.dropWhile_append_of_pos fun symbol mem => ?_
  obtain ⟨c, here, rfl⟩ := List.mem_map.mp mem
  exact blank c here

/-- Nothing is skipped before a visible character. -/
theorem skipBlank_of_head {symbol : Symbol} (visible : isSeparator symbol = false)
    (r : List Symbol) : skipBlank (symbol :: r) = symbol :: r :=
  List.dropWhile_cons_of_neg (by simp [visible])

/-- A digit is neither a separator nor the beginning of another kind of value. -/
theorem digit_cases {c : Char} (digit : c.isDigit = true) :
    isSeparator (.char c) = false ∧ c ≠ '"' ∧ c ≠ '[' ∧ c ≠ '\x7b' ∧ c ≠ '-' ∧ c ≠ ']' := by
  simp only [isSeparator, Bool.or_eq_false_iff, beq_eq_false_iff_ne]
  refine ⟨⟨⟨⟨?_, ?_⟩, ?_⟩, ?_⟩, ?_, ?_, ?_, ?_, ?_⟩
  all_goals
    rintro rfl
    revert digit
    decide

/-- A whole number is read back from its digits, whatever stops it. -/
theorem valueWith_number (n : WholeNumber) {r : List Symbol} (stops : Stops r)
    (list object : List Symbol → Outcome Json) :
    valueWith list object ((Text.signedDecimal n.val).map .char ++ r) =
      .ok (.number (.whole n), r) := by
  have fits : n.val.natAbs < 0x10000000000000000 := by
    have := n.low
    have := n.high
    omega
  have whole := wholeOf_natAbs n
  unfold Text.signedDecimal
  split
  · rename_i negative
    simp only [negative, decide_true] at whole
    have read := readNumber_decimal fits true stops
    rw [List.map_cons, List.cons_append, valueWith, skipBlank_of_head rfl]
    simp [read, whole, onValue]
  · rename_i positive
    simp only [positive, decide_false] at whole
    have read := readNumber_decimal fits false stops
    have digits := Text.decimal_isDigit n.val.natAbs
    cases first : Text.decimal n.val.natAbs with
    | nil => exact absurd first (Text.decimal_ne_nil _)
    | cons c rest =>
      rw [first] at read digits
      have digit := digits c List.mem_cons_self
      obtain ⟨visible, notQuote, notList, notObject, notSign, -⟩ := digit_cases digit
      rw [List.map_cons, List.cons_append] at read ⊢
      simp [valueWith, skipBlank_of_head visible, notQuote, notList, notObject, notSign, digit,
        read, whole, onValue]

/-! ## Exact values -/

/-- A number is read back from its text, whatever follows it that does not go on with it. -/
def ExactNumber (n : JsonNumber) : Prop :=
  ∀ r, Stops r → ∀ list object : List Symbol → Outcome Json,
    valueWith list object ((numberText n).map .char ++ r) = .ok (.number n, r)

/-- Every number in a value is read back from its text. -/
inductive Exact : Json → Prop where
  | null : Exact .null
  | bool (b : Bool) : Exact (.bool b)
  | number {n : JsonNumber} (reads : ExactNumber n) : Exact (.number n)
  | string (s : String) : Exact (.string s)
  | array {items : List Json} (each : ∀ v ∈ items, Exact v) : Exact (.array items)
  | object {fields : List (String × Json)} (each : ∀ f ∈ fields, Exact f.2) :
      Exact (.object fields)

/-- Whole numbers are exact. -/
theorem exactNumber_whole (n : WholeNumber) : ExactNumber (.whole n) :=
  fun _ stops list object => valueWith_number n stops list object

/-- A value whose numbers are whole is read back from its text. -/
theorem Whole.exact {v : Json} (whole : v.Whole) : v.Exact := by
  induction whole with
  | null => exact .null
  | bool b => exact .bool b
  | number n => exact .number (exactNumber_whole n)
  | string s => exact .string s
  | array _ ih => exact .array ih
  | object _ ih => exact .object ih

/-- A fraction is read up to its end. -/
theorem readNumber_fraction {digits : List Char} (some : digits ≠ [])
    (all : ∀ c ∈ digits, c.isDigit = true) {r : List Symbol} (stops : Stops r) :
    readNumber false (.char '0' :: .char '.' :: (digits.map .char ++ r)) =
      floatOfParts false (significandOf 0 digits).1
        (0 - ((digits.length : Int) - (significandOf 0 digits).2)) r := by
  have point : digitRun (.char '0' :: .char '.' :: (digits.map .char ++ r)) =
      (['0'], .char '.' :: (digits.map .char ++ r)) := rfl
  have zero : significandOf 0 ['0'] = (0, 0) := rfl
  have notEmpty : digits.isEmpty = false := by simpa using some
  rw [readNumber, point]
  simp only [ne_eq, not_true_eq_false, and_false, if_false, zero, fraction,
    digitRun_append all stops, notEmpty, Bool.false_eq_true, exponentIfAny_of_stops stops]
  rfl

/-- A number below one is read back if its digits, as many as fit, give the number when they are
scaled. -/
theorem exactNumber_of_fraction {x : Float} {digits : List Char} (some : digits ≠ [])
    (all : ∀ c ∈ digits, c.isDigit = true)
    (written : numberText (.float x) = '0' :: '.' :: digits)
    (scaled : scale? (significandOf 0 digits).1
      (0 - ((digits.length : Int) - (significandOf 0 digits).2)) = .some x) :
    ExactNumber (.float x) := by
  intro r stops list object
  have read := readNumber_fraction some all stops
  rw [floatOfParts, scaled] at read
  rw [written]
  show onValue Json.number
    (readNumber false (.char '0' :: .char '.' :: (digits.map .char ++ r))) = _
  rw [read]
  rfl

/-- An exact value without other values in it is read back from its text, whatever stops it. -/
theorem valueWith_compact {v : Json} (scalar : v.isScalar = true) (exact : v.Exact)
    {r : List Symbol} (stops : Stops r) (list object : List Symbol → Outcome Json) :
    valueWith list object ((compact v).map .char ++ r) = .ok (v, r) := by
  cases exact with
  | null => rfl
  | bool b => cases b <;> rfl
  | number reads => exact reads r stops list object
  | string s =>
    have read := textFrom_quote s r
    rw [compact, quote, List.cons_append, List.tail_cons] at *
    rw [List.map_cons, List.cons_append, valueWith, skipBlank_of_head rfl]
    simp only [if_true, read, onValue]
  | array each => cases scalar
  | object each => cases scalar

end PageScript.Json
