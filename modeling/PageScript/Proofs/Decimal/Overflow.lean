import PageScript.Decimal.Reading
import PageScript.Proofs.Binary.Decimals
import PageScript.Proofs.Json.Numerals
import PageScript.Proofs.Text.Letters

/-!
# Texts that denote no finite number

A text may denote an infinity or no number, by a word, or an infinity by a decimal that overflows.
These are all the texts that denote something else than a finite number
(`not_isFinite_ofText?_iff`), and an infinity above zero is denoted without a minus sign
(`infinite_ofText?_iff`).

**What it does not establish.** Which finite number a decimal is read as is no matter here, only
that it is finite; texts that are no number at all are not read, and nothing more is said of them.
-/

namespace PageScript

/-! ## Numbers of digits -/

namespace Text

/-- A number has a digit at least. -/
theorem length_decimal_pos (n : Nat) : 0 < (decimal n).length :=
  List.length_pos_iff.mpr (decimal_ne_nil n)

/-- A number is less than ten to the number of its digits. -/
theorem lt_pow_length_decimal (n : Nat) : n < 10 ^ (decimal n).length := by
  induction n using decimal.induct with
  | case1 n small =>
    rw [decimal, if_pos small]
    exact small
  | case2 n large ih =>
    rw [decimal, if_neg large, List.length_append, List.length_singleton, Nat.pow_succ]
    omega

/-- The first digit of a positive number counts. -/
theorem pow_length_decimal_le {n : Nat} (positive : 0 < n) :
    10 ^ ((decimal n).length - 1) ≤ n := by
  induction n using decimal.induct with
  | case1 n small =>
    rw [decimal, if_pos small]
    exact positive
  | case2 n large ih =>
    obtain ⟨k, length⟩ := Nat.exists_eq_add_one.mpr (length_decimal_pos (n / 10))
    have first := ih (by omega)
    rw [length, Nat.add_sub_cancel] at first
    rw [decimal, if_neg large, List.length_append, List.length_singleton, Nat.add_sub_cancel,
      length, Nat.pow_succ]
    omega

end Text

namespace Decimal

open Binary

variable {digits m : Nat} {e exponent : Int} {s u : List Char} {x y : Float}

/-! ## The nearest number -/

/-- The infinity that an overflow gives is the one above zero. -/
theorem unpack_infinity : infinity.toModel.unpack = .infinity .positive := by
  rfl

theorem unpack_notANumber : notANumber.toModel.unpack = .notANumber := by
  rfl

/-- The number nearest to a decimal is finite unless the decimal overflows. -/
theorem isFinite_nearest_iff :
    (nearest digits exponent).isFinite = true ↔ (digits : ℚ) * 10 ^ exponent < overflow := by
  unfold nearest
  dsimp only
  split
  · rename_i zero
    rw [zero]
    exact iff_of_true rfl (zero_lt_overflow exponent)
  rename_i some
  have positive : 0 < digits := Nat.pos_of_ne_zero some
  split
  · rename_i large
    have length := Text.length_decimal_pos digits
    refine iff_of_false ?_ (not_lt.mpr ?_)
    · show infinity.toModel.unpack.isFinite ≠ true
      rw [unpack_infinity]
      exact Bool.false_ne_true
    · exact overflow_le (Text.pow_length_decimal_le positive) (by omega)
  split
  · rename_i small
    refine iff_of_true rfl (lt_overflow (Nat.le_of_lt (Text.lt_pow_length_decimal digits)) ?_)
    omega
  · rw [isFinite_ofScientific_iff]
    have power : (if (decide (exponent < 0)) = true then -(exponent.natAbs : Int)
        else exponent.natAbs) = exponent := by
      split
      · rename_i negative
        have := of_decide_eq_true negative
        omega
      · rename_i natural
        have := of_decide_eq_false (Bool.eq_false_iff.mpr natural)
        omega
    rw [power]

/-- What is nearest to a decimal without a sign carries no minus, be it zero, finite or infinite. -/
theorem signed_nearest : Signed .positive (nearest digits exponent).toModel.unpack := by
  unfold nearest
  dsimp only
  split
  · rfl
  split
  · rw [unpack_infinity]
    rfl
  split
  · rfl
  · exact signed_ofScientific _ _ _

/-- The number nearest to a decimal that overflows is infinity. -/
theorem unpack_nearest (large : ¬ (digits : ℚ) * 10 ^ exponent < overflow) :
    (nearest digits exponent).toModel.unpack = .infinity .positive :=
  signed_nearest.eq_infinity (Bool.eq_false_iff.mpr fun finite =>
    large (isFinite_nearest_iff.mp finite))

/-! ## Decimals -/

/-- The exponent part of a decimal and its value: nothing, or a mark, maybe a sign, and digits. -/
inductive IsExponent : List Char → Int → Prop where
  | none : IsExponent [] 0
  | up {mark : Char} {sign digits : List Char} (isMark : mark ∈ ['e', 'E'])
    (isSign : sign ∈ [[], ['+']]) (isDigits : Json.IsDigits digits) :
    IsExponent (mark :: (sign ++ digits)) (Text.decimalValue digits)
  | down {mark : Char} {digits : List Char} (isMark : mark ∈ ['e', 'E'])
    (isDigits : Json.IsDigits digits) :
    IsExponent (mark :: '-' :: digits) (-(Text.decimalValue digits : Int))

/-- The digits of an exponent are rejected exactly if there is none or something else is among them.
-/
theorem unusable_iff {digits : List Char} :
    (digits.isEmpty || !digits.all Char.isDigit) = true ↔ ¬ Json.IsDigits digits := by
  simp [Json.IsDigits, or_iff_not_imp_left]

/-- Whether a minus sign comes first, and what follows the sign. -/
def cutSign : List Char → Bool × List Char
  | '-' :: r => (true, r)
  | '+' :: r => (false, r)
  | r => (false, r)

/-- A text begins with a minus sign, with a plus sign, or with no sign at all, and is cut after it.
-/
theorem cutSign_cases (s : List Char) :
    s = '-' :: (cutSign s).2 ∧ (cutSign s).1 = true ∨
      ∃ sign ∈ [[], ['+']], s = sign ++ (cutSign s).2 ∧ (cutSign s).1 = false := by
  unfold cutSign
  split
  · exact .inl ⟨rfl, rfl⟩
  · exact .inr ⟨['+'], by simp, rfl, rfl⟩
  · exact .inr ⟨[], by simp, rfl, rfl⟩

/-- Digits with a plus sign or none before them are cut after the sign. -/
theorem cutSign_of_isDigits {sign digits : List Char} (isSign : sign ∈ [[], ['+']])
    (isDigits : Json.IsDigits digits) : cutSign (sign ++ digits) = (false, digits) := by
  obtain rfl | rfl : sign = [] ∨ sign = ['+'] := by simpa using isSign
  · unfold cutSign
    split
    · rename_i r first
      obtain rfl : digits = '-' :: r := first
      cases isDigits.2 '-' List.mem_cons_self
    · rename_i r first
      obtain rfl : digits = '+' :: r := first
      cases isDigits.2 '+' List.mem_cons_self
    · rfl
  · rfl

theorem cutSign_minus (s : List Char) : cutSign ('-' :: s) = (true, s) := rfl

theorem exponentPart?_cons (c : Char) (rest : List Char) :
    exponentPart? (c :: rest) =
      if c = 'e' ∨ c = 'E' then
        if (cutSign rest).2.isEmpty || !(cutSign rest).2.all Char.isDigit then none
        else some (if (cutSign rest).1 then -(Text.decimalValue (cutSign rest).2 : Int)
          else Text.decimalValue (cutSign rest).2)
      else none := rfl

/-- The exponent that is read is the one that the text denotes, and none is read if it denotes none.
-/
theorem exponentPart?_eq_some_iff : exponentPart? s = some e ↔ IsExponent s e := by
  constructor
  · intro read
    cases s with
    | nil =>
      cases read
      exact .none
    | cons mark rest =>
      rw [exponentPart?_cons] at read
      split at read
      case isFalse => cases read
      rename_i marked
      have isMark : mark ∈ ['e', 'E'] := by simpa using marked
      split at read
      case isTrue => cases read
      rename_i usable
      have isDigits : Json.IsDigits (cutSign rest).2 := not_not.mp (mt unusable_iff.mpr usable)
      rcases cutSign_cases rest with ⟨parts, negative⟩ | ⟨sign, isSign, parts, positive⟩
      · rw [negative, if_pos rfl] at read
        cases read
        rw [parts]
        exact .down isMark isDigits
      · rw [positive, if_neg Bool.false_ne_true] at read
        cases read
        generalize (cutSign rest).2 = digits at parts isDigits
        rw [parts]
        exact .up isMark isSign isDigits
  · intro isExponent
    cases isExponent with
    | none => rfl
    | up isMark isSign isDigits =>
      rw [exponentPart?_cons, if_pos (by simpa using isMark), cutSign_of_isDigits isSign isDigits,
        if_neg (mt unusable_iff.mp (not_not.mpr isDigits)), if_neg Bool.false_ne_true]
    | down isMark isDigits =>
      rw [exponentPart?_cons, if_pos (by simpa using isMark), cutSign_minus,
        if_neg (mt unusable_iff.mp (not_not.mpr isDigits)), if_pos rfl]

/-- An exponent part begins with its mark. -/
theorem IsExponent.head (isExponent : IsExponent s e) : ∀ c ∈ s.head?, c ∈ ['e', 'E'] := by
  cases isExponent with
  | none => nofun
  | up isMark =>
    rintro c ⟨⟩
    exact isMark
  | down isMark =>
    rintro c ⟨⟩
    exact isMark

/-- The digits after the point, if there is one, and what follows them. -/
def cutPoint : List Char → List Char × List Char
  | '.' :: r => digitRun r
  | r => ([], r)

/-- A run of digits ends where something else follows. -/
theorem digitRun_append {digits rest : List Char} (all : ∀ c ∈ digits, c.isDigit = true)
    (ends : ∀ c ∈ rest.head?, c.isDigit = false) : digitRun (digits ++ rest) = (digits, rest) :=
  Prod.ext (Text.takeWhile_isDigit all ends) (Text.dropWhile_isDigit all ends)

theorem digitRun_parts (s : List Char) : s = (digitRun s).1 ++ (digitRun s).2 :=
  List.takeWhile_append_dropWhile.symm

theorem isDigit_of_mem_digitRun {c : Char} (mem : c ∈ (digitRun s).1) : c.isDigit = true :=
  List.mem_takeWhile_imp mem

/-- After the digits before it there is a point with digits after it, or no point and no such
digits. -/
theorem cutPoint_cases (s : List Char) :
    ∃ point, s = point ++ (cutPoint s).1 ++ (cutPoint s).2 ∧
      (∀ c ∈ (cutPoint s).1, c.isDigit = true) ∧
      (point = ['.'] ∨ point = [] ∧ (cutPoint s).1 = []) := by
  unfold cutPoint
  split
  · rename_i r
    refine ⟨['.'], ?_, fun c mem => isDigit_of_mem_digitRun mem, .inl rfl⟩
    exact congrArg ('.' :: ·) (digitRun_parts r)
  · exact ⟨[], rfl, nofun, .inr ⟨rfl, rfl⟩⟩

/-- A point with its digits and an exponent after them are cut apart again. -/
theorem cutPoint_append {point fraction exponent : List Char}
    (isPoint : point = ['.'] ∨ point = [] ∧ fraction = [])
    (all : ∀ c ∈ fraction, c.isDigit = true) (isExponent : IsExponent exponent e) :
    cutPoint (point ++ fraction ++ exponent) = (fraction, exponent) := by
  rcases isPoint with rfl | ⟨rfl, rfl⟩
  · refine digitRun_append all fun c mem => ?_
    have marked : c = 'e' ∨ c = 'E' := by simpa using isExponent.head c mem
    rcases marked with rfl | rfl <;> rfl
  · show cutPoint exponent = ([], exponent)
    unfold cutPoint
    split
    · exact absurd (isExponent.head '.' rfl) (by decide)
    · rfl

theorem unsignedOfText?_eq (s : List Char) :
    unsignedOfText? s =
      if (digitRun s).1.isEmpty && (cutPoint (digitRun s).2).1.isEmpty then none
      else (exponentPart? (cutPoint (digitRun s).2).2).map fun power =>
        nearest (Text.decimalValue ((digitRun s).1 ++ (cutPoint (digitRun s).2).1))
          (power - (cutPoint (digitRun s).2).1.length) := rfl

/-- A text is the decimal `m · 10 ^ e`: digits with a point before, between or after them or without
one, and an exponent. -/
def IsDecimal (s : List Char) (m : Nat) (e : Int) : Prop :=
  ∃ whole point fraction exponent power, s = whole ++ (point ++ fraction ++ exponent) ∧
    Json.IsDigits (whole ++ fraction) ∧ (point = ['.'] ∨ point = [] ∧ fraction = []) ∧
    IsExponent exponent power ∧ m = Text.decimalValue (whole ++ fraction) ∧
    e = power - fraction.length

/-- What is read without a sign are the decimals, each as the number nearest to it. -/
theorem unsignedOfText?_eq_some_iff :
    unsignedOfText? s = some x ↔ ∃ m e, IsDecimal s m e ∧ x = nearest m e := by
  rw [unsignedOfText?_eq]
  constructor
  · intro read
    split at read
    case isTrue => cases read
    rename_i filled
    obtain ⟨power, isPower, rfl⟩ := Option.map_eq_some_iff.mp read
    obtain ⟨point, parts, all, isPoint⟩ := cutPoint_cases (digitRun s).2
    refine ⟨_, _, ⟨_, point, _, _, power, ?_, ⟨?_, ?_⟩, isPoint,
      exponentPart?_eq_some_iff.mp isPower, rfl, rfl⟩, rfl⟩
    · rw [← parts]
      exact digitRun_parts s
    · intro none
      rw [List.append_eq_nil_iff] at none
      rw [none.1, none.2] at filled
      exact filled rfl
    · exact List.forall_mem_append.mpr ⟨fun c mem => isDigit_of_mem_digitRun mem, all⟩
  · rintro ⟨m, e, ⟨whole, point, fraction, exponent, power, rfl, ⟨filled, all⟩, isPoint,
      isExponent, rfl, rfl⟩, rfl⟩
    obtain ⟨all, all'⟩ := List.forall_mem_append.mp all
    have ends : ∀ c ∈ (point ++ fraction ++ exponent).head?, c.isDigit = false := by
      rcases isPoint with rfl | ⟨rfl, rfl⟩
      · rintro c ⟨⟩
        rfl
      · intro c mem
        have marked : c = 'e' ∨ c = 'E' := by simpa using isExponent.head c mem
        rcases marked with rfl | rfl <;> rfl
    rw [digitRun_append all ends, cutPoint_append isPoint all' isExponent,
      exponentPart?_eq_some_iff.mpr isExponent, if_neg]
    · rfl
    · simpa [List.append_eq_nil_iff] using filled

/-! ## Texts -/

/-- A word for infinity, in any letter case. -/
def IsInfinity (s : List Char) : Prop :=
  Text.sameLetters s "inf".toList = true ∨ Text.sameLetters s "infinity".toList = true

/-- The word for no number, in any letter case. -/
def IsNotANumber (s : List Char) : Prop :=
  Text.sameLetters s "nan".toList = true

/-- No word stands for an infinity and for no number. -/
theorem not_isInfinity_of_isNotANumber (word : IsNotANumber s) : ¬ IsInfinity s := by
  unfold IsNotANumber at word
  unfold IsInfinity
  simp only [Text.sameLetters, beq_iff_eq] at word ⊢
  rw [word]
  decide

/-- A decimal begins with a digit or with a point. -/
theorem IsDecimal.head (decimal : IsDecimal s m e) :
    ∃ c, s.head? = some c ∧ (c.isDigit = true ∨ c = '.') := by
  obtain ⟨whole, point, fraction, exponent, power, rfl, ⟨filled, all⟩, isPoint, -⟩ := decimal
  cases whole with
  | cons c whole => exact ⟨c, rfl, .inl (all c List.mem_cons_self)⟩
  | nil =>
    rcases isPoint with rfl | ⟨-, rfl⟩
    · exact ⟨'.', rfl, .inr rfl⟩
    · exact absurd rfl filled

/-- A decimal is none of the words. -/
theorem IsDecimal.not_word (decimal : IsDecimal s m e) : ¬ IsInfinity s ∧ ¬ IsNotANumber s := by
  obtain ⟨c, first, digit⟩ := decimal.head
  have noLetter : c.isAlpha = false := by
    rcases digit with digit | rfl
    · exact Text.not_isAlpha_of_isDigit digit
    · rfl
  have apart (d : Char) (word : List Char) (letter : d.toLower.isAlpha = true) :
      ¬ Text.sameLetters s (d :: word) = true := by
    intro letters
    obtain ⟨c', rest, rfl, alpha⟩ := Text.head_isAlpha_of_sameLetters letter letters
    obtain rfl := Option.some.inj first
    cases alpha.symm.trans noLetter
  exact ⟨not_or.mpr ⟨apart 'i' _ rfl, apart 'i' _ rfl⟩, apart 'n' _ rfl⟩

/-- What an unsigned text denotes. -/
theorem magnitudeOfText?_eq_some_iff :
    magnitudeOfText? s = some x ↔ IsInfinity s ∧ x = infinity ∨
      IsNotANumber s ∧ x = notANumber ∨ ∃ m e, IsDecimal s m e ∧ x = nearest m e := by
  unfold magnitudeOfText?
  rw [← unsignedOfText?_eq_some_iff]
  have noDecimal (word : IsInfinity s ∨ IsNotANumber s) : ¬ unsignedOfText? s = some x := by
    intro read
    obtain ⟨m, e, decimal, -⟩ := unsignedOfText?_eq_some_iff.mp read
    exact word.elim decimal.not_word.1 decimal.not_word.2
  split
  · rename_i word
    have isInfinity : IsInfinity s := by simpa [IsInfinity] using word
    have noNumber : ¬ IsNotANumber s := fun is => not_isInfinity_of_isNotANumber is isInfinity
    simp [isInfinity, noNumber, noDecimal, eq_comm]
  rename_i noInfinity
  have noInfinity : ¬ IsInfinity s := by simpa [IsInfinity] using noInfinity
  split
  · rename_i word
    have isNotANumber : IsNotANumber s := word
    simp [noInfinity, isNotANumber, noDecimal, eq_comm]
  · rename_i noNumber
    have noNumber : ¬ IsNotANumber s := noNumber
    simp [noInfinity, noNumber]

/-- An unsigned text denotes something: it is a word or a decimal. -/
def IsMagnitude (s : List Char) : Prop :=
  IsInfinity s ∨ IsNotANumber s ∨ ∃ m e, IsDecimal s m e

/-- What is read after the sign is a word or a decimal. -/
theorem exists_magnitudeOfText?_iff : (∃ y, magnitudeOfText? u = some y) ↔ IsMagnitude u := by
  simp only [magnitudeOfText?_eq_some_iff]
  constructor
  · rintro ⟨y, ⟨word, -⟩ | ⟨word, -⟩ | ⟨m, e, decimal, -⟩⟩
    · exact .inl word
    · exact .inr (.inl word)
    · exact .inr (.inr ⟨m, e, decimal⟩)
  · rintro (word | word | ⟨m, e, decimal⟩)
    · exact ⟨_, .inl ⟨word, rfl⟩⟩
    · exact ⟨_, .inr (.inl ⟨word, rfl⟩)⟩
    · exact ⟨_, .inr (.inr ⟨m, e, decimal, rfl⟩)⟩

/-- An unsigned text denotes infinity, by a word or by a decimal that overflows. -/
def IsUnbounded (s : List Char) : Prop :=
  IsInfinity s ∨ ∃ m e, IsDecimal s m e ∧ (overflow : ℚ) ≤ m * 10 ^ e

/-- A word for infinity, or a decimal that overflows, is read as the infinity above zero. -/
theorem unpack_of_isUnbounded (unbounded : IsUnbounded u) (read : magnitudeOfText? u = some y) :
    y.toModel.unpack = .infinity .positive := by
  rcases unbounded with word | ⟨m, e, decimal, large⟩
  · cases read.symm.trans (magnitudeOfText?_eq_some_iff.mpr (.inl ⟨word, rfl⟩))
    exact unpack_infinity
  · cases read.symm.trans (magnitudeOfText?_eq_some_iff.mpr (.inr (.inr ⟨m, e, decimal, rfl⟩)))
    exact unpack_nearest (not_lt.mpr large)

theorem unpack_of_isNotANumber (word : IsNotANumber u) (read : magnitudeOfText? u = some y) :
    y.toModel.unpack = .notANumber := by
  cases read.symm.trans (magnitudeOfText?_eq_some_iff.mpr (.inr (.inl ⟨word, rfl⟩)))
  exact unpack_notANumber

/-- What an unsigned text denotes is infinite, no number, or finite and not below zero. -/
theorem magnitude_cases (read : magnitudeOfText? u = some y) :
    IsUnbounded u ∨ IsNotANumber u ∨ y.isFinite = true ∧ Signed .positive y.toModel.unpack := by
  rcases magnitudeOfText?_eq_some_iff.mp read with ⟨word, -⟩ | ⟨word, -⟩ | ⟨m, e, decimal, rfl⟩
  · exact .inl (.inl word)
  · exact .inr (.inl word)
  · by_cases small : (m : ℚ) * 10 ^ e < overflow
    · exact .inr (.inr ⟨isFinite_nearest_iff.mpr small, signed_nearest⟩)
    · exact .inl (.inr ⟨m, e, decimal, not_lt.mp small⟩)

/-- What denotes no finite number is read all the same. -/
theorem exists_magnitude (endless : IsUnbounded u ∨ IsNotANumber u) :
    ∃ y, magnitudeOfText? u = some y := by
  refine exists_magnitudeOfText?_iff.mpr ?_
  rcases endless with (word | ⟨m, e, decimal, -⟩) | word
  · exact .inl word
  · exact .inr (.inr ⟨m, e, decimal⟩)
  · exact .inr (.inl word)

/-- What is read after the sign is not finite exactly if it is a word, or a decimal that overflows.
-/
theorem isFinite_magnitude (read : magnitudeOfText? u = some y) :
    y.isFinite = false ↔ IsUnbounded u ∨ IsNotANumber u := by
  constructor
  · intro infinite
    rcases magnitude_cases read with unbounded | word | ⟨finite, -⟩
    · exact .inl unbounded
    · exact .inr word
    · cases infinite.symm.trans finite
  · rintro (unbounded | word)
    · show y.toModel.unpack.isFinite = false
      rw [unpack_of_isUnbounded unbounded read]
      rfl
    · show y.toModel.unpack.isFinite = false
      rw [unpack_of_isNotANumber word read]
      rfl

/-- A minus sign goes before a number that is not below zero. -/
theorem not_zero_lt_neg (read : magnitudeOfText? u = some y) : ¬ 0 < -y := by
  rw [zero_lt_iff, unpack_neg]
  rcases magnitude_cases read with unbounded | word | ⟨-, signed⟩
  · rw [unpack_of_isUnbounded unbounded read]
    exact id
  · rw [unpack_of_isNotANumber word read]
    exact id
  · generalize y.toModel.unpack = v at signed
    cases v with
    | notANumber => exact id
    | zero => exact id
    | infinity =>
      cases signed
      exact id
    | finite =>
      cases signed
      exact id

/-- An unsigned text does not begin with a sign. -/
theorem head_of_magnitude (read : magnitudeOfText? u = some y) :
    ∀ c ∈ u.head?, c ≠ '-' ∧ c ≠ '+' := by
  have letter {d : Char} {word : List Char} (first : d.toLower.isAlpha = true)
      (letters : Text.sameLetters u (d :: word) = true) : ∀ c ∈ u.head?, c ≠ '-' ∧ c ≠ '+' := by
    obtain ⟨c', rest, rfl, alpha⟩ := Text.head_isAlpha_of_sameLetters first letters
    rintro c ⟨⟩
    constructor <;> (rintro rfl; cases alpha)
  rcases magnitudeOfText?_eq_some_iff.mp read with ⟨word | word, -⟩ | ⟨word, -⟩ | ⟨m, e, decimal, -⟩
  · exact letter (d := 'i') rfl word
  · exact letter (d := 'i') rfl word
  · exact letter (d := 'n') rfl word
  · obtain ⟨c', first, digit⟩ := decimal.head
    intro c mem
    obtain rfl := Option.some.inj (first.symm.trans mem)
    constructor <;> (rintro rfl; exact absurd digit (by decide))

/-- A text denotes what it denotes without its sign, or the opposite of that. -/
theorem ofText?_eq_some_iff :
    ofText? s = some x ↔ ∃ sign ∈ [[], ['+'], ['-']], ∃ u y, s = sign ++ u ∧
      magnitudeOfText? u = some y ∧ x = if sign = ['-'] then -y else y := by
  constructor
  · intro read
    unfold ofText? at read
    split at read
    · obtain ⟨y, given, rfl⟩ := Option.map_eq_some_iff.mp read
      exact ⟨['-'], by simp, _, y, rfl, given, rfl⟩
    · exact ⟨['+'], by simp, _, x, rfl, read, rfl⟩
    · exact ⟨[], by simp, _, x, rfl, read, rfl⟩
  · rintro ⟨sign, isSign, u, y, rfl, read, rfl⟩
    obtain rfl | rfl | rfl : sign = [] ∨ sign = ['+'] ∨ sign = ['-'] := by simpa using isSign
    · have first := head_of_magnitude read
      rw [List.nil_append, if_neg (by decide)]
      unfold ofText?
      split
      · exact absurd rfl (first '-' rfl).1
      · exact absurd rfl (first '+' rfl).2
      · exact read
    · exact read
    · show (magnitudeOfText? u).map _ = _
      rw [read]
      rfl

/-- A text denotes a number: without its sign it is a word or a decimal. -/
def IsNumber (s : List Char) : Prop :=
  ∃ sign ∈ [[], ['+'], ['-']], ∃ u, s = sign ++ u ∧ IsMagnitude u

/-- The texts that are read are the words and the decimals, with or without a sign. -/
theorem exists_ofText?_iff : (∃ x, ofText? s = some x) ↔ IsNumber s := by
  constructor
  · rintro ⟨x, read⟩
    obtain ⟨sign, isSign, u, y, parts, given, -⟩ := ofText?_eq_some_iff.mp read
    exact ⟨sign, isSign, u, parts, exists_magnitudeOfText?_iff.mp ⟨y, given⟩⟩
  · rintro ⟨sign, isSign, u, parts, magnitude⟩
    obtain ⟨y, given⟩ := exists_magnitudeOfText?_iff.mpr magnitude
    exact ⟨_, ofText?_eq_some_iff.mpr ⟨sign, isSign, u, y, parts, given, rfl⟩⟩

/-- A text denotes no finite number: without its sign it is a word or a decimal that overflows. -/
def IsEndless (s : List Char) : Prop :=
  ∃ sign ∈ [[], ['+'], ['-']], ∃ u, s = sign ++ u ∧ (IsUnbounded u ∨ IsNotANumber u)

/-- A text denotes the infinity above zero. -/
def IsAboveAll (s : List Char) : Prop :=
  ∃ sign ∈ [[], ['+']], ∃ u, s = sign ++ u ∧ IsUnbounded u

/-- The texts that are read as no finite number are those that denote an infinity or no number. -/
theorem not_isFinite_ofText?_iff :
    (∃ x, ofText? s = some x ∧ x.isFinite = false) ↔ IsEndless s := by
  constructor
  · rintro ⟨x, read, infinite⟩
    obtain ⟨sign, isSign, u, y, rfl, given, rfl⟩ := ofText?_eq_some_iff.mp read
    refine ⟨sign, isSign, u, rfl, (isFinite_magnitude given).mp ?_⟩
    split at infinite
    · rwa [isFinite_neg] at infinite
    · exact infinite
  · rintro ⟨sign, isSign, u, rfl, endless⟩
    obtain ⟨y, given⟩ := exists_magnitude endless
    have infinite := (isFinite_magnitude given).mpr endless
    refine ⟨_, ofText?_eq_some_iff.mpr ⟨sign, isSign, u, y, rfl, given, rfl⟩, ?_⟩
    split
    · rwa [isFinite_neg]
    · exact infinite

/-- The texts that are read as an infinity above zero are those that denote it, without a minus
sign. -/
theorem infinite_ofText?_iff :
    (∃ x, ofText? s = some x ∧ 0 < x ∧ x.isFinite = false) ↔ IsAboveAll s := by
  constructor
  · rintro ⟨x, read, positive, infinite⟩
    obtain ⟨sign, isSign, u, y, rfl, given, rfl⟩ := ofText?_eq_some_iff.mp read
    split at positive
    · exact absurd positive (not_zero_lt_neg given)
    rename_i noMinus
    rw [if_neg noMinus] at infinite
    refine ⟨sign, by simpa [noMinus] using isSign, u, rfl, ?_⟩
    refine ((isFinite_magnitude given).mp infinite).resolve_right fun word => ?_
    rw [zero_lt_iff, unpack_of_isNotANumber word given] at positive
    exact positive
  · rintro ⟨sign, isSign, u, rfl, unbounded⟩
    obtain ⟨y, given⟩ := exists_magnitude (.inl unbounded)
    have noMinus : sign ≠ ['-'] := by
      rintro rfl
      exact absurd isSign (by decide)
    refine ⟨y, ofText?_eq_some_iff.mpr ⟨sign, ?_, u, y, rfl, given, (if_neg noMinus).symm⟩, ?_,
      (isFinite_magnitude given).mpr (.inl unbounded)⟩
    · exact List.mem_append_left [['-']] isSign
    · rw [zero_lt_iff, unpack_of_isUnbounded unbounded given]
      trivial

end Decimal

end PageScript
