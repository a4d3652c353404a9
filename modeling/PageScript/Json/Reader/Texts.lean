import PageScript.Json.Reader.Basic

/-!
# Reading text values

A text value runs to the next quote that is not escaped. Control characters may not stand in it,
an escaped character outside the basic plane takes the two halves of its surrogate pair, and a
stray byte anywhere in it is reported once the closing quote is found. `length_of_textFrom` says
that reading a text leaves fewer symbols.
-/

namespace PageScript

namespace Json

open Text (Symbol width)

/-- The character of an escape of one letter. -/
def escapeLetter? (c : Char) : Option Char :=
  match c with
  | '"' => some '"'
  | '\\' => some '\\'
  | '/' => some '/'
  | 'b' => some '\x08'
  | 'f' => some '\x0c'
  | 'n' => some '\n'
  | 'r' => some '\r'
  | 't' => some '\t'
  | _ => none

/-- The number of four hexadecimal digits. -/
def fourHex? (a b c d : Char) : Option Nat := do
  let a ← Text.hexValue? a
  let b ← Text.hexValue? b
  let c ← Text.hexValue? c
  let d ← Text.hexValue? d
  return a * 0x1000 + b * 0x100 + c * 0x10 + d

/-- Reads four hexadecimal digits. -/
def hexUnit (s : List Symbol) : Outcome Nat :=
  if width s < 4 then .error ⟨.endInString, 0⟩
  else
    match s with
    | .char a :: .char b :: .char c :: .char d :: r =>
      match fourHex? a b c d with
      | some n => .ok (n, r)
      | none => .error ⟨.invalidEscape, width s - 4⟩
    | _ => .error ⟨.invalidEscape, width s - 4⟩

theorem length_of_hexUnit {s r : List Symbol} {n : Nat} (h : hexUnit s = .ok (n, r)) :
    r.length < s.length := by
  unfold hexUnit at h
  split at h
  · cases h
  · split at h
    · split at h
      · injection h with h; injection h with _ h; subst h
        simp only [List.length_cons]; omega
      · cases h
    · cases h

/-- Whether a code unit is the first half of a surrogate pair. -/
def isLeading (n : Nat) : Bool := 0xD800 ≤ n && n ≤ 0xDBFF

/-- Whether a code unit is the second half of a surrogate pair. -/
def isTrailing (n : Nat) : Bool := 0xDC00 ≤ n && n ≤ 0xDFFF

/-- Reads the second half of a surrogate pair, the first half having been read. -/
def secondUnit (first : Nat) (s : List Symbol) : Outcome Char :=
  match s with
  | [] => refuse .endInString []
  | .char '\\' :: r =>
    match r with
    | [] => refuse .endInString []
    | .char 'u' :: r =>
      match hexUnit r with
      | .error f => .error f
      | .ok (second, r) =>
        if isTrailing second then
          .ok (Char.ofNat (0x10000 + (first - 0xD800) * 0x400 + (second - 0xDC00)), r)
        else refuse .loneSurrogate r
    | r => refuseNext .brokenPair r
  | r => refuseNext .brokenPair r

theorem length_of_secondUnit {first : Nat} {s r : List Symbol} {c : Char}
    (h : secondUnit first s = .ok (c, r)) : r.length < s.length := by
  unfold secondUnit refuse refuseNext at h
  split at h
  · cases h
  · split at h
    · cases h
    · split at h
      · cases h
      · rename_i hr
        split at h
        · injection h with h; injection h with _ h; subst h
          have := length_of_hexUnit hr
          simp only [List.length_cons]; omega
        · cases h
    · cases h
  · cases h

/-- Reads the rest of an escape, after the backslash. -/
def escape (s : List Symbol) : Outcome Char :=
  match s with
  | [] => refuse .endInString []
  | .char 'u' :: r =>
    match hexUnit r with
    | .error f => .error f
    | .ok (n, r) =>
      if isTrailing n then refuse .loneSurrogate r
      else if isLeading n then secondUnit n r
      else .ok (Char.ofNat n, r)
  | .char c :: r =>
    match escapeLetter? c with
    | some e => .ok (e, r)
    | none => refuseNext .invalidEscape (.char c :: r)
  | r => refuseNext .invalidEscape r

theorem length_of_escape {s r : List Symbol} {c : Char} (h : escape s = .ok (c, r)) :
    r.length < s.length := by
  unfold escape refuse refuseNext at h
  split at h
  · cases h
  · split at h
    · cases h
    · rename_i hr
      have := length_of_hexUnit hr
      split at h
      · cases h
      · split at h
        · have := length_of_secondUnit h
          simp only [List.length_cons]; omega
        · injection h with h; injection h with _ h; subst h
          simp only [List.length_cons]; omega
  · split at h
    · injection h with h; injection h with _ h; subst h
      simp only [List.length_cons]; omega
    · cases h
  · cases h

/-- Reads a text after its opening quote. `taken` holds the characters so far, last first, and
`clean` whether no stray byte was met. -/
def textFrom (taken : List Char) (clean : Bool) : List Symbol → Outcome String
  | [] => refuse .endInString []
  | .stray _ :: r => textFrom taken false r
  | .char c :: r =>
    if c = '"' then
      if clean then .ok (String.ofList taken.reverse, r) else refuse .invalidCharacter r
    else if c = '\\' then
      match _h : escape r with
      | .error f => .error f
      | .ok (e, r') => textFrom (e :: taken) clean r'
    else if c.toNat < 0x20 then refuse .controlInString r
    else textFrom (c :: taken) clean r
termination_by s => s.length
decreasing_by
  · simp
  · have := length_of_escape _h
    simp only [List.length_cons]; omega
  · simp

theorem length_of_textFrom {taken : List Char} {clean : Bool} {s r : List Symbol} {t : String}
    (h : textFrom taken clean s = .ok (t, r)) : r.length < s.length := by
  fun_induction textFrom taken clean s with
  | case1 => simp [refuse] at h
  | case2 taken clean n r' ih => have := ih h; simp only [List.length_cons]; omega
  | case3 taken r' =>
    injection h with h; injection h with _ h; subst h; simp
  | case4 => simp [refuse] at h
  | case5 => cases h
  | case6 taken clean r' e r'' he _ ih =>
    have := ih h
    have := length_of_escape he
    simp only [List.length_cons]; omega
  | case7 => simp [refuse] at h
  | case8 taken clean c r' _ _ _ ih => have := ih h; simp only [List.length_cons]; omega

end Json

end PageScript
