import PageScript.Json.Reader.Texts
import PageScript.Json.Reader.Numbers

/-!
# Reading JSON

`parse` reads a text and `parseBytes` any bytes as one value with nothing but blanks around it.
Lists and objects may nest `deepest` deep. A refusal is reported with the line and the column
that `place` finds from the number of bytes read.
-/

namespace PageScript

namespace Json

open Text (Symbol width)

/-- Reads the rest of one of the words that are values. -/
def readWord (value : Json) : List Char → List Symbol → Outcome Json
  | [], s => .ok (value, s)
  | _ :: _, [] => refuse .endInValue []
  | c :: rest, symbol :: s =>
    if symbol = .char c then readWord value rest s else refuseNext .expectedWord (symbol :: s)

theorem length_of_readWord {value v : Json} {letters : List Char} {s r : List Symbol}
    (h : readWord value letters s = .ok (v, r)) : r.length ≤ s.length := by
  fun_induction readWord value letters s with
  | case1 => injection h with h; injection h with _ h; subst h; exact Nat.le_refl _
  | case2 => simp [refuse] at h
  | case3 c rest s ih => have := ih h; simp only [List.length_cons]; omega
  | case4 => simp [refuseNext] at h

/-- Reads a value; `list` and `object` read what follows the opening bracket. -/
def valueWith (list object : List Symbol → Outcome Json) (s : List Symbol) : Outcome Json :=
  match skipBlank s with
  | [] => refuse .endInValue []
  | .stray n :: r => refuseNext .expectedValue (.stray n :: r)
  | .char c :: r =>
    if c = '"' then onValue .string (textFrom [] true r)
    else if c = '[' then list r
    else if c = '\x7b' then object r
    else if c = '-' then onValue .number (readNumber true r)
    else if c.isDigit then onValue .number (readNumber false (.char c :: r))
    else if c = 'n' then readWord .null "ull".toList r
    else if c = 't' then readWord (.bool true) "rue".toList r
    else if c = 'f' then readWord (.bool false) "alse".toList r
    else refuseNext .expectedValue (.char c :: r)

theorem length_of_valueWith {list object : List Symbol → Outcome Json}
    (hlist : ∀ {s v r}, list s = .ok (v, r) → r.length ≤ s.length)
    (hobject : ∀ {s v r}, object s = .ok (v, r) → r.length ≤ s.length)
    {s r : List Symbol} {v : Json} (h : valueWith list object s = .ok (v, r)) :
    r.length < s.length := by
  have hs := length_skipBlank_le s
  unfold valueWith refuse refuseNext at h
  split at h
  · cases h
  · cases h
  · rename_i c r' hr
    rw [hr] at hs
    simp only [List.length_cons] at hs
    split at h
    · obtain ⟨t, ht, -⟩ := onValue_eq_ok.mp h
      have := length_of_textFrom ht; omega
    split at h
    · have := hlist h; omega
    split at h
    · have := hobject h; omega
    split at h
    · obtain ⟨t, ht, -⟩ := onValue_eq_ok.mp h
      have := length_of_readNumber ht; omega
    split at h
    · obtain ⟨t, ht, -⟩ := onValue_eq_ok.mp h
      have := length_of_readNumber ht
      simp only [List.length_cons] at this; omega
    split at h
    · have := length_of_readWord h; omega
    split at h
    · have := length_of_readWord h; omega
    split at h
    · have := length_of_readWord h; omega
    · cases h

/-- Reads the items of a list that follow an item already read. -/
def itemsAfter (item : Reader Json) (s : List Symbol) : Outcome (List Json) :=
  match _hs : skipBlank s with
  | [] => refuse .endInList []
  | symbol :: r =>
    if symbol = .char ']' then .ok ([], r)
    else if symbol = .char ',' then
      match _hr : skipBlank r with
      | [] => refuse .endInValue []
      | next :: r' =>
        if next = .char ']' then refuse .trailingComma r'
        else
          match _hi : item.run (next :: r') with
          | .error f => .error f
          | .ok (v, rest) => onValue (v :: ·) (itemsAfter item rest)
    else refuseNext .expectedListEnd (symbol :: r)
termination_by s.length
decreasing_by
  have h₁ := length_skipBlank_le s
  have h₂ := length_skipBlank_le r
  have h₃ := item.shorter _hi
  rw [_hs] at h₁
  rw [_hr] at h₂
  simp only [List.length_cons] at *
  omega

/-- Reads a list after its opening bracket. -/
def readList (item : Reader Json) (s : List Symbol) : Outcome Json :=
  match skipBlank s with
  | [] => refuse .endInList []
  | symbol :: r =>
    if symbol = .char ']' then .ok (.array [], r)
    else
      match item.run (symbol :: r) with
      | .error f => .error f
      | .ok (v, rest) => onValue (fun vs => .array (v :: vs)) (itemsAfter item rest)

/-- Reads a field after the opening quote of its name. -/
def readMember (value : Reader Json) (s : List Symbol) : Outcome (String × Json) :=
  match textFrom [] true s with
  | .error f => .error f
  | .ok (name, r) =>
    match skipBlank r with
    | [] => refuse .endInObject []
    | symbol :: r =>
      if symbol = .char ':' then onValue (name, ·) (value.run r)
      else refuseNext .expectedColon (symbol :: r)

theorem length_of_readMember {value : Reader Json} {s r : List Symbol} {f : String × Json}
    (h : readMember value s = .ok (f, r)) : r.length < s.length := by
  unfold readMember refuse refuseNext at h
  split at h
  · cases h
  · rename_i name r₁ ht
    have h₁ := length_of_textFrom ht
    have h₂ := length_skipBlank_le r₁
    split at h
    · cases h
    · rename_i symbol r₂ hr
      rw [hr] at h₂
      simp only [List.length_cons] at h₂
      split at h
      · obtain ⟨v, hv, -⟩ := onValue_eq_ok.mp h
        have h₃ := value.shorter hv
        omega
      · cases h

/-- Reads the fields of an object that follow a field already read. -/
def membersAfter (value : Reader Json) (s : List Symbol) : Outcome (List (String × Json)) :=
  match _hs : skipBlank s with
  | [] => refuse .endInObject []
  | symbol :: r =>
    if symbol = .char '\x7d' then .ok ([], r)
    else if symbol = .char ',' then
      match _hr : skipBlank r with
      | [] => refuse .endInValue []
      | next :: r' =>
        if next = .char '"' then
          match _hm : readMember value r' with
          | .error f => .error f
          | .ok (field, rest) => onValue (field :: ·) (membersAfter value rest)
        else if next = .char '\x7d' then refuse .trailingComma r'
        else refuseNext .nameNotText (next :: r')
    else refuseNext .expectedObjectEnd (symbol :: r)
termination_by s.length
decreasing_by
  have h₁ := length_skipBlank_le s
  have h₂ := length_skipBlank_le r
  have h₃ := length_of_readMember _hm
  rw [_hs] at h₁
  rw [_hr] at h₂
  simp only [List.length_cons] at *
  omega

/-- Reads an object after its opening bracket. -/
def readObject (value : Reader Json) (s : List Symbol) : Outcome Json :=
  match skipBlank s with
  | [] => refuse .endInObject []
  | symbol :: r =>
    if symbol = .char '\x7d' then .ok (.object [], r)
    else if symbol = .char '"' then
      match readMember value r with
      | .error f => .error f
      | .ok (field, rest) =>
        onValue (fun fs => ofFields (field :: fs)) (membersAfter value rest)
    else refuseNext .nameNotText (symbol :: r)

theorem length_of_itemsAfter {item : Reader Json} {s r : List Symbol} {vs : List Json}
    (h : itemsAfter item s = .ok (vs, r)) : r.length ≤ s.length := by
  fun_induction itemsAfter item s generalizing vs with
  | case1 => simp [refuse] at h
  | case2 s r' hs =>
    have h₁ := length_skipBlank_le s
    rw [hs] at h₁
    injection h with h; injection h with _ h; subst h
    simp only [List.length_cons] at h₁; omega
  | case3 => simp [refuse] at h
  | case4 => simp [refuse] at h
  | case5 => cases h
  | case6 s r' next r'' hr _ v rest hi hs _ ih =>
    obtain ⟨ws, hw, -⟩ := onValue_eq_ok.mp h
    have h₀ := ih hw
    have h₁ := length_skipBlank_le s
    have h₂ := length_skipBlank_le r'
    have h₃ := item.shorter hi
    rw [hs] at h₁
    rw [hr] at h₂
    simp only [List.length_cons] at *
    omega
  | case7 => simp [refuseNext] at h

theorem length_of_readList {item : Reader Json} {s r : List Symbol} {v : Json}
    (h : readList item s = .ok (v, r)) : r.length ≤ s.length := by
  have h₁ := length_skipBlank_le s
  unfold readList refuse at h
  split at h
  · cases h
  · rename_i symbol r' hr
    rw [hr] at h₁
    split at h
    · injection h with h; injection h with _ h; subst h
      simp only [List.length_cons] at h₁; omega
    · split at h
      · cases h
      · rename_i hi
        have h₂ := item.shorter hi
        obtain ⟨ws, hw, -⟩ := onValue_eq_ok.mp h
        have h₃ := length_of_itemsAfter hw
        omega

theorem length_of_membersAfter {value : Reader Json} {s r : List Symbol}
    {fs : List (String × Json)} (h : membersAfter value s = .ok (fs, r)) :
    r.length ≤ s.length := by
  fun_induction membersAfter value s generalizing fs with
  | case1 => simp [refuse] at h
  | case2 s r' hs =>
    have h₁ := length_skipBlank_le s
    rw [hs] at h₁
    injection h with h; injection h with _ h; subst h
    simp only [List.length_cons] at h₁; omega
  | case3 => simp [refuse] at h
  | case4 => cases h
  | case5 s r' r'' f rest hm hs _ hr ih =>
    obtain ⟨ws, hw, -⟩ := onValue_eq_ok.mp h
    have h₀ := ih hw
    have h₁ := length_skipBlank_le s
    have h₂ := length_skipBlank_le r'
    have h₃ := length_of_readMember hm
    rw [hs] at h₁
    rw [hr] at h₂
    simp only [List.length_cons] at *
    omega
  | case6 => simp [refuse] at h
  | case7 => simp [refuseNext] at h
  | case8 => simp [refuseNext] at h

theorem length_of_readObject {value : Reader Json} {s r : List Symbol} {v : Json}
    (h : readObject value s = .ok (v, r)) : r.length ≤ s.length := by
  have h₁ := length_skipBlank_le s
  unfold readObject refuse refuseNext at h
  split at h
  · cases h
  · rename_i symbol r' hr
    rw [hr] at h₁
    simp only [List.length_cons] at h₁
    split at h
    · injection h with h; injection h with _ h; subst h; omega
    · split at h
      · split at h
        · cases h
        · rename_i hm
          have h₂ := length_of_readMember hm
          obtain ⟨ws, hw, -⟩ := onValue_eq_ok.mp h
          have h₃ := length_of_membersAfter hw
          omega
      · cases h

/-- Reads a value that nests at most the given number of lists and objects. -/
def readValue : Nat → Reader Json
  | 0 =>
    { run := valueWith (refuse .tooDeep) (refuse .tooDeep)
      shorter := length_of_valueWith (fun h => by cases h) (fun h => by cases h) }
  | depth + 1 =>
    { run := valueWith (readList (readValue depth)) (readObject (readValue depth))
      shorter := length_of_valueWith length_of_readList length_of_readObject }

/-- How deep lists and objects may nest. -/
def deepest : Nat := 127

/-- Reads symbols that hold one value and nothing else. -/
def readDocument (s : List Symbol) : Except Fault Json :=
  match (readValue deepest).run s with
  | .error f => .error f
  | .ok (v, r) =>
    match skipBlank r with
    | [] => .ok v
    | symbol :: r => .error ⟨.trailingCharacters, width (symbol :: r) - 1⟩

/-- Line and column after a number of bytes, counted on from a given line and column. -/
def place (line column : Nat) : Nat → List Symbol → Nat × Nat
  | _, [] => (line, column)
  | bytes, symbol :: rest =>
    if bytes < symbol.width then (line, column + bytes)
    else if symbol = .char '\n' then place (line + 1) 0 (bytes - 1) rest
    else place line (column + symbol.width) (bytes - symbol.width) rest

/-- Reads a document given by its symbols. -/
def parseSymbols (s : List Symbol) : Except SyntaxError Json :=
  match readDocument s with
  | .ok v => .ok v
  | .error f =>
    let (line, column) := place 1 0 (width s - f.left) s
    .error ⟨f.cause, line, column⟩

/-- Reads a document given as a text. -/
def parse (text : String) : Except SyntaxError Json :=
  parseSymbols (text.toList.map .char)

/-- Reads a document given as bytes. -/
def parseBytes (bytes : List UInt8) : Except SyntaxError Json :=
  parseSymbols (Text.symbols bytes)

end Json

end PageScript
