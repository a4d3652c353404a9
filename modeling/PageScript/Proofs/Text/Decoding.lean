import PageScript.Proofs.Text.Encoding

/-!
# Bytes as texts

Bytes without stray symbols are the bytes of the text that they are read as (`decode?_eq_some_iff`):
nothing is lost or added on the way. The bytes of a text are its UTF-8 encoding
(`encode_eq_toUTF8`), so that it is exactly the valid encodings that are read.

**What it does not establish.** What stands for a stray symbol when bytes are read that are no text.
-/

namespace PageScript.Text

/-- The number of a character is the one it was made from. -/
theorem toNat_ofNat_char {n : Nat} (valid : n.isValidChar) : (Char.ofNat n).toNat = n := by
  rw [Char.ofNat, dif_pos valid]
  rfl

/-! ## One character -/

section

variable {a b c d : Nat}

/-- One byte is read as the character that is encoded in it. -/
theorem encodeChar_one (low : a < 0x80) : encodeChar (Char.ofNat a) = [.ofNat a] := by
  have code : (Char.ofNat a).toNat = a := toNat_ofNat_char (.inl (by omega))
  rw [encodeChar, code, if_pos low]

/-- Two bytes are read as the character that is encoded in them. -/
theorem encodeChar_two (leads : 0xC2 ≤ a ∧ a < 0xE0) (follows : 0x80 ≤ b ∧ b ≤ 0xBF) :
    encodeChar (Char.ofNat ((a - 0xC0) * 0x40 + (b - 0x80))) = [.ofNat a, .ofNat b] := by
  generalize value : (a - 0xC0) * 0x40 + (b - 0x80) = n
  have code : (Char.ofNat n).toNat = n := toNat_ofNat_char (.inl (by omega))
  have first : 0xC0 + n / 0x40 = a := by omega
  have second : 0x80 + n % 0x40 = b := by omega
  rw [encodeChar, code]
  rw [if_neg (by omega), if_pos (by omega), first, second]

/-- Three bytes are read as the character that is encoded in them. -/
theorem encodeChar_three (leads : 0xE0 ≤ a ∧ a < 0xF0) (follows : 0x80 ≤ b ∧ b ≤ 0xBF)
    (long : a = 0xE0 → 0xA0 ≤ b) (noSurrogate : a = 0xED → b ≤ 0x9F)
    (ends : 0x80 ≤ c ∧ c ≤ 0xBF) :
    encodeChar (Char.ofNat ((a - 0xE0) * 0x1000 + (b - 0x80) * 0x40 + (c - 0x80))) =
      [.ofNat a, .ofNat b, .ofNat c] := by
  generalize value : (a - 0xE0) * 0x1000 + (b - 0x80) * 0x40 + (c - 0x80) = n
  have valid : n.isValidChar := by
    simp only [Nat.isValidChar]
    omega
  have code : (Char.ofNat n).toNat = n := toNat_ofNat_char valid
  have first : 0xE0 + n / 0x1000 = a := by omega
  have second : 0x80 + n / 0x40 % 0x40 = b := by omega
  have third : 0x80 + n % 0x40 = c := by omega
  rw [encodeChar, code]
  rw [if_neg (by omega), if_neg (by omega), if_pos (by omega), first, second, third]

/-- Four bytes are read as the character that is encoded in them. -/
theorem encodeChar_four (leads : 0xF0 ≤ a ∧ a < 0xF5) (follows : 0x80 ≤ b ∧ b ≤ 0xBF)
    (long : a = 0xF0 → 0x90 ≤ b) (within : a = 0xF4 → b ≤ 0x8F)
    (goesOn : 0x80 ≤ c ∧ c ≤ 0xBF) (ends : 0x80 ≤ d ∧ d ≤ 0xBF) :
    encodeChar (Char.ofNat ((a - 0xF0) * 0x40000 + (b - 0x80) * 0x1000 + (c - 0x80) * 0x40
      + (d - 0x80))) = [.ofNat a, .ofNat b, .ofNat c, .ofNat d] := by
  generalize value : (a - 0xF0) * 0x40000 + (b - 0x80) * 0x1000 + (c - 0x80) * 0x40
    + (d - 0x80) = n
  have valid : n.isValidChar := by
    simp only [Nat.isValidChar]
    omega
  have code : (Char.ofNat n).toNat = n := toNat_ofNat_char valid
  have first : 0xF0 + n / 0x40000 = a := by omega
  have second : 0x80 + n / 0x1000 % 0x40 = b := by omega
  have third : 0x80 + n / 0x40 % 0x40 = c := by omega
  have fourth : 0x80 + n % 0x40 = d := by omega
  rw [encodeChar, code]
  rw [if_neg (by omega), if_neg (by omega), if_neg (by omega), first, second, third, fourth]

end

theorem continues_iff {low high : Nat} {b : UInt8} :
    continues low high b = true ↔ low ≤ b.toNat ∧ b.toNat ≤ high := by
  simp [continues]

/-- A character that bytes begin with is written as these bytes. -/
theorem encodeChar_of_symbolAt {b : UInt8} {rest : List UInt8} {c : Char} {taken : Nat}
    (read : symbolAt b rest = (.char c, taken)) : encodeChar c = b :: rest.take taken := by
  unfold symbolAt at read
  dsimp only at read
  generalize lowThree : (if b.toNat = 0xE0 then 0xA0 else 0x80) = l₃ at read
  generalize highThree : (if b.toNat = 0xED then 0x9F else 0xBF) = h₃ at read
  generalize lowFour : (if b.toNat = 0xF0 then 0x90 else 0x80) = l₄ at read
  generalize highFour : (if b.toNat = 0xF4 then 0x8F else 0xBF) = h₄ at read
  -- One case for each number of bytes; where a sequence breaks off, no character is read.
  split at read
  · rename_i one
    obtain ⟨is, rfl⟩ := Prod.mk.inj read
    rw [← Symbol.char.inj is, encodeChar_one one, UInt8.ofNat_toNat]
    rfl
  split at read
  · cases read
  split at read
  · split at read
    · split at read
      · rename_i follows
        obtain ⟨is, rfl⟩ := Prod.mk.inj read
        rw [← Symbol.char.inj is, encodeChar_two (by omega) (continues_iff.mp follows)]
        simp
      · cases read
    · cases read
  split at read
  · split at read
    · split at read
      · split at read
        · rename_i follows ends
          obtain ⟨is, rfl⟩ := Prod.mk.inj read
          have bounds := continues_iff.mp follows
          have low : 0x80 ≤ l₃ ∧ (b.toNat = 0xE0 → l₃ = 0xA0) := by split at lowThree <;> omega
          have high : h₃ ≤ 0xBF ∧ (b.toNat = 0xED → h₃ = 0x9F) := by split at highThree <;> omega
          rw [← Symbol.char.inj is, encodeChar_three (by omega) (by omega) (by omega) (by omega)
            (continues_iff.mp ends)]
          simp
        · cases read
      · cases read
    · split at read <;> cases read
    · cases read
  split at read
  · split at read
    · split at read
      · split at read
        · split at read
          · rename_i follows goesOn ends
            obtain ⟨is, rfl⟩ := Prod.mk.inj read
            have bounds := continues_iff.mp follows
            have low : 0x80 ≤ l₄ ∧ (b.toNat = 0xF0 → l₄ = 0x90) := by split at lowFour <;> omega
            have high : h₄ ≤ 0xBF ∧ (b.toNat = 0xF4 → h₄ = 0x8F) := by split at highFour <;> omega
            rw [← Symbol.char.inj is, encodeChar_four (by omega) (by omega) (by omega) (by omega)
              (continues_iff.mp goesOn) (continues_iff.mp ends)]
            simp
          · cases read
        · cases read
      · cases read
    · split at read
      · split at read <;> cases read
      · cases read
    · split at read <;> cases read
    · cases read
  · cases read

/-! ## Whole texts -/

/-- The bytes of symbols of which none is stray are those of their characters. -/
theorem encode_of_charsOf? {bytes : List UInt8} {s : List Char}
    (read : charsOf? (symbols bytes) = some s) : encode s = bytes := by
  fun_induction symbols bytes generalizing s with
  | case1 =>
    cases read
    rfl
  | case2 b rest symbol taken first ih =>
    cases symbol with
    | stray n => cases read
    | char c =>
      obtain ⟨others, more, rfl⟩ := Option.map_eq_some_iff.mp read
      have here := encodeChar_of_symbolAt first
      have later : encode others = rest.drop taken := ih more
      calc encode (c :: others) = encodeChar c ++ encode others := List.flatMap_cons
        _ = b :: (rest.take taken ++ rest.drop taken) := by rw [here, later, List.cons_append]
        _ = b :: rest := by rw [List.take_append_drop]

/-- Bytes are read as a text exactly if they are the bytes of that text. -/
theorem decode?_eq_some_iff {bytes : List UInt8} {s : List Char} :
    decode? bytes = some s ↔ encode s = bytes := by
  constructor
  · exact encode_of_charsOf?
  · rintro rfl
    rw [decode?, symbols_encode]
    induction s with
    | nil => rfl
    | cons c rest ih => rw [List.map_cons, charsOf?, ih, Option.map_some]

/-- A character is encoded as UTF-8 has it. -/
theorem encodeChar_eq_utf8EncodeChar (c : Char) : encodeChar c = String.utf8EncodeChar c := by
  have valid := toNat_apart_from_surrogates c
  have code : c.val.toNat = c.toNat := rfl
  unfold encodeChar String.utf8EncodeChar
  simp only [code]
  generalize c.toNat = n at valid
  by_cases one : n < 0x80
  · rw [if_pos one, if_pos (by omega)]
  by_cases two : n < 0x800
  · have first : n / 64 % 32 + 192 = 0xC0 + n / 0x40 := by omega
    have second : n % 64 + 128 = 0x80 + n % 0x40 := by omega
    rw [if_neg one, if_pos two, if_neg (by omega), if_pos (by omega), first, second]
  by_cases three : n < 0x10000
  · have first : n / 4096 % 16 + 224 = 0xE0 + n / 0x1000 := by omega
    have second : n / 64 % 64 + 128 = 0x80 + n / 0x40 % 0x40 := by omega
    have third : n % 64 + 128 = 0x80 + n % 0x40 := by omega
    rw [if_neg one, if_neg two, if_pos three, if_neg (by omega), if_neg (by omega),
      if_pos (by omega), first, second, third]
  · have first : n / 262144 % 8 + 240 = 0xF0 + n / 0x40000 := by omega
    have second : n / 4096 % 64 + 128 = 0x80 + n / 0x1000 % 0x40 := by omega
    have third : n / 64 % 64 + 128 = 0x80 + n / 0x40 % 0x40 := by omega
    have fourth : n % 64 + 128 = 0x80 + n % 0x40 := by omega
    rw [if_neg one, if_neg two, if_neg three, if_neg (by omega), if_neg (by omega),
      if_neg (by omega), first, second, third, fourth]

/-- The bytes of a text are its UTF-8 encoding. -/
theorem encode_eq_toUTF8 (s : String) : encode s.toList = s.toUTF8.data.toList := by
  have whole : s.toUTF8 = s.toList.utf8Encode := by
    rw [← String.toByteArray_ofList, String.ofList_toList]
    rfl
  have each : encode s.toList = s.toList.flatMap String.utf8EncodeChar := by
    rw [encode, funext encodeChar_eq_utf8EncodeChar]
  rw [whole, List.utf8Encode, List.data_toByteArray, each]

end PageScript.Text
