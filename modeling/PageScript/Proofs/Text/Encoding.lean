import Mathlib.Data.List.Basic
import PageScript.Text.Utf8

/-!
# Texts as bytes

The bytes of a text are read as its characters and nothing else (`symbols_encode`), so no two texts
have the same bytes. A byte below 0x80 stands for itself: a control character in the bytes is one
in the text.

**What it does not establish.** How bytes are read that are those of no text.
-/

namespace PageScript.Text

/-- The number of a byte is the one it was made from. -/
theorem toNat_ofNat_byte {n : Nat} (small : n < 0x100) : (UInt8.ofNat n).toNat = n := by
  rw [UInt8.toNat_ofNat']
  exact Nat.mod_eq_of_lt small

theorem continues_ofNat {low high n : Nat} (above : low ≤ n) (below : n ≤ high)
    (small : n < 0x100) : continues low high (.ofNat n) = true := by
  rw [continues, toNat_ofNat_byte small, decide_eq_true above, decide_eq_true below]
  rfl

/-- A character is no surrogate. -/
theorem toNat_apart_from_surrogates (c : Char) :
    c.toNat < 0xD800 ∨ 0xDFFF < c.toNat ∧ c.toNat < 0x110000 := by
  have valid := c.valid
  simp only [UInt32.isValidChar, Nat.isValidChar] at valid
  exact valid

/-- The first byte of a character tells how many bytes follow it. -/
theorem symbolAt_encodeChar (c : Char) (rest : List UInt8) :
    ∃ b tail, encodeChar c = b :: tail ∧ symbolAt b (tail ++ rest) = (.char c, tail.length) := by
  have valid := toNat_apart_from_surrogates c
  have self : Char.ofNat c.toNat = c := Char.ofNat_toNat c
  generalize code : c.toNat = n at valid self
  unfold encodeChar
  simp only [code]
  -- One case for each number of bytes. In each the six bits of every further byte are put
  -- together again.
  split
  · rename_i one
    refine ⟨_, _, rfl, ?_⟩
    simp only [symbolAt, toNat_ofNat_byte (show n < 0x100 by omega), if_pos one, self]
    rfl
  split
  · refine ⟨_, _, rfl, ?_⟩
    have value : (0xC0 + n / 0x40 - 0xC0) * 0x40 + (0x80 + n % 0x40 - 0x80) = n := by omega
    simp only [symbolAt, toNat_ofNat_byte (show 0xC0 + n / 0x40 < 0x100 by omega)]
    rw [if_neg (by omega), if_neg (by omega), if_pos (by omega)]
    simp only [List.cons_append, List.nil_append]
    rw [if_pos (continues_ofNat (by omega) (by omega) (by omega)), toNat_ofNat_byte (by omega),
      value, self]
    rfl
  split
  · refine ⟨_, _, rfl, ?_⟩
    have value : (0xE0 + n / 0x1000 - 0xE0) * 0x1000 + (0x80 + n / 0x40 % 0x40 - 0x80) * 0x40
        + (0x80 + n % 0x40 - 0x80) = n := by omega
    simp only [symbolAt, toNat_ofNat_byte (show 0xE0 + n / 0x1000 < 0x100 by omega)]
    rw [if_neg (by omega), if_neg (by omega), if_neg (by omega), if_pos (by omega)]
    simp only [List.cons_append, List.nil_append]
    rw [if_pos (continues_ofNat (by split <;> omega) (by split <;> omega) (by omega)),
      if_pos (continues_ofNat (by omega) (by omega) (by omega)), toNat_ofNat_byte (by omega),
      toNat_ofNat_byte (by omega), value, self]
    rfl
  · refine ⟨_, _, rfl, ?_⟩
    have value : (0xF0 + n / 0x40000 - 0xF0) * 0x40000 + (0x80 + n / 0x1000 % 0x40 - 0x80) * 0x1000
        + (0x80 + n / 0x40 % 0x40 - 0x80) * 0x40 + (0x80 + n % 0x40 - 0x80) = n := by omega
    simp only [symbolAt, toNat_ofNat_byte (show 0xF0 + n / 0x40000 < 0x100 by omega)]
    rw [if_neg (by omega), if_neg (by omega), if_neg (by omega), if_neg (by omega),
      if_pos (by omega)]
    simp only [List.cons_append, List.nil_append]
    rw [if_pos (continues_ofNat (by split <;> omega) (by split <;> omega) (by omega)),
      if_pos (continues_ofNat (by omega) (by omega) (by omega)),
      if_pos (continues_ofNat (by omega) (by omega) (by omega)), toNat_ofNat_byte (by omega),
      toNat_ofNat_byte (by omega), toNat_ofNat_byte (by omega), value, self]
    rfl

/-- The symbols in the bytes of a text are its characters. -/
theorem symbols_encode (s : List Char) : symbols (encode s) = s.map .char := by
  induction s with
  | nil => rw [encode, List.flatMap_nil, symbols, List.map_nil]
  | cons c rest ih =>
    obtain ⟨b, tail, whole, first⟩ := symbolAt_encodeChar c (encode rest)
    have bytes : encode (c :: rest) = b :: (tail ++ encode rest) := by
      rw [encode, List.flatMap_cons, whole, List.cons_append, encode]
    rw [bytes, symbols, first]
    simp only [List.drop_left, ih, List.map_cons]

/-- The bytes of two texts in a row are in a row. -/
theorem encode_append (s t : List Char) : encode (s ++ t) = encode s ++ encode t :=
  List.flatMap_append

/-- No two texts have the same bytes. -/
theorem encode_inj {s t : List Char} (same : encode s = encode t) : s = t := by
  have symbols := congrArg symbols same
  rw [symbols_encode, symbols_encode] at symbols
  exact List.map_injective_iff.mpr (fun _ _ h => Symbol.char.inj h) symbols

/-- A character that is no control character has no byte below a space. -/
theorem le_of_mem_encodeChar {c : Char} (visible : 0x20 ≤ c.toNat) :
    ∀ b ∈ encodeChar c, 0x20 ≤ b.toNat := by
  have valid := toNat_apart_from_surrogates c
  have above {n : Nat} (small : n < 0x100) (high : 0x20 ≤ n) : 0x20 ≤ (UInt8.ofNat n).toNat := by
    rw [toNat_ofNat_byte small]
    exact high
  intro b mem
  simp only [encodeChar] at mem
  split at mem
  · obtain rfl := List.mem_singleton.mp mem
    exact above (by omega) visible
  split at mem
  · simp only [List.mem_cons, List.not_mem_nil, or_false] at mem
    rcases mem with rfl | rfl <;> exact above (by omega) (by omega)
  split at mem <;> simp only [List.mem_cons, List.not_mem_nil, or_false] at mem
  · rcases mem with rfl | rfl | rfl <;> exact above (by omega) (by omega)
  · rcases mem with rfl | rfl | rfl | rfl <;> exact above (by omega) (by omega)

/-- A text without control characters has no byte below a space. -/
theorem le_of_mem_encode {s : List Char} (visible : ∀ c ∈ s, 0x20 ≤ c.toNat) :
    ∀ b ∈ encode s, 0x20 ≤ b.toNat := by
  intro b mem
  obtain ⟨c, here, of⟩ := List.mem_flatMap.mp mem
  exact le_of_mem_encodeChar (visible c here) b of

end PageScript.Text
