import PageScript.Base64
import PageScript.Proofs.Text.Decoding

/-!
# Base64 is read back

The symbols of any bytes decode to these bytes (`decode_encode`), and nothing else is read
(`decode_eq_ok_iff`). The symbols are those of the standard alphabet, all of them characters of one
byte, so that the text of an encoding has the symbols as its bytes (`encode_toList_text`).

**What it does not establish.** Nothing is said of which fault is found in bytes that are no
encoding, and nothing of other alphabets or of encodings without padding.
-/

namespace PageScript.Base64

/-- The text of symbols. -/
def text (symbols : List UInt8) : String :=
  String.ofList (symbols.map fun b => Char.ofNat b.toNat)

/-! ## Symbols -/

/-- The symbol for six bits stands for them, is not the padding and is a character of one byte. -/
theorem symbol_cases : ∀ n < 64, bits? (symbol n) = some n ∧ symbol n ≠ pad ∧
    (symbol n).toNat < 0x80 := by
  decide

/-- The symbols in the order of the bits that they stand for. -/
example : text ((List.range 64).map symbol) =
    "ABCDEFGHIJKLMNOPQRSTUVWXYZabcdefghijklmnopqrstuvwxyz0123456789+/" := by
  decide +kernel

/-- The symbol of six bits stands for these bits. -/
theorem bits?_symbol {n : Nat} (six : n < 64) : bits? (symbol n) = some n :=
  (symbol_cases n six).1

/-- No symbol is the padding. -/
theorem symbol_ne_pad {n : Nat} (six : n < 64) : symbol n ≠ pad :=
  (symbol_cases n six).2.1

/-- The symbol of six bits is read as these bits, at any offset. -/
theorem bitsAt_symbol {n : Nat} (six : n < 64) (offset : Nat) :
    bitsAt offset (symbol n) = .ok n := by
  rw [bitsAt, bits?_symbol six]

/-! ## Groups -/

section

variable {offset : Nat} {done : LastGroup} {rest : List UInt8}

/-- A symbol in the last group is read before any padding. -/
theorem lastGroup_symbol {n : Nat} (six : n < 64) (whole : done.paddings = 0) :
    lastGroup offset done (symbol n :: rest) =
      lastGroup offset ⟨done.bits ++ [n], symbol n, 0⟩ rest := by
  simp only [lastGroup, if_neg (symbol_ne_pad six), whole, bits?_symbol six]
  rfl

/-- Padding in the last group is counted, once two symbols were read. -/
theorem lastGroup_pad (late : 2 ≤ done.bits.length + done.paddings) :
    lastGroup offset done (pad :: rest) =
      lastGroup offset { done with paddings := done.paddings + 1 } rest := by
  simp only [lastGroup, if_true, if_neg (Nat.not_lt.mpr late)]

end

/-- Three bytes from their four times six bits. -/
theorem bytesOf_split (a b c : UInt8) :
    bytesOf (a.toNat / 4) (a.toNat % 4 * 16 + b.toNat / 16) (b.toNat % 16 * 4 + c.toNat / 64)
      (c.toNat % 64) = [a, b, c] := by
  have := a.toNat_lt
  have := b.toNat_lt
  have := c.toNat_lt
  have first : a.toNat / 4 * 4 + (a.toNat % 4 * 16 + b.toNat / 16) / 16 = a.toNat := by omega
  have second : (a.toNat % 4 * 16 + b.toNat / 16) % 16 * 16 + (b.toNat % 16 * 4 + c.toNat / 64) / 4
      = b.toNat := by omega
  have third : (b.toNat % 16 * 4 + c.toNat / 64) % 4 * 64 + c.toNat % 64 = c.toNat := by omega
  rw [bytesOf, first, second, third]
  simp only [UInt8.ofNat_toNat]

/-- Bytes that are not empty have symbols. -/
theorem encode_ne_nil {bytes : List UInt8} (some : bytes ≠ []) : encode bytes ≠ [] := by
  unfold encode
  split <;> simp_all

/-- Encodings have whole groups of four symbols. -/
theorem length_encode_mod (bytes : List UInt8) : (encode bytes).length % 4 = 0 := by
  fun_induction encode bytes with
  | case1 => simp
  | case2 => simp
  | case3 => simp
  | case4 a b c rest ih =>
    simp only [List.length_cons]
    omega

/-- A group that nothing follows is the last one. -/
theorem decodeFrom_last {a b c d : UInt8} (offset : Nat) {group : LastGroup}
    (read : lastGroup offset ⟨[], 0, 0⟩ [a, b, c, d] = .ok group) :
    decodeFrom offset [a, b, c, d] = lastBytes offset group := by
  unfold decodeFrom
  rw [read]
  rfl

/-- Two symbols with clean bits at the end stand for one byte. -/
theorem lastBytes_two {a b : Nat} (none : b % 16 = 0) (offset : Nat) (last : UInt8) :
    lastBytes offset ⟨[a, b], last, 2⟩ = .ok [.ofNat (a * 4 + b / 16)] := by
  simp [lastBytes, none]

/-- Three symbols with clean bits at the end stand for two bytes. -/
theorem lastBytes_three {a b c : Nat} (none : c % 4 = 0) (offset : Nat) (last : UInt8) :
    lastBytes offset ⟨[a, b, c], last, 1⟩ =
      .ok [.ofNat (a * 4 + b / 16), .ofNat (b % 16 * 16 + c / 4)] := by
  simp [lastBytes, none]

/-- Four symbols stand for three bytes. -/
theorem lastBytes_four (a b c d offset : Nat) (last : UInt8) :
    lastBytes offset ⟨[a, b, c, d], last, 0⟩ = .ok (bytesOf a b c d) := by
  simp [lastBytes]

/-- The bytes of an encoding are read back, wherever it begins. -/
theorem decodeFrom_encode (bytes : List UInt8) (offset : Nat) :
    decodeFrom offset (encode bytes) = .ok bytes := by
  fun_induction encode bytes generalizing offset with
  | case1 => rfl
  | case2 a =>
    have := a.toNat_lt
    have group : lastGroup offset ⟨[], 0, 0⟩
        [symbol (a.toNat / 4), symbol (a.toNat % 4 * 16), pad, pad] =
        .ok ⟨[a.toNat / 4, a.toNat % 4 * 16], symbol (a.toNat % 4 * 16), 2⟩ := by
      rw [lastGroup_symbol (by omega) rfl, lastGroup_symbol (by omega) rfl,
        lastGroup_pad (by simp), lastGroup_pad (by simp)]
      rfl
    have first : a.toNat / 4 * 4 + a.toNat % 4 * 16 / 16 = a.toNat := by omega
    rw [decodeFrom_last offset group, lastBytes_two (by omega), first, UInt8.ofNat_toNat]
  | case3 a b =>
    have := a.toNat_lt
    have := b.toNat_lt
    have group : lastGroup offset ⟨[], 0, 0⟩
        [symbol (a.toNat / 4), symbol (a.toNat % 4 * 16 + b.toNat / 16),
          symbol (b.toNat % 16 * 4), pad] =
        .ok ⟨[a.toNat / 4, a.toNat % 4 * 16 + b.toNat / 16, b.toNat % 16 * 4],
          symbol (b.toNat % 16 * 4), 1⟩ := by
      rw [lastGroup_symbol (by omega) rfl, lastGroup_symbol (by omega) rfl,
        lastGroup_symbol (by omega) rfl, lastGroup_pad (by simp)]
      rfl
    have first : a.toNat / 4 * 4 + (a.toNat % 4 * 16 + b.toNat / 16) / 16 = a.toNat := by omega
    have second : (a.toNat % 4 * 16 + b.toNat / 16) % 16 * 16 + b.toNat % 16 * 4 / 4 = b.toNat := by
      omega
    rw [decodeFrom_last offset group, lastBytes_three (by omega), first, second,
      UInt8.ofNat_toNat, UInt8.ofNat_toNat]
  | case4 a b c rest ih =>
    have := a.toNat_lt
    have := b.toNat_lt
    have := c.toNat_lt
    have three := bytesOf_split a b c
    -- Whether this group is the last one decides which reader takes it.
    cases others : encode rest with
    | nil =>
      obtain rfl : rest = [] := by
        by_contra some
        exact encode_ne_nil some others
      have group : lastGroup offset ⟨[], 0, 0⟩
          [symbol (a.toNat / 4), symbol (a.toNat % 4 * 16 + b.toNat / 16),
            symbol (b.toNat % 16 * 4 + c.toNat / 64), symbol (c.toNat % 64)] =
          .ok ⟨[a.toNat / 4, a.toNat % 4 * 16 + b.toNat / 16, b.toNat % 16 * 4 + c.toNat / 64,
            c.toNat % 64], symbol (c.toNat % 64), 0⟩ := by
        rw [lastGroup_symbol (by omega) rfl, lastGroup_symbol (by omega) rfl,
          lastGroup_symbol (by omega) rfl, lastGroup_symbol (by omega) rfl]
        rfl
      rw [decodeFrom_last offset group, lastBytes_four, three]
    | cons e more =>
      have later := ih (offset + 4)
      rw [others] at later
      rw [decodeFrom, bitsAt_symbol (by omega), bitsAt_symbol (by omega), bitsAt_symbol (by omega),
        bitsAt_symbol (by omega), later]
      show Except.ok _ = _
      rw [three]
      rfl

/-- The bytes of an encoding are read back. -/
theorem decode_encode (bytes : List UInt8) : decode (encode bytes) = .ok bytes := by
  have full : (encode bytes).length % 4 ≠ 1 := by
    rw [length_encode_mod]
    decide
  rw [decode, straySymbol?, if_neg full]
  exact decodeFrom_encode bytes 0

/-! ## Nothing else is read -/

/-- A byte that stands for six bits is the symbol of these bits, for all 256 bytes. -/
theorem symbol_of_byte : ∀ k < 256, (bits? (.ofNat k)).all fun n =>
    decide (n < 64) && symbol n == .ofNat k := by
  decide +kernel

/-- A byte that stands for six bits is their symbol. -/
theorem symbol_of_bits? {b : UInt8} {n : Nat} (read : bits? b = some n) :
    n < 64 ∧ symbol n = b := by
  have known := symbol_of_byte b.toNat b.toNat_lt
  rw [UInt8.ofNat_toNat, read, Option.all_some, Bool.and_eq_true_iff] at known
  exact ⟨of_decide_eq_true known.1, eq_of_beq known.2⟩

/-- A byte that is read as six bits is their symbol. -/
theorem symbol_of_bitsAt {offset : Nat} {b : UInt8} {n : Nat} (read : bitsAt offset b = .ok n) :
    n < 64 ∧ symbol n = b := by
  unfold bitsAt at read
  split at read
  · rename_i found
    cases read
    exact symbol_of_bits? found
  · cases read

/-- Symbols with paddings after them. -/
def padded (bits : List Nat) (paddings : Nat) : List UInt8 :=
  bits.map symbol ++ List.replicate paddings pad

/-- Padding is counted in the length of a group. -/
theorem length_padded (bits : List Nat) (paddings : Nat) :
    (padded bits paddings).length = bits.length + paddings := by
  rw [padded, List.length_append, List.length_map, List.length_replicate]

/-- What is read as a group are symbols, then paddings. -/
theorem padded_of_lastGroup {offset : Nat} {done group : LastGroup} {s : List UInt8}
    (read : lastGroup offset done s = .ok group) :
    ∃ bits paddings, s = padded bits paddings ∧ group.bits = done.bits ++ bits ∧
      group.paddings = done.paddings + paddings ∧ (∀ n ∈ bits, n < 64) ∧
      (0 < done.paddings → bits = []) := by
  induction s generalizing done with
  | nil =>
    cases read
    exact ⟨[], 0, rfl, (List.append_nil _).symm, rfl, nofun, fun _ => rfl⟩
  | cons b rest ih =>
    simp only [lastGroup] at read
    split at read
    · rename_i padding
      split at read
      · cases read
      · obtain ⟨bits, paddings, rfl, all, count, -, late⟩ := ih read
        obtain rfl := late (Nat.succ_pos _)
        refine ⟨[], paddings + 1, by rw [padding]; rfl, all, ?_, nofun, fun _ => rfl⟩
        rw [count, Nat.add_assoc, Nat.add_comm 1]
    · split at read
      · cases read
      · rename_i early
        have none : done.paddings = 0 := Nat.eq_zero_of_not_pos early
        split at read
        · cases read
        · rename_i n found
          obtain ⟨six, rfl⟩ := symbol_of_bits? found
          obtain ⟨bits, paddings, rfl, all, count, small, -⟩ := ih read
          refine ⟨n :: bits, paddings, rfl, ?_, count.trans (by rw [none]),
            List.forall_mem_cons.mpr ⟨six, small⟩, fun late => absurd late early⟩
          rw [all, List.append_assoc, List.singleton_append]

/-! Each byte of a group holds bits of two symbols. -/

section

variable {a b c d : Nat}

/-- The first byte of a group has the first six bits and the upper bits of the second symbol. -/
theorem firstByte_bits (six : a < 64) (six' : b < 64) :
    (UInt8.ofNat (a * 4 + b / 16)).toNat / 4 = a ∧
      (UInt8.ofNat (a * 4 + b / 16)).toNat % 4 * 16 = b / 16 * 16 := by
  rw [Text.toNat_ofNat_byte (by omega)]
  omega

/-- The second byte has the lower bits of the second symbol and the upper ones of the third. -/
theorem secondByte_bits (six : c < 64) :
    (UInt8.ofNat (b % 16 * 16 + c / 4)).toNat / 16 = b % 16 ∧
      (UInt8.ofNat (b % 16 * 16 + c / 4)).toNat % 16 * 4 = c / 4 * 4 := by
  rw [Text.toNat_ofNat_byte (by omega)]
  omega

/-- The third byte has the lower bits of the third symbol and the last six. -/
theorem thirdByte_bits (six : d < 64) :
    (UInt8.ofNat (c % 4 * 64 + d)).toNat / 64 = c % 4 ∧
      (UInt8.ofNat (c % 4 * 64 + d)).toNat % 64 = d := by
  rw [Text.toNat_ofNat_byte (by omega)]
  omega

/-- One byte is encoded as two symbols and two paddings. -/
theorem encode_one (first : a < 64) (second : b < 64) (clean : b % 16 = 0) :
    encode [.ofNat (a * 4 + b / 16)] = padded [a, b] 2 := by
  obtain ⟨high, low⟩ := firstByte_bits first second
  rw [encode, high, low, Nat.div_mul_cancel (Nat.dvd_of_mod_eq_zero clean)]
  rfl

/-- Two bytes are encoded as three symbols and one padding. -/
theorem encode_two (first : a < 64) (second : b < 64) (third : c < 64) (clean : c % 4 = 0) :
    encode [.ofNat (a * 4 + b / 16), .ofNat (b % 16 * 16 + c / 4)] = padded [a, b, c] 1 := by
  obtain ⟨high, low⟩ := firstByte_bits first second
  obtain ⟨high', low'⟩ := secondByte_bits (b := b) third
  rw [encode, high, low, high', low', Nat.div_add_mod',
    Nat.div_mul_cancel (Nat.dvd_of_mod_eq_zero clean)]
  rfl

/-- Three bytes are encoded as four symbols, before those of the other bytes. -/
theorem encode_bytesOf (first : a < 64) (second : b < 64) (third : c < 64) (fourth : d < 64)
    (others : List UInt8) :
    encode (bytesOf a b c d ++ others) = padded [a, b, c, d] 0 ++ encode others := by
  obtain ⟨high, low⟩ := firstByte_bits first second
  obtain ⟨high', low'⟩ := secondByte_bits (b := b) third
  obtain ⟨high'', low''⟩ := thirdByte_bits (c := c) fourth
  rw [bytesOf, List.cons_append, List.cons_append, List.singleton_append, encode, high, low, high',
    low', high'', low'', Nat.div_add_mod', Nat.div_add_mod']
  rfl

end

/-- The bytes of a last group of four symbols, paddings among them, are written as the group. -/
theorem encode_of_lastBytes {offset : Nat} {group : LastGroup} {bytes : List UInt8}
    (read : lastBytes offset group = .ok bytes)
    (short : group.bits.length + group.paddings ≤ 4) (six : ∀ n ∈ group.bits, n < 64) :
    encode bytes = padded group.bits group.paddings := by
  obtain ⟨bits, last, paddings⟩ := group
  dsimp only at short six
  simp only [lastBytes] at read
  split at read
  · cases read
  split at read
  · cases read
  have four : bits.length + paddings = 4 := by omega
  -- Two symbols make one byte, three make two and four make three.
  split at read
  · rename_i a b
    obtain rfl : paddings = 2 := by simp only [List.length_cons, List.length_nil] at four; omega
    simp only [List.forall_mem_cons] at six
    split at read
    · rename_i clean
      cases read
      exact encode_one six.1 six.2.1 clean
    · cases read
  · rename_i a b c
    obtain rfl : paddings = 1 := by simp only [List.length_cons, List.length_nil] at four; omega
    simp only [List.forall_mem_cons] at six
    split at read
    · rename_i clean
      cases read
      exact encode_two six.1 six.2.1 six.2.2.1 clean
    · cases read
  · rename_i a b c d
    obtain rfl : paddings = 0 := by simp only [List.length_cons, List.length_nil] at four; omega
    simp only [List.forall_mem_cons] at six
    cases read
    exact encode_bytesOf six.1 six.2.1 six.2.2.1 six.2.2.2.1 []
  · cases read

/-- Steps of which the second goes on from what the first gives have succeeded if both have. -/
theorem bind_eq_ok {x : Except Fault α} {f : α → Except Fault β} {v : β} :
    (x >>= f) = .ok v ↔ ∃ u, x = .ok u ∧ f u = .ok v := by
  cases x with
  | error e => simp [bind, Except.bind]
  | ok u => simp [bind, Except.bind]

/-- What is read as bytes, wherever it begins, is the encoding of the bytes. -/
theorem encode_of_decodeFrom {offset : Nat} {s bytes : List UInt8}
    (read : decodeFrom offset s = .ok bytes) : encode bytes = s := by
  fun_induction decodeFrom offset s generalizing bytes with
  | case1 =>
    cases read
    rfl
  | case2 offset a b c d e rest ih =>
    obtain ⟨n₁, first, read⟩ := bind_eq_ok.mp read
    obtain ⟨n₂, second, read⟩ := bind_eq_ok.mp read
    obtain ⟨n₃, third, read⟩ := bind_eq_ok.mp read
    obtain ⟨n₄, fourth, read⟩ := bind_eq_ok.mp read
    obtain ⟨others, later, read⟩ := bind_eq_ok.mp read
    cases read
    obtain ⟨six₁, rfl⟩ := symbol_of_bitsAt first
    obtain ⟨six₂, rfl⟩ := symbol_of_bitsAt second
    obtain ⟨six₃, rfl⟩ := symbol_of_bitsAt third
    obtain ⟨six₄, rfl⟩ := symbol_of_bitsAt fourth
    rw [encode_bytesOf six₁ six₂ six₃ six₄, ih later]
    rfl
  | case3 offset s some few =>
    obtain ⟨group, grouped, held⟩ := bind_eq_ok.mp read
    obtain ⟨bits, paddings, rfl, all, count, six, -⟩ := padded_of_lastGroup grouped
    rw [List.nil_append] at all
    rw [Nat.zero_add] at count
    subst all count
    refine encode_of_lastBytes held ?_ six
    rw [← length_padded]
    match padded group.bits group.paddings, few with
    | a :: b :: c :: d :: e :: rest, few => exact (few a b c d e rest rfl).elim
    | [], _ | [_], _ | [_, _], _ | [_, _, _], _ | [_, _, _, _], _ => simp

/-- Exactly the encodings are read, each as the bytes that it encodes. -/
theorem decode_eq_ok_iff {s bytes : List UInt8} : decode s = .ok bytes ↔ s = encode bytes := by
  constructor
  · intro read
    unfold decode at read
    split at read
    · cases read
    · exact (encode_of_decodeFrom read).symm
  · rintro rfl
    exact decode_encode bytes

/-! ## Texts -/

/-- Symbols and padding are characters of one byte. -/
theorem lt_of_mem_encode {bytes : List UInt8} : ∀ b ∈ encode bytes, b.toNat < 0x80 := by
  have six {n : Nat} (six : n < 64) : (symbol n).toNat < 0x80 := (symbol_cases n six).2.2
  have padding : pad.toNat < 0x80 := by decide
  fun_induction encode bytes with
  | case1 => nofun
  | case2 a =>
    have := a.toNat_lt
    simp only [List.forall_mem_cons]
    exact ⟨six (by omega), six (by omega), padding, padding, nofun⟩
  | case3 a b =>
    have := a.toNat_lt
    have := b.toNat_lt
    simp only [List.forall_mem_cons]
    exact ⟨six (by omega), six (by omega), six (by omega), padding, nofun⟩
  | case4 a b c rest ih =>
    have := a.toNat_lt
    have := b.toNat_lt
    have := c.toNat_lt
    simp only [List.forall_mem_cons]
    exact ⟨six (by omega), six (by omega), six (by omega), six (by omega), ih⟩

/-- The bytes of the text of an encoding are its symbols. -/
theorem encode_toList_text (bytes : List UInt8) :
    Text.encode (text (encode bytes)).toList = encode bytes := by
  have single : ∀ b ∈ encode bytes, Text.encodeChar (Char.ofNat b.toNat) = [b] := by
    intro b mem
    rw [Text.encodeChar_one (lt_of_mem_encode b mem), UInt8.ofNat_toNat]
  rw [text, String.toList_ofList, Text.encode, List.flatMap_map, List.flatMap_congr single,
    List.flatMap_singleton']

end PageScript.Base64
