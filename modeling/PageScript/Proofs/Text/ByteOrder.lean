import Mathlib.Data.String.Basic
import PageScript.Proofs.Text.Encoding

/-!
# The order of texts and of their bytes

Of two characters the lesser has the lesser bytes, whatever follows them: it has a lesser first
byte, or as many bytes as the other and a lesser one where they first differ. So texts are ordered
as their bytes are (`encode_lt_encode_iff`).

**What it does not establish.** Any other order of texts: the letters of a language may be ordered
otherwise.
-/

namespace PageScript.Text

/-- Of bytes that begin with numbers in order, the order is that of the others if these numbers are
the same. -/
theorem ofNat_cons_lt {m n : Nat} {s t : List UInt8} (small : n < 0x100) (le : m ≤ n)
    (same : m = n → s < t) : UInt8.ofNat m :: s < UInt8.ofNat n :: t := by
  rw [List.cons_lt_cons_iff, UInt8.lt_iff_toNat_lt, toNat_ofNat_byte (Nat.lt_of_le_of_lt le small),
    toNat_ofNat_byte small]
  rcases Nat.lt_or_eq_of_le le with lt | eq
  · exact .inl lt
  · exact .inr ⟨congrArg UInt8.ofNat eq, same eq⟩

/-- The bytes of a character are below those of a greater one, whatever follows them. -/
theorem encodeChar_append_lt {c d : Char} (lt : c < d) (s t : List UInt8) :
    encodeChar c ++ s < encodeChar d ++ t := by
  have bound := toNat_apart_from_surrogates d
  have lt : c.toNat < d.toNat := lt
  unfold encodeChar
  generalize c.toNat = m at lt
  generalize d.toNat = n at lt bound
  dsimp only
  -- One case for each number of bytes of the two characters, of which the lesser has no more. The
  -- first byte of one that has more is above. Where the numbers are the same, the characters are
  -- compared by their digits of six bits.
  split
  · split
    · exact ofNat_cons_lt (by omega) (by omega) fun same => by omega
    split
    · exact ofNat_cons_lt (by omega) (by omega) fun same => by omega
    split
    · exact ofNat_cons_lt (by omega) (by omega) fun same => by omega
    · exact ofNat_cons_lt (by omega) (by omega) fun same => by omega
  rw [if_neg (show ¬ n < 0x80 by omega)]
  split
  · split
    · exact ofNat_cons_lt (by omega) (by omega) fun same =>
        ofNat_cons_lt (by omega) (by omega) fun same' => by omega
    split
    · exact ofNat_cons_lt (by omega) (by omega) fun same => by omega
    · exact ofNat_cons_lt (by omega) (by omega) fun same => by omega
  rw [if_neg (show ¬ n < 0x800 by omega)]
  split
  · split
    · exact ofNat_cons_lt (by omega) (by omega) fun same =>
        ofNat_cons_lt (by omega) (by omega) fun same' =>
          ofNat_cons_lt (by omega) (by omega) fun same'' => by omega
    · exact ofNat_cons_lt (by omega) (by omega) fun same => by omega
  rw [if_neg (show ¬ n < 0x10000 by omega)]
  exact ofNat_cons_lt (by omega) (by omega) fun same =>
    ofNat_cons_lt (by omega) (by omega) fun same' =>
      ofNat_cons_lt (by omega) (by omega) fun same'' =>
        ofNat_cons_lt (by omega) (by omega) fun same''' => by omega

theorem encode_lt_encode {s t : List Char} (lt : s < t) : encode s < encode t := by
  induction s generalizing t with
  | nil =>
    cases t with
    | nil => exact absurd lt (List.lt_irrefl _)
    | cons d t =>
      obtain ⟨b, tail, bytes, -⟩ := symbolAt_encodeChar d []
      rw [encode, encode, List.flatMap_nil, List.flatMap_cons, bytes]
      exact List.nil_lt_cons _ _
  | cons c s ih =>
    cases t with
    | nil => cases lt
    | cons d t =>
      rw [encode, encode, List.flatMap_cons, List.flatMap_cons]
      rcases List.cons_lt_cons_iff.mp lt with first | ⟨rfl, later⟩
      · exact encodeChar_append_lt first _ _
      · exact List.append_left_lt (ih later)

/-- Texts are ordered as their bytes are. -/
theorem encode_lt_encode_iff {a b : String} : encode a.toList < encode b.toList ↔ a < b := by
  constructor
  · intro lt
    rcases lt_trichotomy a b with below | rfl | above
    · exact below
    · exact absurd lt (List.lt_irrefl _)
    · exact absurd lt (List.lt_asymm (encode_lt_encode above))
  · exact encode_lt_encode

theorem encode_le_encode_iff {a b : String} : encode a.toList ≤ encode b.toList ↔ a ≤ b := by
  rw [← not_lt, ← encode_lt_encode_iff]
  exact Iff.rfl

end PageScript.Text
