import PageScript.Capture.Response
import PageScript.Proofs.Text.Base64

/-!
# Downloads byte by byte

A body that is no JSON document is kept as it came. Whatever bytes the browser hands out encoded,
valid as a text or not, are the bytes of the file, and a text that is handed out as such is the text
of the output and, in UTF-8, the bytes of the file (`downloads_exact`).

**What it does not establish.** Bodies of JSON documents are laid out anew; that is the matter of
reading them again.
-/

namespace PageScript

/-- A part occurs in a text if the text has it in one piece. -/
theorem Text.occursIn_iff {part s : List Char} : occursIn part s = true ↔ part <:+: s := by
  induction s with
  | nil => simp [occursIn]
  | cons c rest ih =>
    rw [occursIn, Bool.or_eq_true, List.isPrefixOf_iff_prefix, ih, List.infix_cons_iff]

namespace ResponseBody

variable {contentType : String}

/-- Bytes of another content type than JSON are a text or mere bytes, whichever they can be. -/
theorem ofBytes_cases (other : ¬ "application/json".toList <:+: contentType.toList)
    (bytes : List UInt8) :
    (∃ t : String, t.toUTF8.data.toList = bytes ∧ ofBytes bytes contentType = .ok (.text t)) ∨
      (∀ t : String, t.toUTF8.data.toList ≠ bytes) ∧
        ofBytes bytes contentType = .ok (.binary bytes) := by
  have noJson : ¬ Text.occursIn "application/json".toList contentType.toList = true := by
    rw [Text.occursIn_iff]
    exact other
  rw [ofBytes, if_neg noJson]
  cases read : Text.decode? bytes with
  | some s =>
    have whole := Text.decode?_eq_some_iff.mp read
    refine .inl ⟨String.ofList s, ?_, rfl⟩
    rw [← Text.encode_eq_toUTF8, String.toList_ofList, whole]
  | none =>
    refine .inr ⟨?_, rfl⟩
    intro t same
    rw [← Text.encode_eq_toUTF8, ← Text.decode?_eq_some_iff, read] at same
    cases same

/-- The bytes of a text that is no JSON document are that text. -/
theorem ofBytes_toUTF8 (other : ¬ "application/json".toList <:+: contentType.toList) (t : String) :
    ofBytes t.toUTF8.data.toList contentType = .ok (.text t) := by
  rcases ofBytes_cases other t.toUTF8.data.toList with ⟨s, same, is⟩ | ⟨none, -⟩
  · rw [← Text.encode_eq_toUTF8, ← Text.encode_eq_toUTF8] at same
    rw [is, String.toList_injective (Text.encode_inj same)]
  · exact absurd rfl (none t)

/-- The file of a text has its bytes in UTF-8. -/
theorem fileBytes_text (pretty : Bool) (t : String) :
    fileBytes pretty (.text t) = t.toUTF8.data.toList :=
  Text.encode_eq_toUTF8 t

/-- Bytes that were handed out encoded are decoded. -/
theorem rawBytes_encode (bytes : List UInt8) :
    rawBytes (Base64.text (Base64.encode bytes)) true = .ok bytes := by
  simp only [rawBytes, if_true, Base64.encode_toList_text, Base64.decode_encode]

theorem rawBytes_text (t : String) : rawBytes t false = .ok t.toUTF8.data.toList := by
  rw [← Text.encode_eq_toUTF8]
  rfl

/-- Of a content type other than JSON, encoded bytes decode to a body whose file has these bytes,
laid out for reading or not; the body is a text if they are one in UTF-8, and mere bytes if not. A
text decodes to itself: its file has its bytes, and the output has the text. -/
theorem downloads_exact (other : ¬ "application/json".toList <:+: contentType.toList)
    (pretty : Bool) :
    (∀ bytes, ∃ body,
      decode (Base64.text (Base64.encode bytes)) true contentType = .ok body ∧
        body.fileBytes pretty = bytes ∧
        ((∃ t : String, t.toUTF8.data.toList = bytes ∧ body = .text t) ∨
          (∀ t : String, t.toUTF8.data.toList ≠ bytes) ∧ body = .binary bytes)) ∧
      ∀ t, ∃ body, decode t false contentType = .ok body ∧
        body.fileBytes pretty = t.toUTF8.data.toList ∧ body.inline = .string t := by
  constructor
  · intro bytes
    rw [decode, rawBytes_encode]
    rcases ofBytes_cases other bytes with ⟨t, same, is⟩ | ⟨none, is⟩
    · exact ⟨.text t, is, (fileBytes_text pretty t).trans same, .inl ⟨t, same, rfl⟩⟩
    · exact ⟨.binary bytes, is, rfl, .inr ⟨none, rfl⟩⟩
  · intro t
    rw [decode, rawBytes_text]
    exact ⟨.text t, ofBytes_toUTF8 other t, fileBytes_text pretty t, rfl⟩

/-- Two bytes of which the first begins no character, and a text with a line feed at its end. -/
theorem downloads_exact_stray :
    ¬ "application/json".toList <:+: "image/png".toList ∧
      Base64.text (Base64.encode [0xFF, 0x00]) = "/wA=" ∧
      (∃ body, decode "/wA=" true "image/png" = .ok body ∧
        body.fileBytes true = [0xFF, 0x00]) ∧
      ∃ body, decode "é\n" false "image/png" = .ok body ∧
        body.fileBytes true = [0xC3, 0xA9, 0x0A] ∧ body.inline = .string "é\n" := by
  have other : ¬ "application/json".toList <:+: "image/png".toList := by
    rw [← Text.occursIn_iff]
    decide
  have symbols : Base64.text (Base64.encode [0xFF, 0x00]) = "/wA=" := by decide
  obtain ⟨encoded, texts⟩ := downloads_exact other true
  obtain ⟨body, read, file, -⟩ := encoded [0xFF, 0x00]
  rw [symbols] at read
  exact ⟨other, symbols, ⟨body, read, file⟩, texts "é\n"⟩

end ResponseBody

end PageScript
