import PageScript.Capture.Response
import PageScript.Proofs.Json.RoundTrip
import PageScript.Proofs.Text.Encoding

/-!
# Reading downloads again

The file of a captured JSON document is a text of that document, laid out for reading or not, and
decodes to the document again (`json_file_rereads`). A document that is one text is kept bare.

**What it does not establish.** Documents that nest too deep, or with numbers that reading changes,
are not read back.
-/

namespace PageScript.ResponseBody

open Json (Layout Separators Readable)

variable {v : Json} {contentType : String}

/-- A tab separates. -/
theorem separators_tab : Separators ['\t'] :=
  List.forall_mem_singleton.mpr rfl

/-- How the files of documents are laid out. -/
def fileLayout (pretty : Bool) : Layout :=
  if pretty then .byLines ['\t'] separators_tab else .tight

/-- What ends the file of a document. -/
def fileEnd : Json → List Char
  | .array _ | .object _ | .null => ['\n']
  | _ => []

/-- What ends a file of a document separates. -/
theorem separators_fileEnd (v : Json) : Separators (fileEnd v) := by
  unfold fileEnd
  split <;> first | exact List.forall_mem_singleton.mpr rfl | exact Json.separators_nil

/-- The file of a document that is not a text holds the text of the document. -/
theorem fileBytes_json (pretty : Bool) (notText : ∀ s, v ≠ .string s) :
    fileBytes pretty (.json v) =
      textBytes (String.ofList ((fileLayout pretty).text 0 v ++ fileEnd v)) := by
  have bare (scalar : v.isScalar = true) (noEnd : fileEnd v = []) :
      textBytes v.print =
        textBytes (String.ofList ((fileLayout pretty).text 0 v ++ fileEnd v)) := by
    rw [(fileLayout pretty).scalar 0 v scalar, noEnd, List.append_nil, Json.print]
  have ended (text : List Char) :
      textBytes (String.ofList text) ++ [10] = textBytes (String.ofList (text ++ ['\n'])) := by
    simp only [textBytes, String.toList_ofList, Text.encode_append]
    rfl
  cases v with
  | string s => exact absurd rfl (notText s)
  | number n => exact bare rfl rfl
  | bool b => exact bare rfl rfl
  | null => cases pretty <;> exact ended _
  | array items => cases pretty <;> exact ended _
  | object fields => cases pretty <;> exact ended _

/-- What decodes to a document is of a JSON content type, and the document can be read. -/
theorem readable_of_decode {body : String} {encoded : Bool}
    (captured : decode body encoded contentType = .ok (.json v)) :
    Text.occursIn "application/json".toList contentType.toList = true ∧
      Readable Json.deepest v := by
  simp only [decode] at captured
  cases raw : rawBytes body encoded with
  | error e => rw [raw] at captured; cases captured
  | ok bytes =>
    rw [raw] at captured
    simp only [bind, Except.bind, ofBytes] at captured
    split at captured
    · rename_i json
      refine ⟨json, ?_⟩
      split at captured
      · rename_i read
        cases captured
        exact Json.readable_of_parseSymbols read
      · cases captured
    · split at captured <;> cases captured

/-- The bytes of a document in any layout are the document. -/
theorem ofBytes_layout (json : Text.occursIn "application/json".toList contentType.toList = true)
    (readable : Readable Json.deepest v) (whole : v.Whole) (l : Layout) {after : List Char}
    (blank : Separators after) :
    ofBytes (textBytes (String.ofList (l.text 0 v ++ after))) contentType = .ok (.json v) := by
  have read : Json.parseSymbols (([] ++ l.text 0 v ++ after).map .char) = .ok v :=
    l.parseSymbols_text readable whole.exact Json.separators_nil blank
  rw [List.nil_append, ← Text.symbols_encode] at read
  rw [ofBytes, if_pos json, textBytes, String.toList_ofList, Json.parseBytes, read]

/-- The file of a captured document that is not a text holds a text of the document, whatever its
layout, and decodes to the document again if all its numbers are whole; the file of a text holds
the bytes of the text. -/
theorem json_file_rereads {body : String} {encoded : Bool}
    (captured : decode body encoded contentType = .ok (.json v)) (pretty : Bool) :
    (∀ s, v = .string s → fileBytes pretty (.json v) = textBytes s) ∧
      ((∀ s, v ≠ .string s) →
        (∃ (l : Layout) (after : List Char), Separators after ∧
          rawBytes (String.ofList (l.text 0 v ++ after)) false =
            .ok (fileBytes pretty (.json v))) ∧
        (v.Whole → ∀ again encodedAgain,
          rawBytes again encodedAgain = .ok (fileBytes pretty (.json v)) →
          decode again encodedAgain contentType = .ok (.json v))) := by
  obtain ⟨json, readable⟩ := readable_of_decode captured
  refine ⟨?_, fun notText => ⟨?_, ?_⟩⟩
  · rintro s rfl
    rfl
  · refine ⟨fileLayout pretty, fileEnd v, separators_fileEnd v, ?_⟩
    rw [fileBytes_json pretty notText]
    rfl
  · intro whole again encodedAgain file
    simp only [decode, file, fileBytes_json pretty notText]
    exact ofBytes_layout json readable whole (fileLayout pretty) (separators_fileEnd v)

theorem json_file_rereads_list :
    let v := Json.object [("list", .array [.ofNat 1, .null])]
    decode "\x7b\"list\":[1,null]\x7d" false "application/json" = .ok (.json v) ∧ v.Whole ∧
      decode "\x7b\n\t\"list\": [\n\t\t1,\n\t\tnull\n\t]\n\x7d\n" false "application/json" =
        .ok (.json v) := by
  intro v
  have readable : Readable Json.deepest v := by
    refine .object (List.pairwise_singleton _ _) (List.forall_mem_singleton.mpr (.array ?_))
    simp only [List.mem_cons, List.not_mem_nil, or_false]
    rintro w (rfl | rfl) <;> exact .scalar rfl
  have whole : v.Whole := by
    refine .object (List.forall_mem_singleton.mpr (.array ?_))
    simp only [List.mem_cons, List.not_mem_nil, or_false]
    rintro w (rfl | rfl)
    · exact .number _
    · exact .null
  have notText (s : String) : v ≠ .string s := Json.noConfusion
  have compact : v.compact = "\x7b\"list\":[1,null]\x7d".toList := by decide +kernel
  have indented : v.indented ['\t'] 0 =
      "\x7b\n\t\"list\": [\n\t\t1,\n\t\tnull\n\t]\n\x7d".toList := by
    decide +kernel
  have captured : decode "\x7b\"list\":[1,null]\x7d" false "application/json" =
      .ok (.json v) := by
    have read : ofBytes (textBytes (String.ofList (v.compact ++ []))) "application/json" = _ :=
      ofBytes_layout (by decide) readable whole .tight Json.separators_nil
    rw [compact] at read
    exact read
  refine ⟨captured, whole, ((json_file_rereads captured true).2 notText).2 whole _ _ ?_⟩
  show Except.ok _ = Except.ok (textBytes (String.ofList (v.indented ['\t'] 0)) ++ [10])
  rw [indented]
  rfl

end PageScript.ResponseBody
