import PageScript.Output
import PageScript.Proofs.Json.Unambiguous

/-!
# What an output document tells

A list of entries is in the document exactly if it is not empty, a capture has a body or the name
of a file and never both, and no two outputs whose numbers are whole have the same document
(`Output.toJson_inj`).

**What it does not establish.** Outputs with numbers that are not whole may have the same document;
nothing is said of them.
-/

namespace PageScript

open Json (Whole)

/-! ## Numbers -/

namespace Json

/-- An integer that is written as a whole number is one. -/
theorem exists_ofInt {n : Int} (whole : (ofInt n).Whole) :
    ∃ w : WholeNumber, w.val = n ∧ ofInt n = .number (.whole w) := by
  unfold ofInt WholeNumber.ofInt? at whole ⊢
  split at whole
  · rename_i w fits
    split at fits
    · cases fits
      exact ⟨_, rfl, rfl⟩
    · cases fits
  · cases whole

/-- No two integers have the same value in a document, as far as they fit one. -/
theorem ofInt_inj {m n : Int} (whole : (ofInt m).Whole) (whole' : (ofInt n).Whole)
    (same : ofInt m = ofInt n) : m = n := by
  obtain ⟨w, rfl, written⟩ := exists_ofInt whole
  obtain ⟨w', rfl, written'⟩ := exists_ofInt whole'
  rw [written, written'] at same
  cases same
  rfl

/-- A natural number of 64 bits is written as a whole number. -/
theorem whole_ofNat {n : Nat} (fits : n < 0x10000000000000000) : (ofNat n).Whole := by
  have there : WholeNumber.ofInt? (n : Int) = some ⟨n, by omega, by omega⟩ :=
    dif_pos ⟨by omega, by omega⟩
  rw [ofNat, ofInt, there]
  exact .number _

/-- The fields of a whole object are whole. -/
theorem Whole.field {fields : List (String × Json)} (whole : Whole (.object fields))
    {f : String × Json} (mem : f ∈ fields) : f.2.Whole := by
  cases whole with
  | object each => exact each f mem

/-- The items of a whole list are whole. -/
theorem Whole.item {items : List Json} (whole : Whole (.array items)) {v : Json} (mem : v ∈ items) :
    v.Whole := by
  cases whole with
  | array each => exact each v mem

end Json

/-! ## Entries -/

/-- Extractions with the same document are the same. -/
theorem Extraction.toJson_inj {e e' : Extraction} (same : e.toJson = e'.toJson) : e = e' := by
  obtain ⟨prompt, result⟩ := e
  obtain ⟨prompt', result'⟩ := e'
  simpa [toJson] using same

/-- Evaluations with the same document are the same. -/
theorem Evaluation.toJson_inj {e e' : Evaluation} (same : e.toJson = e'.toJson) : e = e' := by
  obtain ⟨script, result⟩ := e
  obtain ⟨script', result'⟩ := e'
  simpa [toJson] using same

namespace Capture

/-- Payloads with the same field are the same. -/
theorem payloadField_inj {p p' : Payload} (same : payloadField p = payloadField p') : p = p' := by
  cases p <;> cases p' <;> simp [payloadField] at same ⊢ <;> exact same

/-- The status of a capture whose document is whole is whole. -/
theorem whole_status {c : Capture} (whole : c.toJson.Whole) : (Json.ofInt c.status).Whole :=
  whole.field (f := ("status", .ofInt c.status)) (List.mem_cons_of_mem _ List.mem_cons_self)

/-- Captures with the same whole document are the same. -/
theorem toJson_inj {c c' : Capture} (whole : c.toJson.Whole) (whole' : c'.toJson.Whole)
    (same : c.toJson = c'.toJson) : c = c' := by
  have status := whole_status whole
  have status' := whole_status whole'
  obtain ⟨url, code, headers, payload⟩ := c
  obtain ⟨url', code', headers', payload'⟩ := c'
  simp only [toJson, Json.object.injEq, List.cons.injEq, Prod.mk.injEq, Json.string.injEq,
    true_and, and_true] at same
  obtain ⟨rfl, statuses, rfl, payloads⟩ := same
  have codes : code = code' := Json.ofInt_inj status status' statuses
  rw [codes, payloadField_inj payloads]

/-- A capture has the body of the response, or the name of the file that holds it. -/
theorem field?_payload (c : Capture) :
    (c.toJson.field? "response").isSome = !(c.toJson.field? "filename").isSome := by
  cases payload : c.payload <;>
    simp [toJson, payloadField, payload, Json.field?, Json.lookup?]

end Capture

/-! ## Documents -/

namespace Output

/-- The value of a list of entries in a document, if it is there. -/
def present (entries : List Json) : Option Json :=
  if entries = [] then none else some (.array entries)

/-- Lists with the same field are the same. -/
theorem present_inj {entries entries' : List Json} (same : present entries = present entries') :
    entries = entries' := by
  unfold present at same
  split at same <;> split at same <;> simp_all

/-- The field of a list is found under its name, if the list is not empty. -/
theorem lookup?_listField (wanted name : String) (entries : List Json)
    (rest : List (String × Json)) :
    Json.lookup? wanted (listField name entries ++ rest) =
      if name = wanted then (present entries).or (Json.lookup? wanted rest)
      else Json.lookup? wanted rest := by
  cases entries with
  | nil => simp [listField, present]
  | cons v rest => simp [listField, present, Json.lookup?]

variable {o o' : Output}

/-- Under its name each list of entries is found, if it is there. -/
theorem field?_toJson (o : Output) :
    o.toJson.field? "extractions" = present (o.extractions.map Extraction.toJson) ∧
      o.toJson.field? "evaluations" = present (o.evaluations.map Evaluation.toJson) ∧
      o.toJson.field? "captures" = present (o.captures.map Capture.toJson) := by
  have fields : o.toJson = .object
      (listField "extractions" (o.extractions.map Extraction.toJson)
        ++ (listField "evaluations" (o.evaluations.map Evaluation.toJson)
          ++ (listField "captures" (o.captures.map Capture.toJson) ++ []))) := by
    rw [List.append_nil, ← List.append_assoc, toJson]
  rw [fields]
  simp only [Json.field?, lookup?_listField, Json.lookup?]
  simp

/-- The captures of a document whose numbers are whole have whole numbers. -/
theorem whole_capture (whole : o.toJson.Whole) {c : Capture} (mem : c ∈ o.captures) :
    c.toJson.Whole := by
  have some_ : o.captures.map Capture.toJson ≠ [] := List.ne_nil_of_mem (List.mem_map_of_mem mem)
  have there : ("captures", Json.array (o.captures.map Capture.toJson)) ∈
      listField "captures" (o.captures.map Capture.toJson) := by
    simpa [listField] using List.ne_nil_of_mem mem
  exact (whole.field (List.mem_append_right _ there)).item (List.mem_map_of_mem mem)

/-- Entries that have the same values are the same if their values tell them apart. -/
theorem eq_of_map_toJson {α : Type} {encode : α → Json} {as bs : List α}
    (apart : ∀ a ∈ as, ∀ b ∈ bs, encode a = encode b → a = b)
    (same : as.map encode = bs.map encode) : as = bs := by
  induction as generalizing bs with
  | nil => exact (List.map_eq_nil_iff.mp same.symm).symm
  | cons a as ih =>
    obtain ⟨b, bs', rfl, first, later⟩ := List.map_eq_cons_iff.mp same.symm
    obtain rfl := apart a List.mem_cons_self b List.mem_cons_self first.symm
    have rest : as = bs' := ih (fun a mem b mem' =>
      apart a (List.mem_cons_of_mem _ mem) b (List.mem_cons_of_mem _ mem')) later.symm
    rw [rest]

/-- No two outputs whose numbers are whole have the same document. -/
theorem toJson_inj (whole : o.toJson.Whole) (whole' : o'.toJson.Whole)
    (same : o.toJson = o'.toJson) : o = o' := by
  obtain ⟨extractions, evaluations, captures⟩ := o.field?_toJson
  obtain ⟨extractions', evaluations', captures'⟩ := o'.field?_toJson
  rw [same] at extractions evaluations captures
  have sameExtractions : o.extractions = o'.extractions :=
    eq_of_map_toJson (fun _ _ _ _ => Extraction.toJson_inj)
      (present_inj (extractions.symm.trans extractions'))
  have sameEvaluations : o.evaluations = o'.evaluations :=
    eq_of_map_toJson (fun _ _ _ _ => Evaluation.toJson_inj)
      (present_inj (evaluations.symm.trans evaluations'))
  have sameCaptures : o.captures = o'.captures :=
    eq_of_map_toJson
      (fun _ mem _ mem' => Capture.toJson_inj (whole_capture whole mem) (whole_capture whole' mem'))
      (present_inj (captures.symm.trans captures'))
  obtain ⟨_, _, _⟩ := o
  cases sameExtractions
  cases sameEvaluations
  cases sameCaptures
  rfl

end Output

end PageScript
