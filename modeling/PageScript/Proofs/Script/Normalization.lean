import PageScript.Proofs.Script.ObjectText

/-!
# Compiling once and again

A script that has been compiled is kept in a form that compiles to the same and stays
(`compile_normalizes`). It is replaced only where a text was read as a document, and then by an
object, because a text that begins with an opening bracket is read as an object or not at all
(`exists_object_of_parse`).

**What it does not establish.** Scripts that do not compile are kept as they came; nothing more is
said of them.
-/

namespace PageScript

/-- A text that begins with the bracket of an object is an object if it is a document. -/
theorem Json.exists_object_of_parse {text : String} {v : Json}
    (opens : text.toList.head? = some '\x7b') (read : parse text = .ok v) :
    ∃ fields, v = .object fields := by
  obtain ⟨rest, whole⟩ := List.head?_eq_some_iff.mp opens
  obtain ⟨r, first⟩ := exists_of_parseSymbols read
  rw [whole, List.map_cons, deepest, run_readValue_object] at first
  obtain ⟨fields, is, -⟩ := exists_of_readObject first
  exact ⟨sortFields fields, is⟩

namespace Script

/-- What a script compiles to, and what is kept of it. -/
inductive Compiles : Json → Except Failure (List Step) → Json → Prop where
  | object (fields : List (String × Json)) :
    Compiles (.object fields) (ofObject (.object fields)) (.object fields)
  | document {text : String} {fields : List (String × Json)}
    (shape : isObjectText text.toList = true)
    (read : Json.parse (String.ofList (Text.trim text.toList)) = .ok (.object fields)) :
    Compiles (.string text) (ofObject (.object fields)) (.object fields)
  | unreadable {text : String} {fault : Json.SyntaxError}
    (shape : isObjectText text.toList = true)
    (fails : Json.parse (String.ofList (Text.trim text.toList)) = .error fault) :
    Compiles (.string text) (.error (.unreadable fault.message)) (.string text)
  | lines {text : String} (shape : isObjectText text.toList = false) :
    Compiles (.string text) (.ok (Line.steps text)) (.string text)
  | nothing : Compiles .null (.ok []) .null
  | refused {v : Json} (noObject : ∀ fields, v ≠ .object fields)
    (noText : ∀ text, v ≠ .string text) (some : v ≠ .null) :
    Compiles v (.error (.validation ("Script must be an object or text, got: " ++ v.print))) v

theorem head_of_isObjectText {text : List Char} (shape : isObjectText text = true) :
    (Text.trim text).head? = some '\x7b' := by
  simp only [isObjectText, Bool.and_eq_true, beq_iff_eq] at shape
  exact shape.1.2

/-- An object is never at fault for being no document. -/
theorem ofObject_ne_unreadable (script : Json) (reason : String) :
    ofObject script ≠ .error (.unreadable reason) := by
  intro fails
  obtain ⟨other, -⟩ := ofObject_eq_error_iff.mp fails
  cases other

/-- Every script compiles in one of these ways. -/
theorem compiles_compile (script : Json) :
    Compiles script (compile script).1 (compile script).2 := by
  cases script with
  | object fields => exact .object fields
  | null => exact .nothing
  | string text =>
    rw [compile]
    by_cases shape : isObjectText text.toList = true
    · rw [if_pos shape]
      cases read : Json.parse (String.ofList (Text.trim text.toList)) with
      | error fault => exact .unreadable shape read
      | ok v =>
        have opens : (String.ofList (Text.trim text.toList)).toList.head? = some '\x7b' := by
          rw [String.toList_ofList]
          exact head_of_isObjectText shape
        obtain ⟨fields, rfl⟩ := Json.exists_object_of_parse opens read
        exact .document shape read
    · rw [if_neg shape]
      exact .lines (Bool.not_eq_true _ ▸ shape)
  | bool | number | array => exact .refused (by simp) (by simp) (by simp)

section

variable {script kept : Json} {result : Except Failure (List Step)}

theorem compile_of_compiles (compiles : Compiles script result kept) :
    compile script = (result, kept) := by
  cases compiles with
  | object fields => rfl
  | document shape read =>
    rw [compile, if_pos shape, read]
  | unreadable shape fails =>
    rw [compile, if_pos shape, fails]
  | @lines text shape =>
    have other : ¬ isObjectText text.toList = true := by
      rw [shape]
      exact Bool.false_ne_true
    rw [compile, if_neg other]
  | nothing => rfl
  | refused noObject noText some =>
    cases script with
    | object fields => exact absurd rfl (noObject fields)
    | string text => exact absurd rfl (noText text)
    | null => exact absurd rfl some
    | bool | number | array => rfl

namespace Compiles

/-- What is kept of a script compiles to the same, and stays. -/
theorem again (compiles : Compiles script result kept) : Compiles kept result kept := by
  cases compiles with
  | object fields => exact .object fields
  | document shape read => exact .object _
  | unreadable shape fails => exact .unreadable shape fails
  | lines shape => exact .lines shape
  | nothing => exact .nothing
  | refused noObject noText some => exact .refused noObject noText some

theorem kept_cases (compiles : Compiles script result kept) :
    kept = script ∨ ∃ text fields, script = .string text ∧
      Json.parse (String.ofList (Text.trim text.toList)) = .ok (.object fields) ∧
      kept = .object fields := by
  cases compiles with
  | @document text fields shape read => exact .inr ⟨text, fields, rfl, read, rfl⟩
  | _ => exact .inl rfl

/-- A script fails as no document if it is a text that looks like an object and is none, and then
the text is kept. -/
theorem unreadable_iff (compiles : Compiles script result kept) {reason : String} :
    result = .error (.unreadable reason) ↔ kept = script ∧
      ∃ text fault, script = .string text ∧ isObjectText text.toList = true ∧
        Json.parse (String.ofList (Text.trim text.toList)) = .error fault ∧
        reason = fault.message := by
  constructor
  · intro fails
    cases compiles with
    | object => exact absurd fails (ofObject_ne_unreadable _ _)
    | document => exact absurd fails (ofObject_ne_unreadable _ _)
    | @unreadable text fault shape failed =>
      cases fails
      exact ⟨rfl, text, fault, rfl, shape, failed, rfl⟩
    | lines => cases fails
    | nothing => cases fails
    | refused => cases fails
  · rintro ⟨-, text, fault, rfl, shape, fails, rfl⟩
    have compiled := compile_of_compiles compiles
    rw [compile_of_compiles (.unreadable shape fails)] at compiled
    cases compiled
    rfl

end Compiles

end

/-- What is kept of a script compiles to the same steps, or fails in the same way, and is kept as it
is. It is the script itself, unless this is the text of an object, whose place the object takes. A
text that looks like an object and is no document stays, and so does a script that is neither an
object nor a text nor nothing; both fail. -/
theorem compile_normalizes (script : Json) :
    let (result, kept) := compile script
    compile kept = (result, kept) ∧
      (kept = script ∨ ∃ text fields, script = .string text ∧
        Json.parse (String.ofList (Text.trim text.toList)) = .ok (.object fields) ∧
        kept = .object fields) ∧
      (∀ reason, result = .error (.unreadable reason) ↔ kept = script ∧
        ∃ text fault, script = .string text ∧ isObjectText text.toList = true ∧
          Json.parse (String.ofList (Text.trim text.toList)) = .error fault ∧
          reason = fault.message) ∧
      ((∀ fields, script ≠ .object fields) → (∀ text, script ≠ .string text) → script ≠ .null →
        kept = script ∧
          result = .error
            (.validation ("Script must be an object or text, got: " ++ script.print))) := by
  have compiles := compiles_compile script
  refine ⟨compile_of_compiles compiles.again, compiles.kept_cases, fun reason =>
    compiles.unreadable_iff, ?_⟩
  intro noObject noText some
  have compiled := compile_of_compiles (.refused noObject noText some)
  exact ⟨congrArg Prod.snd compiled, congrArg Prod.fst compiled⟩

end Script

end PageScript
