import PageScript.Proofs.Json.RoundTrip

/-!
# Documents without blanks are unambiguous

No two values whose numbers are whole are written alike, whatever follows them (`compact_inj`). The
reader is no help for lists and objects: it brings fields into order and only nests so deep. So they
are told apart part by part.

**What it does not establish.** Values with numbers that are not whole: two of these may be written
alike.
-/

namespace PageScript.Json

open Text (Symbol)

/-- Told apart by its text, whatever follows it that does not go on with a number. -/
def ToldApart (v : Json) : Prop :=
  ∀ w r r', w.Whole → Stops r → Stops r' →
    (compact v).map Symbol.char ++ r = (compact w).map .char ++ r' → v = w ∧ r = r'

/-! ## Lists and objects -/

section Parts

variable {α : Type} {text : α → List Char} {opening closing : Char} {r r' : List Symbol}
  {P : α → Prop}

/-- Parts after commas are told apart if each of them is. -/
theorem commas_inj (ends : closing ≠ ',') (stop : goesOn (.char closing) = false)
    {as bs : List α} (allowed : ∀ b ∈ bs, P b)
    (each : ∀ a ∈ as, ∀ b r r', P b → Stops r → Stops r' →
      (text a).map Symbol.char ++ r = (text b).map .char ++ r' → a = b ∧ r = r')
    (same : (as.flatMap fun a => ',' :: text a).map Symbol.char ++ .char closing :: r =
      (bs.flatMap fun b => ',' :: text b).map .char ++ .char closing :: r') :
    as = bs ∧ r = r' := by
  induction as generalizing bs with
  | nil =>
    cases bs with
    | nil => exact ⟨rfl, (List.cons.inj same).2⟩
    | cons b bs => exact absurd (Symbol.char.inj (List.cons.inj same).1) ends
  | cons a as ih =>
    cases bs with
    | nil => exact absurd (Symbol.char.inj (List.cons.inj same).1).symm ends
    | cons b bs =>
      obtain ⟨allowedHere, allowedLater⟩ := List.forall_mem_cons.mp allowed
      obtain ⟨here, later⟩ := List.forall_mem_cons.mp each
      simp only [List.flatMap_cons, List.cons_append, List.map_cons, List.map_append,
        List.append_assoc, List.cons.injEq, true_and] at same
      obtain ⟨rfl, rest⟩ := here b _ _ allowedHere (stops_commas as text (stops_char stop r))
        (stops_commas bs text (stops_char stop r')) same
      obtain ⟨rfl, rfl⟩ := ih allowedLater later rest
      exact ⟨rfl, rfl⟩

theorem inBrackets_cons (a : α) (as : List α) :
    (inBrackets opening closing [] [] ((a :: as).map text)).map Symbol.char ++ r =
      .char opening :: ((text a).map .char ++
        ((as.flatMap fun a => ',' :: text a).map .char ++ .char closing :: r)) := by
  simp [inBrackets, List.flatMap_map]

/-- What is in brackets is told apart if the parts are, and none of them begins like the closing
bracket. -/
theorem inBrackets_inj (ends : closing ≠ ',') (stop : goesOn (.char closing) = false)
    (head : ∀ a, P a → ∃ c rest, text a = c :: rest ∧ c ≠ closing) {as bs : List α}
    (allowed : ∀ a ∈ as, P a) (allowed' : ∀ b ∈ bs, P b)
    (each : ∀ a ∈ as, ∀ b r r', P b → Stops r → Stops r' →
      (text a).map Symbol.char ++ r = (text b).map .char ++ r' → a = b ∧ r = r')
    (same : (inBrackets opening closing [] [] (as.map text)).map Symbol.char ++ r =
      (inBrackets opening closing [] [] (bs.map text)).map .char ++ r') :
    as = bs ∧ r = r' := by
  have closes {a : α} {s t : List Symbol} (here : P a)
      (h : .char closing :: s = (text a).map Symbol.char ++ t) : False := by
    obtain ⟨c, rest, begins, other⟩ := head a here
    rw [begins] at h
    exact other (Symbol.char.inj (List.cons.inj h).1).symm
  cases as with
  | nil =>
    cases bs with
    | nil => exact ⟨rfl, List.append_cancel_left same⟩
    | cons b bs =>
      rw [inBrackets_cons] at same
      exact (closes (allowed' b List.mem_cons_self) (List.cons.inj same).2).elim
  | cons a as =>
    rw [inBrackets_cons] at same
    cases bs with
    | nil => exact (closes (allowed a List.mem_cons_self) (List.cons.inj same).2.symm).elim
    | cons b bs =>
      rw [inBrackets_cons] at same
      obtain ⟨allowedHere, allowedLater⟩ := List.forall_mem_cons.mp allowed'
      obtain ⟨here, later⟩ := List.forall_mem_cons.mp each
      obtain ⟨rfl, rest⟩ := here b _ _ allowedHere (stops_commas as text (stops_char stop r))
        (stops_commas bs text (stops_char stop r')) (List.cons.inj same).2
      obtain ⟨rfl, rfl⟩ := commas_inj ends stop allowedLater later rest
      exact ⟨rfl, rfl⟩

end Parts

theorem quote_inj {s t : String} {r r' : List Symbol}
    (same : (quote s).map Symbol.char ++ r = (quote t).map .char ++ r') : s = t ∧ r = r' := by
  have read : textFrom [] true ((quote s).tail.map .char ++ r) =
      textFrom [] true ((quote t).tail.map .char ++ r') :=
    congrArg (fun symbols => textFrom [] true symbols.tail) same
  rw [textFrom_quote, textFrom_quote] at read
  cases read
  exact ⟨rfl, rfl⟩

/-- A field is told apart by its name and its value. -/
theorem member_inj {f g : String × Json} (apart : f.2.ToldApart) (whole : g.2.Whole)
    {r r' : List Symbol} (stops : Stops r) (stops' : Stops r')
    (same : (memberText [] f.1 (compact f.2)).map Symbol.char ++ r =
      (memberText [] g.1 (compact g.2)).map .char ++ r') : f = g ∧ r = r' := by
  simp only [memberText, List.map_append, List.append_assoc] at same
  obtain ⟨name, rest⟩ := quote_inj same
  obtain ⟨value, rfl⟩ := apart g.2 r r' whole stops stops' (List.cons.inj rest).2
  exact ⟨Prod.ext name value, rfl⟩

/-! ## Values -/

/-- Single values are told apart by reading them; lists and objects begin with a bracket. -/
theorem toldApart_of_isScalar {v : Json} (scalar : v.isScalar = true) (whole : v.Whole) :
    v.ToldApart := by
  intro w r r' whole' stops stops' same
  let none : List Symbol → Outcome Json := refuse .expectedValue
  have read := valueWith_compact scalar whole.exact stops none none
  rw [same] at read
  cases w with
  | array items =>
    rw [compact] at read
    cases read
  | object fields =>
    rw [compact] at read
    cases read
  | _ =>
    rw [valueWith_compact rfl whole'.exact stops' none none] at read
    cases read
    exact ⟨rfl, rfl⟩

/-- What is written like a list or an object is one. -/
theorem isScalar_of_alike {v w : Json} (parts : v.isScalar = false) (whole : v.Whole)
    (whole' : w.Whole) {r r' : List Symbol} (stops : Stops r) (stops' : Stops r')
    (same : (compact v).map Symbol.char ++ r = (compact w).map .char ++ r') :
    w.isScalar = false := by
  by_contra scalar
  rw [Bool.not_eq_false] at scalar
  obtain ⟨rfl, -⟩ := toldApart_of_isScalar scalar whole' _ _ _ whole stops' stops same.symm
  rw [scalar] at parts
  cases parts

theorem toldApart_array {items : List Json} (whole : ∀ v ∈ items, v.Whole)
    (each : ∀ v ∈ items, v.ToldApart) : (array items).ToldApart := by
  intro w r r' whole' stops stops' same
  have scalar := isScalar_of_alike rfl (.array whole) whole' stops stops' same
  cases whole' with
  | @array items' whole' =>
    have written (items : List Json) : compact (.array items) = _ := Layout.tight.array 0 items
    rw [written, written] at same
    have head (v : Json) (_ : v.Whole) : ∃ c rest, compact v = c :: rest ∧ c ≠ ']' := by
      obtain ⟨c, rest, begins, -, other⟩ := Layout.tight.head v 0
      exact ⟨c, rest, begins, other⟩
    obtain ⟨rfl, rfl⟩ := inBrackets_inj (by decide) rfl head whole whole' each same
    exact ⟨rfl, rfl⟩
  | object each' =>
    rw [compact, compact] at same
    exact absurd (Symbol.char.inj (List.cons.inj same).1) (by decide)
  | _ => cases scalar

theorem toldApart_object {fields : List (String × Json)} (whole : ∀ f ∈ fields, f.2.Whole)
    (each : ∀ f ∈ fields, f.2.ToldApart) : (object fields).ToldApart := by
  intro w r r' whole' stops stops' same
  have scalar := isScalar_of_alike rfl (.object whole) whole' stops stops' same
  cases whole' with
  | @object fields' whole' =>
    have written (fields : List (String × Json)) : compact (.object fields) = _ :=
      Layout.tight.object 0 fields
    rw [written, written] at same
    have head (f : String × Json) (_ : f.2.Whole) :
        ∃ c rest, memberText [] f.1 (compact f.2) = c :: rest ∧ c ≠ '\x7d' :=
      ⟨'"', _, rfl, by decide⟩
    obtain ⟨rfl, rfl⟩ := inBrackets_inj (P := fun f => f.2.Whole) (by decide) rfl head whole whole'
      (fun f mem g _ _ allowed => member_inj (each f mem) allowed) same
    exact ⟨rfl, rfl⟩
  | array each' =>
    rw [compact, compact] at same
    exact absurd (Symbol.char.inj (List.cons.inj same).1) (by decide)
  | _ => cases scalar

/-- Every value whose numbers are whole is told apart by its text. -/
theorem toldApart {v : Json} (whole : v.Whole) : v.ToldApart := by
  induction v using Json.induction with
  | scalar v scalar => exact toldApart_of_isScalar scalar whole
  | array items ih =>
    cases whole with
    | array each => exact toldApart_array each fun v mem => ih v mem (each v mem)
  | object fields ih =>
    cases whole with
    | object each => exact toldApart_object each fun f mem => ih f mem (each f mem)

/-- No two values whose numbers are whole are written alike. -/
theorem compact_inj {v w : Json} (whole : v.Whole) (whole' : w.Whole)
    (same : compact v = compact w) : v = w := by
  have apart := toldApart whole w [] [] whole' stops_nil stops_nil
  rw [List.append_nil, List.append_nil] at apart
  exact (apart (congrArg _ same)).1

end PageScript.Json
