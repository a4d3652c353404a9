import PageScript.Proofs.Json.Numerals

/-!
# Layouts of a document

The printers differ in the blanks they put between the tokens and in nothing else. A `Layout` says
which blanks go where; the compact text (`Layout.tight`) and the one with an item a line
(`Layout.byLines`) are two of them.

**What it does not establish.** Layouts with blanks in other places, such as before a colon, are
read all the same and not told here.
-/

namespace PageScript.Json

/-- Parts with commas between them in brackets: `inner` goes before each part and `outer` before the
closing bracket, unless there are no parts. -/
def inBrackets (opening closing : Char) (inner outer : List Char) :
    List (List Char) → List Char
  | [] => [opening, closing]
  | part :: parts =>
    opening :: inner ++ part ++ (parts.flatMap fun next => ',' :: inner ++ next) ++ outer
      ++ [closing]

/-- A field with its value written as given. -/
def memberText (gap : List Char) (name : String) (value : List Char) : List Char :=
  quote name ++ ':' :: gap ++ value

/-- A way to write documents. -/
structure Layout where
  /-- A value that is so deep inside lists and objects. -/
  text : Nat → Json → List Char
  /-- What goes before a part that is so deep, and before the bracket that closes one. -/
  breaks : Nat → List Char
  /-- What goes between a name and its value, after the colon. -/
  gap : List Char
  breaks_blank : ∀ depth, Separators (breaks depth)
  gap_blank : Separators gap
  scalar : ∀ depth v, v.isScalar = true → text depth v = compact v
  array : ∀ depth items, text depth (.array items) =
    inBrackets '[' ']' (breaks (depth + 1)) (breaks depth) (items.map (text (depth + 1)))
  object : ∀ depth fields, text depth (.object fields) =
    inBrackets '\x7b' '\x7d' (breaks (depth + 1)) (breaks depth)
      (fields.map fun f => memberText gap f.1 (text (depth + 1) f.2))

theorem compactItems_cons (v : Json) (rest : List Json) :
    compactItems (v :: rest) = compact v ++ rest.flatMap fun w => ',' :: compact w := by
  induction rest generalizing v with
  | nil => rw [compactItems, List.flatMap_nil, List.append_nil]
  | cons w rest ih =>
    rw [compactItems, ih, List.flatMap_cons, List.cons_append]
    exact List.cons_ne_nil _ _

theorem compactFields_cons (f : String × Json) (rest : List (String × Json)) :
    compactFields (f :: rest) = memberText [] f.1 (compact f.2)
      ++ rest.flatMap fun g => ',' :: memberText [] g.1 (compact g.2) := by
  induction rest generalizing f with
  | nil => simp only [compactFields, memberText, List.flatMap_nil, List.append_nil,
      List.append_assoc, List.cons_append, List.nil_append]
  | cons g rest ih =>
    rw [compactFields, ih, List.flatMap_cons]
    · simp only [memberText, List.append_assoc, List.cons_append, List.nil_append]
    · exact List.cons_ne_nil _ _

theorem indentedItems_cons (indentation : List Char) (depth : Nat) (v : Json) (rest : List Json) :
    indentedItems indentation depth (v :: rest) =
      newLine indentation depth ++ indented indentation depth v
        ++ rest.flatMap fun w =>
          ',' :: newLine indentation depth ++ indented indentation depth w := by
  induction rest generalizing v with
  | nil => rw [indentedItems, List.flatMap_nil, List.append_nil]
  | cons w rest ih =>
    rw [indentedItems, ih, List.flatMap_cons]
    · simp only [List.append_assoc, List.cons_append]
    · exact List.cons_ne_nil _ _

theorem indentedFields_cons (indentation : List Char) (depth : Nat) (f : String × Json)
    (rest : List (String × Json)) :
    indentedFields indentation depth (f :: rest) =
      newLine indentation depth ++ memberText [' '] f.1 (indented indentation depth f.2)
        ++ rest.flatMap fun g => ',' :: newLine indentation depth
          ++ memberText [' '] g.1 (indented indentation depth g.2) := by
  induction rest generalizing f with
  | nil => simp only [indentedFields, memberText, List.flatMap_nil, List.append_nil,
      List.append_assoc, List.cons_append, List.nil_append]
  | cons g rest ih =>
    rw [indentedFields, ih, List.flatMap_cons]
    · simp only [memberText, List.append_assoc, List.cons_append, List.nil_append]
    · exact List.cons_ne_nil _ _

/-- The text of a number begins with a sign, a digit, or a letter. -/
theorem head_numberText (n : JsonNumber) :
    ∃ c rest, numberText n = c :: rest ∧ isSeparator (.char c) = false ∧ c ≠ ']' := by
  have numeral {s : List Char} (numeral : IsNumeral s) :
      ∃ c rest, s = c :: rest ∧ isSeparator (.char c) = false ∧ c ≠ ']' := by
    obtain ⟨sign, whole, fraction, exponent, isSign, isWhole, -, -, rfl⟩ := numeral
    simp only [List.mem_cons, List.not_mem_nil, or_false] at isSign
    rcases isSign with rfl | rfl
    · obtain ⟨some, digits⟩ := isWhole.1
      cases whole with
      | nil => exact absurd rfl some
      | cons c rest =>
        obtain ⟨visible, -, -, -, -, more⟩ := digit_cases (digits c List.mem_cons_self)
        exact ⟨c, _, rfl, visible, more⟩
    · exact ⟨'-', _, rfl, rfl, by decide⟩
  cases n with
  | whole n => exact numeral (isNumeral_signedDecimal n.val)
  | float x =>
    rw [numberText]
    split
    · exact numeral (Decimal.isNumeral_text x)
    · exact ⟨'n', _, rfl, rfl, by decide⟩

/-- Without blanks. -/
def Layout.tight : Layout where
  text _ := compact
  breaks _ := []
  gap := []
  breaks_blank _ := separators_nil
  gap_blank := separators_nil
  scalar _ _ _ := rfl
  array _ items := by
    cases items with
    | nil => rfl
    | cons v rest => simp [compact, inBrackets, compactItems_cons, List.flatMap_map]
  object _ fields := by
    cases fields with
    | nil => rfl
    | cons f rest => simp [compact, inBrackets, compactFields_cons, List.flatMap_map]

theorem separators_newLine {indentation : List Char} (blank : Separators indentation)
    (depth : Nat) : Separators (newLine indentation depth) := by
  refine List.forall_mem_cons.mpr ⟨rfl, fun c mem => ?_⟩
  obtain ⟨part, of, here⟩ := List.mem_flatten.mp mem
  exact blank c (List.eq_of_mem_replicate of ▸ here)

/-- With a part a line. -/
def Layout.byLines (indentation : List Char) (blank : Separators indentation) : Layout where
  text := indented indentation
  breaks := newLine indentation
  gap := [' ']
  breaks_blank := separators_newLine blank
  gap_blank := List.forall_mem_singleton.mpr rfl
  scalar depth v scalar := by
    cases v with
    | array items => cases scalar
    | object fields => cases scalar
    | bool b => cases b <;> rw [indented, compact]
    | null => rw [indented, compact]
    | number n => rw [indented, compact]
    | string s => rw [indented, compact]
  array depth items := by
    cases items with
    | nil => rw [indented]; rfl
    | cons v rest => simp [indented, inBrackets, indentedItems_cons, List.flatMap_map]
  object depth fields := by
    cases fields with
    | nil => rw [indented]; rfl
    | cons f rest => simp [indented, inBrackets, indentedFields_cons, List.flatMap_map]

namespace Layout

variable (l : Layout)

/-- A list begins with its first item after the opening bracket; the others come after commas. -/
theorem array_cons (depth : Nat) (v : Json) (rest : List Json) :
    l.text depth (.array (v :: rest)) =
      '[' :: l.breaks (depth + 1) ++ l.text (depth + 1) v
        ++ (rest.flatMap fun w => ',' :: l.breaks (depth + 1) ++ l.text (depth + 1) w)
        ++ l.breaks depth ++ [']'] := by
  simp only [l.array, List.map_cons, inBrackets, List.flatMap_map]

theorem object_cons (depth : Nat) (f : String × Json) (rest : List (String × Json)) :
    l.text depth (.object (f :: rest)) =
      '\x7b' :: l.breaks (depth + 1) ++ memberText l.gap f.1 (l.text (depth + 1) f.2)
        ++ (rest.flatMap fun g =>
          ',' :: l.breaks (depth + 1) ++ memberText l.gap g.1 (l.text (depth + 1) g.2))
        ++ l.breaks depth ++ ['\x7d'] := by
  simp only [l.object, List.map_cons, inBrackets, List.flatMap_map]

/-- The text of a value begins with a character that is not taken for the end of a list. -/
theorem head (v : Json) (depth : Nat) :
    ∃ c rest, l.text depth v = c :: rest ∧ isSeparator (.char c) = false ∧ c ≠ ']' := by
  cases v with
  | null => exact ⟨'n', _, l.scalar depth .null rfl, rfl, by decide⟩
  | bool b => cases b <;> exact ⟨_, _, l.scalar depth (.bool _) rfl, rfl, by decide⟩
  | number n =>
    rw [l.scalar depth _ rfl]
    exact head_numberText n
  | string s => exact ⟨'"', _, l.scalar depth (.string s) rfl, rfl, by decide⟩
  | array items =>
    rw [l.array]
    cases items <;> exact ⟨'[', _, rfl, rfl, by decide⟩
  | object fields =>
    rw [l.object]
    cases fields <;> exact ⟨'\x7b', _, rfl, rfl, by decide⟩

end Layout

end PageScript.Json
