import PageScript.Proofs.Json.Layout
import PageScript.Proofs.Json.Readable

/-!
# Reading documents back

A value that can be read and whose numbers are read back from their texts is read back from its
text in every layout (`Layout.parseSymbols_text`), with blanks around it or not. So the layouts of
one value differ in nothing that reading sees.

**What it does not establish.** A value that nests too deep is written all the same, and is not read
back.
-/

namespace PageScript.Json

open Text (Symbol)

/-! ## Steps of the readers -/

section Steps

variable {item value : Reader Json} {s r t rest : List Symbol} {symbol : Symbol} {v : Json}
  {f : String × Json}

/-- At the closing bracket no items are left. -/
theorem itemsAfter_close (ends : skipBlank s = .char ']' :: r) :
    itemsAfter item s = .ok ([], r) := by
  rw [itemsAfter]
  split
  · rename_i h
    cases ends.symm.trans h
  · rename_i h
    cases ends.symm.trans h
    rfl

/-- After a comma there is an item, and then the others. -/
theorem itemsAfter_comma (comma : skipBlank s = .char ',' :: r) (next : skipBlank r = symbol :: t)
    (more : symbol ≠ .char ']') (first : item.run (symbol :: t) = .ok (v, rest)) :
    itemsAfter item s = onValue (v :: ·) (itemsAfter item rest) := by
  rw [itemsAfter]
  split
  · rename_i h
    cases comma.symm.trans h
  · rename_i h
    cases comma.symm.trans h
    rw [if_neg (by decide), if_pos rfl]
    split
    · rename_i h
      cases next.symm.trans h
    · rename_i h
      cases next.symm.trans h
      rw [if_neg more]
      split
      · rename_i h
        cases first.symm.trans h
      · rename_i h
        cases first.symm.trans h
        rfl

/-- A list with a first item is read item by item. -/
theorem readList_first (next : skipBlank s = symbol :: t) (more : symbol ≠ .char ']')
    (first : item.run (symbol :: t) = .ok (v, rest)) :
    readList item s = onValue (fun vs => .array (v :: vs)) (itemsAfter item rest) := by
  simp only [readList, next, if_neg more, first]

/-- At the closing brace no members are left. -/
theorem membersAfter_close (ends : skipBlank s = .char '\x7d' :: r) :
    membersAfter value s = .ok ([], r) := by
  rw [membersAfter]
  split
  · rename_i h
    cases ends.symm.trans h
  · rename_i h
    cases ends.symm.trans h
    rfl

/-- After a comma there is a field, and then the others. -/
theorem membersAfter_comma (comma : skipBlank s = .char ',' :: r)
    (next : skipBlank r = .char '"' :: t) (first : readMember value t = .ok (f, rest)) :
    membersAfter value s = onValue (f :: ·) (membersAfter value rest) := by
  rw [membersAfter]
  split
  · rename_i h
    cases comma.symm.trans h
  · rename_i h
    cases comma.symm.trans h
    rw [if_neg (by decide), if_pos rfl]
    split
    · rename_i h
      cases next.symm.trans h
    · rename_i h
      cases next.symm.trans h
      rw [if_pos rfl]
      split
      · rename_i h
        cases first.symm.trans h
      · rename_i h
        cases first.symm.trans h
        rfl

/-- An object with a first member is read member by member. -/
theorem readObject_first (next : skipBlank s = .char '"' :: t)
    (first : readMember value t = .ok (f, rest)) :
    readObject value s = onValue (fun fs => ofFields (f :: fs)) (membersAfter value rest) := by
  have opens : Symbol.char '"' ≠ .char '\x7d' := by decide
  simp only [readObject, next, if_neg opens, if_true, first]

/-- Blanks before a value are skipped. -/
theorem run_readValue_blank {s : List Char} (blank : Separators s) (depth : Nat)
    (r : List Symbol) : (readValue depth).run (s.map .char ++ r) = (readValue depth).run r := by
  cases depth <;> simp only [readValue, valueWith, skipBlank_append blank]

/-- A bracket opens a list, which allows one nesting less for its items. -/
theorem run_readValue_array (depth : Nat) (r : List Symbol) :
    (readValue (depth + 1)).run (.char '[' :: r) = readList (readValue depth) r := rfl

/-- A brace opens an object, which allows one nesting less for its members. -/
theorem run_readValue_object (depth : Nat) (r : List Symbol) :
    (readValue (depth + 1)).run (.char '\x7b' :: r) = readObject (readValue depth) r := rfl

end Steps

/-! ## What was written is read -/

/-- Parts after commas do not go on with a number before them. -/
theorem stops_commas (parts : List α) (text : α → List Char) {r : List Symbol} (stops : Stops r) :
    Stops ((parts.flatMap fun part => ',' :: text part).map .char ++ r) := by
  cases parts with
  | nil => exact stops
  | cons part parts => exact stops_char rfl _

/-- Blanks before a closing character are skipped. -/
theorem skipBlank_closing {blanks : List Char} (blank : Separators blanks) {c : Char}
    (visible : isSeparator (.char c) = false) (r : List Symbol) :
    skipBlank (blanks.map .char ++ .char c :: r) = .char c :: r :=
  (skipBlank_append blank _).trans (skipBlank_of_head visible r)

namespace Layout

variable (l : Layout) {v : Json} {allowed depth : Nat} {tail r : List Symbol}

/-- Written so deep, a value is read back by a reader for so much nesting, whatever follows. -/
def ReadsBack (allowed depth : Nat) (v : Json) : Prop :=
  ∀ r, Stops r → (readValue allowed).run ((l.text depth v).map .char ++ r) = .ok (v, r)

/-- The items after the first are read back one after the other, each behind its comma. -/
theorem itemsAfter_commas {rest : List Json}
    (each : ∀ v ∈ rest, l.ReadsBack allowed depth v) (ends : skipBlank tail = .char ']' :: r)
    (stops : Stops tail) :
    itemsAfter (readValue allowed)
        ((rest.flatMap fun v => ',' :: l.breaks depth ++ l.text depth v).map .char ++ tail) =
      .ok (rest, r) := by
  induction rest with
  | nil => exact itemsAfter_close ends
  | cons v rest ih =>
    obtain ⟨here, later⟩ := List.forall_mem_cons.mp each
    obtain ⟨c, text, head, visible, more⟩ := l.head v depth
    have read := here _ (stops_commas rest (fun v => l.breaks depth ++ l.text depth v) stops)
    have others := ih later
    simp only [head, List.flatMap_cons, List.map_append, List.map_cons, List.cons_append,
      List.append_assoc] at read others ⊢
    rw [itemsAfter_comma (skipBlank_of_head rfl _)
      (skipBlank_closing (l.breaks_blank depth) visible _) (by simpa using more) read, others]
    rfl

/-- A field is read back, after the opening quote of its name. -/
theorem readMember_memberText {f : String × Json} (each : l.ReadsBack allowed depth f.2)
    (stops : Stops r) :
    readMember (readValue allowed)
        ((memberText l.gap f.1 (l.text depth f.2)).tail.map .char ++ r) = .ok (f, r) := by
  have written : (memberText l.gap f.1 (l.text depth f.2)).tail.map Symbol.char ++ r =
      (quote f.1).tail.map .char ++ .char ':' ::
        (l.gap.map .char ++ ((l.text depth f.2).map .char ++ r)) := by
    simp [memberText, quote]
  have colon : isSeparator (.char ':') = false := rfl
  simp only [written, readMember, textFrom_quote, skipBlank_of_head colon, if_true,
    run_readValue_blank l.gap_blank, each r stops, onValue]

/-- The members after the first are read back one after the other, each behind its comma. -/
theorem membersAfter_commas {rest : List (String × Json)}
    (each : ∀ f ∈ rest, l.ReadsBack allowed depth f.2)
    (ends : skipBlank tail = .char '\x7d' :: r) (stops : Stops tail) :
    membersAfter (readValue allowed)
        ((rest.flatMap fun f =>
          ',' :: l.breaks depth ++ memberText l.gap f.1 (l.text depth f.2)).map .char ++ tail) =
      .ok (rest, r) := by
  induction rest with
  | nil => exact membersAfter_close ends
  | cons f rest ih =>
    obtain ⟨here, later⟩ := List.forall_mem_cons.mp each
    have read := l.readMember_memberText here (stops_commas rest
      (fun f => l.breaks depth ++ memberText l.gap f.1 (l.text depth f.2)) stops)
    have others := ih later
    simp only [memberText, quote, List.tail_cons, List.flatMap_cons, List.map_append,
      List.map_cons, List.cons_append, List.append_assoc] at read others ⊢
    rw [membersAfter_comma (skipBlank_of_head rfl _)
      (skipBlank_closing (l.breaks_blank depth) rfl _) read, others]
    rfl

/-- A list is read back if its items are. -/
theorem readsBack_array {items : List Json}
    (each : ∀ v ∈ items, l.ReadsBack allowed (depth + 1) v) :
    l.ReadsBack (allowed + 1) depth (.array items) := by
  intro r stops
  cases items with
  | nil =>
    rw [l.array]
    rfl
  | cons v rest =>
    obtain ⟨here, later⟩ := List.forall_mem_cons.mp each
    obtain ⟨c, text, head, visible, more⟩ := l.head v (depth + 1)
    have ends := skipBlank_closing (l.breaks_blank depth) (c := ']') rfl r
    have stopsAfter := stops_separators (l.breaks_blank depth) (stops_char (c := ']') rfl r)
    have others := l.itemsAfter_commas later ends stopsAfter
    have read := here _
      (stops_commas rest (fun v => l.breaks (depth + 1) ++ l.text (depth + 1) v) stopsAfter)
    simp only [l.array_cons, head, List.map_append, List.map_cons, List.map_nil, List.cons_append,
      List.append_assoc, List.nil_append] at read others ⊢
    rw [run_readValue_array, readList_first (skipBlank_closing (l.breaks_blank _) visible _)
      (by simpa using more) read, others]
    rfl

/-- An object is read back if the values of its members are, and its names are in order. -/
theorem readsBack_object {fields : List (String × Json)} (ascending : Ascending fields)
    (each : ∀ f ∈ fields, l.ReadsBack allowed (depth + 1) f.2) :
    l.ReadsBack (allowed + 1) depth (.object fields) := by
  intro r stops
  cases fields with
  | nil =>
    rw [l.object]
    rfl
  | cons f rest =>
    obtain ⟨here, later⟩ := List.forall_mem_cons.mp each
    have ends := skipBlank_closing (l.breaks_blank depth) (c := '\x7d') rfl r
    have stopsAfter := stops_separators (l.breaks_blank depth) (stops_char (c := '\x7d') rfl r)
    have others := l.membersAfter_commas later ends stopsAfter
    have read := l.readMember_memberText here (stops_commas rest
      (fun f => l.breaks (depth + 1) ++ memberText l.gap f.1 (l.text (depth + 1) f.2)) stopsAfter)
    simp only [l.object_cons, memberText, quote, List.tail_cons, List.map_append, List.map_cons,
      List.map_nil, List.cons_append, List.append_assoc, List.nil_append] at read others ⊢
    rw [run_readValue_object, readObject_first (skipBlank_closing (l.breaks_blank _) rfl _) read,
      others]
    simp only [onValue, ofFields, ascending.sortFields_eq]

/-- Whatever can be read and has exact numbers only is read back from its text. -/
theorem readsBack_of_readable (readable : Readable allowed v) (exact : v.Exact) :
    l.ReadsBack allowed depth v := by
  induction readable generalizing depth with
  | @scalar allowed v scalar =>
    intro r stops
    rw [l.scalar depth v scalar]
    cases allowed <;> exact valueWith_compact scalar exact stops _ _
  | array each ih =>
    cases exact with
    | array each => exact l.readsBack_array fun v mem => ih v mem (each v mem)
  | object ascending each ih =>
    cases exact with
    | object each => exact l.readsBack_object ascending fun f mem => ih f mem (each f mem)

/-- With blanks around it or not, the text of a value is a document of that value. -/
theorem parseSymbols_text (readable : Readable deepest v) (exact : v.Exact)
    {before after : List Char} (blankBefore : Separators before) (blankAfter : Separators after) :
    parseSymbols ((before ++ l.text depth v ++ after).map .char) = .ok v := by
  have ends : Stops (after.map .char) := by
    have stops := stops_separators blankAfter stops_nil
    rwa [List.append_nil] at stops
  have rest : skipBlank (after.map .char) = [] := by
    have skipped := skipBlank_append blankAfter []
    rwa [List.append_nil] at skipped
  have written : l.ReadsBack deepest depth v := l.readsBack_of_readable readable exact
  rw [parseSymbols, readDocument, List.append_assoc, List.map_append,
    run_readValue_blank blankBefore, List.map_append, written _ ends]
  simp only [rest]

/-- The text of a value is read as the value. -/
theorem parse_text (readable : Readable deepest v) (exact : v.Exact) :
    parse (String.ofList (l.text depth v)) = .ok v := by
  rw [parse, String.toList_ofList, ← List.append_nil (l.text _ _), ← List.nil_append (l.text _ _)]
  exact l.parseSymbols_text readable exact separators_nil separators_nil

end Layout

/-- What is printed is read back. -/
theorem parse_print {v : Json} (readable : Readable deepest v) (exact : v.Exact) :
    parse v.print = .ok v := by
  show parse (String.ofList (Layout.tight.text 0 v)) = .ok v
  exact Layout.tight.parse_text readable exact

end PageScript.Json
