import PageScript.Proofs.Json.RoundTrip
import PageScript.Proofs.Script.Keyword
import PageScript.Script.Compile

/-!
# Scripts given as the text of an object

The text of an object, laid out in any way and with blanks around it, is taken for a document and
compiles to what the object itself compiles to; the object then takes the place of its text
(`object_text_compiles`). The object without fields is the one exception. Its text is too short to
be taken for a document, and is read line by line instead. It has no instruction line, so that there
are no steps either way, but the text stays.

**What it does not establish.** Whether the steps of the object can be run, and what its other
fields hold.
-/

namespace PageScript

open Text

/-! ## The brackets of an object -/

namespace Json.Layout

/-- The text of an object is something between brackets, and nothing only if there are no fields. -/
theorem exists_between_brackets (l : Layout) (depth : Nat) (fields : List (String × Json)) :
    ∃ inner, l.text depth (.object fields) = '\x7b' :: inner ++ ['\x7d'] ∧
      (inner = [] ↔ fields = []) := by
  cases fields with
  | nil => exact ⟨[], l.object depth [], iff_of_true rfl rfl⟩
  | cons f rest =>
    refine ⟨_, l.object_cons depth f rest, iff_of_false ?_ (List.cons_ne_nil _ _)⟩
    simp [memberText, quote]

end Json.Layout

theorem Text.trim_between_brackets {before after : List Char} (inner : List Char)
    (blankBefore : Blanks before) (blankAfter : Blanks after) :
    trim (before ++ ('\x7b' :: inner ++ ['\x7d']) ++ after) = '\x7b' :: inner ++ ['\x7d'] := by
  have bare : Bare ('\x7b' :: inner ++ ['\x7d']) := by
    constructor
    · rintro c ⟨⟩
      decide
    · intro c mem
      rw [List.getLast?_concat] at mem
      obtain rfl := Option.some.inj mem
      decide
  rw [trim_append_right blankAfter, trim_append_left blankBefore, trim_of_bare bare]

/-! ## Texts without an instruction -/

namespace Text

theorem mem_of_mem_dropReturn {line : List Char} {c : Char} (mem : c ∈ dropReturn line) :
    c ∈ line := by
  unfold dropReturn at mem
  split at mem
  · rename_i rest ends
    have back : c ∈ line.reverse := ends ▸ List.mem_cons_of_mem _ (List.mem_reverse.mp mem)
    exact List.mem_reverse.mp back
  · exact mem

/-- Lines are made of the characters of the text. -/
theorem mem_of_mem_linesFrom {current s line : List Char} {c : Char}
    (is : line ∈ linesFrom current s) (mem : c ∈ line) : c ∈ current ∨ c ∈ s := by
  fun_induction linesFrom current s with
  | case1 current empty => cases is
  | case2 current more =>
    obtain rfl := List.mem_singleton.mp is
    exact .inl (List.mem_reverse.mp mem)
  | case3 current rest ih =>
    rcases List.mem_cons.mp is with rfl | later
    · exact .inl (List.mem_reverse.mp (mem_of_mem_dropReturn mem))
    · exact .inr (List.mem_cons_of_mem _ ((ih later).resolve_left List.not_mem_nil))
  | case4 current d rest _ ih =>
    rcases ih is with here | later
    · rcases List.mem_cons.mp here with rfl | before
      · exact .inr List.mem_cons_self
      · exact .inl before
    · exact .inr (List.mem_cons_of_mem _ later)

theorem mem_of_mem_trim {s : List Char} {c : Char} (mem : c ∈ trim s) : c ∈ s := by
  have back : c ∈ trimStart (trimStart s).reverse := List.mem_reverse.mp mem
  exact (List.dropWhile_sublist _).mem (List.mem_reverse.mp ((List.dropWhile_sublist _).mem back))

end Text

namespace Line

/-- A text has no instruction if instructions begin with none of its characters. -/
theorem instructions_eq_nil {s : List Char} (none : ∀ c ∈ s, isInstruction [c] = false) :
    instructions s = [] := by
  refine List.filter_eq_nil_iff.mpr fun line mem begins => ?_
  obtain ⟨row, is, rfl⟩ := List.mem_map.mp mem
  cases cut : trim row with
  | nil => rw [cut] at begins; cases begins
  | cons c rest =>
    have here : c ∈ row := mem_of_mem_trim (cut ▸ List.mem_cons_self)
    have within : c ∈ s := (mem_of_mem_linesFrom is here).resolve_left List.not_mem_nil
    have other : isInstruction (c :: rest) = false := none c within
    rw [cut, other] at begins
    cases begins

theorem isInstruction_of_isBlank {c : Char} (blank : isBlank c = true) :
    isInstruction [c] = false := by
  cases begins : isInstruction [c] with
  | false => rfl
  | true => cases blank.symm.trans (head_of_isInstruction begins c rfl)

end Line

/-! ## Compiling the text -/

namespace Script

section

variable {before after : List Char}

/-- A bracketed text is taken for a document if there is something between the brackets. -/
theorem isObjectText_between_brackets (inner : List Char) (blankBefore : Blanks before)
    (blankAfter : Blanks after) :
    isObjectText (before ++ ('\x7b' :: inner ++ ['\x7d']) ++ after) = !inner.isEmpty := by
  have long : decide (3 ≤ ('\x7b' :: inner ++ ['\x7d']).length) = !inner.isEmpty := by
    cases inner <;> simp
  have first : ('\x7b' :: inner ++ ['\x7d']).head? = some '\x7b' := rfl
  have last : ('\x7b' :: inner ++ ['\x7d']).getLast? = some '\x7d' := List.getLast?_concat
  simp only [isObjectText, trim_between_brackets inner blankBefore blankAfter, long, first, last,
    beq_self_eq_true, Bool.and_true]

/-- Brackets with nothing between them, and blanks around them, are no instructions. -/
theorem steps_of_brackets (blankBefore : Blanks before) (blankAfter : Blanks after) :
    Line.steps (String.ofList (before ++ ['\x7b', '\x7d'] ++ after)) = [] := by
  rw [Line.steps, String.toList_ofList, Line.instructions_eq_nil, List.map_nil]
  simp only [List.mem_append, List.mem_cons, List.not_mem_nil, or_false]
  rintro c ((blank | rfl | rfl) | blank)
  · exact Line.isInstruction_of_isBlank (blankBefore c blank)
  · decide
  · decide
  · exact Line.isInstruction_of_isBlank (blankAfter c blank)

variable {fields : List (String × Json)}

/-- The text of an object compiles to the steps of the object, in every layout. -/
theorem compile_layout (l : Json.Layout)
    (readable : Json.Readable Json.deepest (.object fields)) (whole : (Json.object fields).Whole)
    (blankBefore : Blanks before) (blankAfter : Blanks after) :
    let script := Json.string (String.ofList (before ++ l.text 0 (.object fields) ++ after))
    compile script =
      (ofObject (.object fields), if fields = [] then script else .object fields) := by
  intro script
  obtain ⟨inner, text, nothing⟩ := l.exists_between_brackets 0 fields
  have shape := isObjectText_between_brackets inner blankBefore blankAfter
  by_cases none : fields = []
  · obtain rfl := nothing.mpr none
    subst none
    have lines : Line.steps (String.ofList (before ++ l.text 0 (.object []) ++ after)) = [] := by
      rw [text]
      exact steps_of_brackets blankBefore blankAfter
    rw [← text] at shape
    simp only [script, compile, String.toList_ofList, shape, lines, List.isEmpty_nil, Bool.not_true,
      Bool.false_eq_true, if_false, if_true]
    rfl
  · have some : inner.isEmpty = false := List.isEmpty_eq_false_iff.mpr (mt nothing.mp none)
    have read : Json.parse (String.ofList (l.text 0 (.object fields))) = .ok (.object fields) :=
      l.parse_text readable whole.exact
    rw [if_neg none, compile, String.toList_ofList, text, shape, some,
      trim_between_brackets inner blankBefore blankAfter, ← text, read]
    rfl

/-- The steps of an object are in its list of steps, if it has one; anything else in the place of
that list is a fault, and the only one. -/
theorem ofObject_eq_error_iff {script : Json} {e : Failure} :
    ofObject script = .error e ↔
      e = .validation "Script 'steps' must be a list" ∧
        ∃ w, script.field? "steps" = some w ∧ w ≠ .null ∧ ∀ items, w ≠ .array items := by
  unfold ofObject
  split
  · rename_i none
    simp [none]
  · rename_i null
    simp [null]
  · rename_i items list
    simp [list]
  · rename_i w null list found
    simp only [found, Option.some.injEq, exists_eq_left', Except.error.injEq, eq_comm (b := e)]
    exact ⟨fun same => ⟨same, null, list⟩, And.left⟩

/-- What the two printers write is the text of a layout. -/
theorem exists_layout {v : Json} {text : String} (printed : text = v.print ∨ text = v.printTabbed) :
    ∃ l : Json.Layout, text = String.ofList (l.text 0 v) := by
  rcases printed with rfl | rfl
  · exact ⟨.tight, rfl⟩
  · exact ⟨.byLines ['\t'] (List.forall_mem_singleton.mpr rfl), rfl⟩

/-- The text of an object that can be read and whose numbers are whole, printed either way and with
any blanks around it, gives the steps that the object gives, or fails as it does: when there is
something else than a list where the steps should be. The object is kept in place of its text, but
for the text of the object without fields, which stays. -/
theorem object_text_compiles (readable : Json.Readable Json.deepest (.object fields))
    (whole : (Json.object fields).Whole) {text before after : String}
    (printed : text = (Json.object fields).print ∨ text = (Json.object fields).printTabbed)
    (blankBefore : Blanks before.toList) (blankAfter : Blanks after.toList) :
    let v := Json.object fields
    let script := Json.string (before ++ text ++ after)
    (compile script).1 = (compile v).1 ∧ (compile v).2 = v ∧
      (∀ e, (compile script).1 = .error e ↔
        e = .validation "Script 'steps' must be a list" ∧
          ∃ w, v.field? "steps" = some w ∧ w ≠ .null ∧ ∀ items, w ≠ .array items) ∧
      (fields ≠ [] → (compile script).2 = v) ∧
      (fields = [] → text = "\x7b\x7d" ∧ (compile script).2 = script) := by
  intro v script
  obtain ⟨l, rfl⟩ := exists_layout printed
  have padded : script =
      .string (String.ofList (before.toList ++ l.text 0 v ++ after.toList)) := by
    simp only [script, v, String.ofList_append, String.ofList_toList]
  have compiled : compile script = (ofObject v, if fields = [] then script else v) := by
    rw [padded]
    exact compile_layout l readable whole blankBefore blankAfter
  have itself : compile v = (ofObject v, v) := rfl
  rw [compiled, itself]
  refine ⟨rfl, rfl, fun e => ofObject_eq_error_iff, fun some => if_neg some, ?_⟩
  rintro rfl
  exact ⟨by rw [l.object]; rfl, rfl⟩

/-- A pause, laid out by tabs, after an ideographic space and before a line feed. -/
theorem object_text_compiles_pause :
    let pause := Json.object [("duration", .ofNat 5), ("type", .string "sleep")]
    let v := Json.object [("steps", .array [pause])]
    let text := "\x7b\n\t\"steps\": [\n\t\t\x7b\n\t\t\t\"duration\": 5,\n\t\t\t\"type\": " ++
      "\"sleep\"\n\t\t\x7d\n\t]\n\x7d"
    text = v.printTabbed ∧
      compile (.string ("\u3000" ++ text ++ "\n")) = (.ok [.sleep ⟨some 5⟩], v) := by
  intro pause v text
  have printed : text = v.printTabbed := by decide +kernel
  have readable : Json.Readable Json.deepest v := by
    refine .object (List.pairwise_singleton _ _) (List.forall_mem_singleton.mpr
      (.array (List.forall_mem_singleton.mpr (.object (List.pairwise_pair.mpr (by decide)) ?_))))
    simp only [List.mem_cons, List.not_mem_nil, or_false]
    rintro w (rfl | rfl) <;> exact .scalar rfl
  have whole : v.Whole := by
    refine .object (List.forall_mem_singleton.mpr
      (.array (List.forall_mem_singleton.mpr (.object ?_))))
    simp only [List.mem_cons, List.not_mem_nil, or_false]
    rintro w (rfl | rfl)
    · exact .number _
    · exact .string _
  have blankBefore : Blanks "\u3000".toList := by decide
  have blankAfter : Blanks "\n".toList := by decide
  obtain ⟨steps, -, -, kept, -⟩ :=
    object_text_compiles readable whole (.inr printed) blankBefore blankAfter
  refine ⟨printed, Prod.ext (steps.trans ?_) (kept (List.cons_ne_nil _ _))⟩
  rfl

end

end Script

end PageScript
