import PageScript.Locator
import PageScript.Proofs.Text.Trimming

/-!
# Spellings of locators

Apart from the mark of a pierced shadow root, a raw selector begins with the mark of a way to find
an element, or with no mark. `Spells` lists the texts that stand for each locator, and a raw
selector is classified as the locator that it spells (`classifyChars_eq_some_iff`). What holds of
every classification is read off the spellings, one case for each: what a locator may look for
(`vain_classified_iff`), and which spelling of it is classified as itself (`classify_canonical`).

**What it does not establish.** Whether CSS or a path is well formed, and what it finds in a page,
is left to the page.
-/

namespace PageScript

open Text

namespace Locator

variable {raw core rest : List Char} {l : Locator}

/-! ## The mark of a pierced shadow root -/

/-- The mark of a pierced shadow root is dropped. -/
theorem unpierced_append (raw : List Char) : unpierced ("pierce/".toList ++ raw) = raw := by
  rw [unpierced, after?_append, Option.getD_some]

/-- A selector without that mark is left as it is. -/
theorem unpierced_of_other (other : ¬ "pierce/".toList <+: raw) : unpierced raw = raw := by
  rw [unpierced, after?_eq_none_iff.mpr other, Option.getD_none]

/-- A text without the mark of a pierced shadow root is what it was, or had that mark. -/
theorem eq_or_eq_of_unpierced (raw : List Char) :
    raw = unpierced raw ∨ raw = "pierce/".toList ++ unpierced raw := by
  by_cases marked : "pierce/".toList <+: raw
  · obtain ⟨rest, rfl⟩ := marked
    rw [unpierced_append]
    exact .inr rfl
  · exact .inl (unpierced_of_other marked).symm

/-! ## Deep combinators -/

/-- Every character of a text stays when its deep combinators are rewritten. -/
theorem mem_joinCombinators {c : Char} (mem : c ∈ raw) : c ∈ joinCombinators raw := by
  fun_induction joinCombinators raw with
  | case1 rest ih =>
    simp only [List.mem_cons] at mem ⊢
    tauto
  | case2 d rest _ ih =>
    exact List.mem_cons.mpr ((List.mem_cons.mp mem).imp_right ih)
  | case3 => exact mem

/-! ## Spellings -/

/-- What a selector of a marked way begins with. -/
def wayMarks : List (List Char) :=
  ["aria/".toList, "text/".toList, "xpath/".toList]

/-- What a bare XPath expression begins with. -/
def pathMarks : List (List Char) :=
  ["//".toList, "(//".toList]

/-- The spellings of a locator, leaving aside the mark of a pierced shadow root. -/
inductive Spells : Locator → List Char → Prop where
  | label {rest : List Char} (filled : trim rest ≠ []) (definite : trim rest ≠ ['*']) :
    Spells (.label (String.ofList (trim rest))) ("aria/".toList ++ rest)
  | text {rest : List Char} (filled : rest ≠ []) (definite : rest ≠ ['*']) :
    Spells (.text (String.ofList rest)) ("text/".toList ++ rest)
  /-- An expression after any number of slashes. -/
  | expression {rest : List Char} (filled : ¬ Blanks (rest.dropWhile (· == '/'))) :
    Spells (.xpath (String.ofList ('/' :: '/' :: rest.dropWhile (· == '/'))))
      ("xpath/".toList ++ rest)
  | path {raw : List Char} (opens : ∃ mark ∈ pathMarks, mark <+: raw) :
    Spells (.xpath (String.ofList raw)) raw
  | css {raw : List Char} (filled : ¬ Blanks raw)
      (unmarked : ∀ mark ∈ wayMarks ++ pathMarks, ¬ mark <+: raw) :
    Spells (.css (String.ofList (joinCombinators raw))) raw

/-- All characters are blank in the sense of the classification if and only if they are blanks. -/
theorem allBlank_iff {s : List Char} : allBlank s = true ↔ Blanks s :=
  List.all_eq_true

/-- What follows `aria/` is a label if it is neither blank nor a star; the label is trimmed. -/
theorem ofLabel?_eq_some_iff :
    ofLabel? rest = some l ↔
      trim rest ≠ [] ∧ trim rest ≠ ['*'] ∧ l = .label (String.ofList (trim rest)) := by
  simp [ofLabel?, and_assoc, eq_comm (a := l)]

/-- What follows `text/` is a text unless it is empty or a star; it is not trimmed. -/
theorem ofText?_eq_some_iff :
    ofText? rest = some l ↔ rest ≠ [] ∧ rest ≠ ['*'] ∧ l = .text (String.ofList rest) := by
  simp [ofText?, and_assoc, eq_comm (a := l)]

/-- What follows `xpath/` is an expression unless nothing but slashes and blanks is left of it. -/
theorem ofExpression?_eq_some_iff :
    ofExpression? rest = some l ↔ ¬ Blanks (rest.dropWhile (· == '/')) ∧
      l = .xpath (String.ofList ('/' :: '/' :: rest.dropWhile (· == '/'))) := by
  simp [ofExpression?, ← allBlank_iff, eq_comm (a := l)]

/-- Without a mark of a way, a selector is a path if it begins like one, and else it is CSS. -/
theorem ofPlain_eq (core : List Char) :
    ofPlain core = if ∃ mark ∈ pathMarks, mark <+: core then .xpath (String.ofList core)
      else .css (String.ofList (joinCombinators core)) := by
  simp only [ofPlain, pathMarks, Bool.or_eq_true, List.isPrefixOf_iff_prefix, List.mem_cons,
    List.not_mem_nil, or_false, exists_eq_or_imp, exists_eq_left]

/-- A text without the mark of a way is an XPath expression or CSS, by what it begins with. -/
theorem spells_ofPlain (filled : ¬ Blanks core) (unmarked : ∀ mark ∈ wayMarks, ¬ mark <+: core) :
    Spells (ofPlain core) core := by
  rw [ofPlain_eq]
  split
  · rename_i path
    exact .path path
  · rename_i other
    refine .css filled fun mark mem opens => ?_
    rcases List.mem_append.mp mem with way | path
    · exact unmarked mark way opens
    · exact other ⟨mark, path, opens⟩

/-- A selector that is classified spells the locator it is classified as. -/
theorem spells_of_classifyChars (classified : classifyChars raw = some l) :
    Spells l (unpierced raw) := by
  unfold classifyChars at classified
  generalize unpierced raw = core at classified ⊢
  dsimp only at classified
  split at classified
  · cases classified
  rename_i filled
  split at classified
  · rename_i rest found
    obtain rfl := after?_eq_some_iff.mp found
    obtain ⟨filled, definite, rfl⟩ := ofLabel?_eq_some_iff.mp classified
    exact .label filled definite
  rename_i noLabel
  split at classified
  · rename_i rest found
    obtain rfl := after?_eq_some_iff.mp found
    obtain ⟨filled, definite, rfl⟩ := ofText?_eq_some_iff.mp classified
    exact .text filled definite
  rename_i noText
  split at classified
  · rename_i rest found
    obtain rfl := after?_eq_some_iff.mp found
    obtain ⟨filled, rfl⟩ := ofExpression?_eq_some_iff.mp classified
    exact .expression filled
  rename_i noExpression
  cases classified
  refine spells_ofPlain (mt allBlank_iff.mpr filled) ?_
  simp only [wayMarks, List.forall_mem_cons, List.not_mem_nil, false_imp_iff, implies_true,
    and_true]
  exact ⟨after?_eq_none_iff.mp noLabel, after?_eq_none_iff.mp noText,
    after?_eq_none_iff.mp noExpression⟩

/-- A selector with the mark `aria/` is classified by what follows. -/
theorem classifyChars_label (same : unpierced raw = "aria/".toList ++ rest) :
    classifyChars raw = ofLabel? rest := by
  rw [classifyChars, same]
  rfl

/-- A selector with the mark `text/` is classified by what follows. -/
theorem classifyChars_text (same : unpierced raw = "text/".toList ++ rest) :
    classifyChars raw = ofText? rest := by
  rw [classifyChars, same]
  rfl

/-- A selector with the mark `xpath/` is classified by what follows. -/
theorem classifyChars_expression (same : unpierced raw = "xpath/".toList ++ rest) :
    classifyChars raw = ofExpression? rest := by
  rw [classifyChars, same]
  rfl

/-- A selector with no mark that is not blank is a path or CSS. -/
theorem classifyChars_of_plain (same : unpierced raw = core) (filled : ¬ Blanks core)
    (unmarked : ∀ mark ∈ wayMarks, ¬ mark <+: core) : classifyChars raw = some (ofPlain core) := by
  simp only [wayMarks, List.forall_mem_cons, List.not_mem_nil, false_imp_iff, implies_true,
    and_true] at unmarked
  obtain ⟨noLabel, noText, noExpression⟩ := unmarked
  simp only [classifyChars, same, after?_eq_none_iff.mpr noLabel, after?_eq_none_iff.mpr noText,
    after?_eq_none_iff.mpr noExpression, if_neg (mt allBlank_iff.mp filled)]

/-- What begins as a bare XPath expression is not blank and has no mark of a way. -/
theorem plain_of_path (opens : ∃ mark ∈ pathMarks, mark <+: core) :
    ¬ Blanks core ∧ ∀ mark ∈ wayMarks, ¬ mark <+: core := by
  obtain ⟨mark, mem, rest, rfl⟩ := opens
  simp only [pathMarks, List.mem_cons, List.not_mem_nil, or_false] at mem
  constructor
  · intro blanks
    have slash : '/' ∈ mark ++ rest := by rcases mem with rfl | rfl <;> simp
    cases blanks '/' slash
  · rcases mem with rfl | rfl <;> simp [wayMarks]

/-- A selector is classified as the locator that it spells, with or without the mark of a pierced
shadow root before it. -/
theorem classifyChars_eq_some_iff : classifyChars raw = some l ↔ Spells l (unpierced raw) := by
  refine ⟨spells_of_classifyChars, fun spells => ?_⟩
  generalize same : unpierced raw = core at spells
  cases spells with
  | label filled definite =>
    rw [classifyChars_label same]
    exact ofLabel?_eq_some_iff.mpr ⟨filled, definite, rfl⟩
  | text filled definite =>
    rw [classifyChars_text same]
    exact ofText?_eq_some_iff.mpr ⟨filled, definite, rfl⟩
  | expression filled =>
    rw [classifyChars_expression same]
    exact ofExpression?_eq_some_iff.mpr ⟨filled, rfl⟩
  | path opens =>
    obtain ⟨filled, unmarked⟩ := plain_of_path opens
    rw [classifyChars_of_plain same filled unmarked, ofPlain_eq, if_pos opens]
  | css filled unmarked =>
    obtain ⟨noWay, noPath⟩ := List.forall_mem_append.mp unmarked
    have noPath : ¬ ∃ mark ∈ pathMarks, mark <+: core := fun ⟨mark, mem, opens⟩ =>
      noPath mark mem opens
    rw [classifyChars_of_plain same filled noWay, ofPlain_eq, if_neg noPath]

/-- A selector is classified as exactly the locator that it spells. -/
theorem classify_eq_some_iff {raw : String} :
    classify raw = some l ↔ Spells l (unpierced raw.toList) :=
  classifyChars_eq_some_iff

/-! ## Locators that cannot identify anything -/

/-- A locator that cannot identify an element: what it looks for is blank, or a wildcard where a
label or a text is meant. -/
inductive Vain : Locator → Prop where
  | blank {l : Locator} (blank : trim l.value.toList = []) : Vain l
  | anyLabel {value : String} (wildcard : trim value.toList = ['*']) : Vain (.label value)
  | anyText {value : String} (wildcard : trim value.toList = ['*']) : Vain (.text value)

/-- Only the spelling of a visible text can be the one of a locator that cannot identify anything:
the blanks around a text are kept, and so a text of blanks passes for one that is not empty. -/
theorem Spells.exists_text_of_vain (spells : Spells l core) (vain : l.Vain) :
    ∃ rest, core = "text/".toList ++ rest ∧ (trim rest = [] ∨ trim rest = ['*']) := by
  cases spells with
  | @label rest filled definite =>
    have trimmed : trim (String.ofList (trim rest)).toList = trim rest := by
      rw [String.toList_ofList, trim_trim]
    cases vain with
    | blank blank => exact absurd (trimmed.symm.trans blank) filled
    | anyLabel wildcard => exact absurd (trimmed.symm.trans wildcard) definite
  | @text rest filled definite =>
    refine ⟨rest, rfl, ?_⟩
    cases vain with
    | blank blank =>
      rw [value, String.toList_ofList] at blank
      exact .inl blank
    | anyText wildcard =>
      rw [String.toList_ofList] at wildcard
      exact .inr wildcard
  | expression filled =>
    cases vain with
    | blank blank =>
      rw [value, String.toList_ofList, trim_eq_nil_iff] at blank
      -- The slashes that are put before an expression are no blanks.
      cases blank '/' List.mem_cons_self
  | path opens =>
    cases vain with
    | blank blank =>
      rw [value, String.toList_ofList, trim_eq_nil_iff] at blank
      exact absurd blank (plain_of_path opens).1
  | css filled unmarked =>
    cases vain with
    | blank blank =>
      rw [value, String.toList_ofList, trim_eq_nil_iff] at blank
      exact absurd (fun c mem => blank c (mem_joinCombinators mem)) filled

/-- A selector is a mark and what follows it, or that after the mark of a pierced shadow root. -/
def Carries (raw mark rest : String) : Prop :=
  raw = mark ++ rest ∨ raw = "pierce/" ++ mark ++ rest

/-- A selector that reads so once the mark of a pierced shadow root is dropped carries the mark. -/
theorem carries_of_unpierced {raw mark : String}
    (same : unpierced raw.toList = mark.toList ++ rest) :
    Carries raw mark (String.ofList rest) := by
  rcases eq_or_eq_of_unpierced raw.toList with whole | whole
  · refine .inl (String.toList_inj.mp ?_)
    rw [whole, same, String.toList_append, String.toList_ofList (l := rest)]
  · refine .inr (String.toList_inj.mp ?_)
    rw [whole, same, String.toList_append, String.toList_append, List.append_assoc,
      String.toList_ofList (l := rest)]

/-- What a selector carries after a mark is what is left once the mark of a pierced shadow root is
dropped. -/
theorem Carries.unpierced {raw mark rest : String} (carries : Carries raw mark rest)
    (other : Locator.unpierced (mark.toList ++ rest.toList) = mark.toList ++ rest.toList) :
    Locator.unpierced raw.toList = mark.toList ++ rest.toList := by
  rcases carries with rfl | rfl
  · rw [String.toList_append, other]
  · rw [String.toList_append, String.toList_append, List.append_assoc, unpierced_append]

/-- A selector with the mark of visible texts is classified as what follows the mark, blanks
included, unless that is nothing or the wildcard. -/
theorem Carries.classify_text_iff {raw text : String} (carries : Carries raw "text/" text) :
    classify raw = some l ↔ text.toList ≠ [] ∧ text.toList ≠ ['*'] ∧ l = .text text := by
  rw [classify, classifyChars_text (carries.unpierced rfl), ofText?_eq_some_iff,
    String.ofList_toList]

/-- An XPath expression after its mark is classified as what comes after all slashes, with two of
them before it. -/
theorem Carries.classify_expression {raw rest e : String} (carries : Carries raw "xpath/" rest)
    (bare : rest.toList.dropWhile (· == '/') = e.toList) :
    classify raw = if allBlank e.toList then none else some (.xpath ("//" ++ e)) := by
  have slashes : String.ofList ('/' :: '/' :: e.toList) = "//" ++ e :=
    String.toList_inj.mp (by rw [String.toList_ofList, String.toList_append]; rfl)
  rw [classify, classifyChars_expression (carries.unpierced rfl), ofExpression?, bare, slashes]

namespace Spells

variable {v : String}

/-- A label is trimmed, not empty and not a star. -/
theorem of_label (spells : Spells (.label v) core) :
    trim v.toList = v.toList ∧ v.toList ≠ [] ∧ v.toList ≠ ['*'] := by
  cases spells with
  | label filled definite =>
    rw [String.toList_ofList]
    exact ⟨trim_trim _, filled, definite⟩

/-- A text is not empty and not a star. -/
theorem of_text (spells : Spells (.text v) core) : v.toList ≠ [] ∧ v.toList ≠ ['*'] := by
  cases spells with
  | text filled definite =>
    rw [String.toList_ofList]
    exact ⟨filled, definite⟩

/-- An XPath expression begins as one, whether its mark or its beginning made it one. -/
theorem of_xpath (spells : Spells (.xpath v) core) : ∃ mark ∈ pathMarks, mark <+: v.toList := by
  cases spells with
  | expression filled =>
    exact ⟨"//".toList, List.mem_cons_self, _, String.toList_ofList.symm⟩
  | path opens =>
    rwa [String.toList_ofList]

end Spells

/-- Classifying gives a locator that cannot identify anything exactly for the texts of blanks, and
of a wildcard with blanks around it, behind the mark of visible texts. Every other locator it gives
looks for something; an XPath expression is one by its beginning. -/
theorem vain_classified_iff (raw : String) :
    ((∃ l, classify raw = some l ∧ l.Vain) ↔
      ∃ text, Carries raw "text/" text ∧ text.toList ≠ [] ∧ text.toList ≠ ['*'] ∧
        (trim text.toList = [] ∨ trim text.toList = ['*'])) ∧
    ∀ x, classify raw = some (.xpath x) →
      (∃ mark ∈ ["//", "(//"], mark.toList <+: x.toList) ∧
        ∀ rest, Carries raw "xpath/" rest → ∃ e, x = "//" ++ e ∧ ¬ Blanks e.toList := by
  refine ⟨⟨?_, ?_⟩, fun x classified => ⟨?_, fun rest carries => ?_⟩⟩
  · rintro ⟨l, classified, vain⟩
    obtain ⟨rest, same, useless⟩ := (classify_eq_some_iff.mp classified).exists_text_of_vain vain
    have carries := carries_of_unpierced same
    obtain ⟨filled, definite, -⟩ := carries.classify_text_iff.mp classified
    refine ⟨String.ofList rest, carries, filled, definite, ?_⟩
    rwa [String.toList_ofList]
  · rintro ⟨text, carries, filled, definite, useless⟩
    refine ⟨.text text, carries.classify_text_iff.mpr ⟨filled, definite, rfl⟩, ?_⟩
    rcases useless with blank | wildcard
    · exact .blank (l := .text text) blank
    · exact .anyText wildcard
  · have opens := (classify_eq_some_iff.mp classified).of_xpath
    simpa [pathMarks] using opens
  · rw [carries.classify_expression String.toList_ofList.symm] at classified
    split at classified
    · cases classified
    · rename_i filled
      cases classified
      exact ⟨_, rfl, mt allBlank_iff.mpr filled⟩

/-- An expression behind both marks, with a slash too many. -/
theorem vain_classified_iff_division :
    classify "pierce/xpath///div" = some (.xpath "//div") ∧
      ∃ e, "//div" = "//" ++ e ∧ ¬ Blanks e.toList := by
  have classified : classify "pierce/xpath///div" = some (.xpath "//div") := by decide
  exact ⟨classified, ((vain_classified_iff _).2 _ classified).2 "//div" (.inr rfl)⟩

/-- A text of blanks is classified as a text to look for, though no text is left of it. -/
theorem blank_text_classified :
    classify "text/ " = some (.text " ") ∧ (Locator.text " ").Vain :=
  ⟨by decide, .blank (by decide)⟩

/-! ## Canonical spellings -/

/-- A path does not begin with the mark of a pierced shadow root. -/
theorem unpierced_of_path (opens : ∃ mark ∈ pathMarks, mark <+: core) : unpierced core = core := by
  obtain ⟨mark, mem, rest, rfl⟩ := opens
  simp only [pathMarks, List.mem_cons, List.not_mem_nil, or_false] at mem
  rcases mem with rfl | rfl <;> rfl

/-- Slashes before an expression that begins with none are all dropped. -/
theorem dropWhile_slashes {e : List Char} (bare : e.head? ≠ some '/') (n : Nat) :
    (List.replicate n '/' ++ e).dropWhile (· == '/') = e := by
  rw [List.dropWhile_append_of_pos fun c mem => by simp [List.eq_of_mem_replicate mem]]
  cases e with
  | nil => rfl
  | cons c rest => exact List.dropWhile_cons_of_neg (by simpa using bare)

/-- Only what is left without the mark of a pierced shadow root counts. -/
theorem classify_congr {raw raw' : String}
    (same : unpierced raw.toList = unpierced raw'.toList) : classify raw = classify raw' := by
  simp only [classify, classifyChars, same]

/-- A locator that a selector was classified as has a spelling of its own, its mark with what it
looks for, which is classified as that locator again. The slashes before an expression do not count,
and neither does the mark of a pierced shadow root. -/
theorem classify_canonical (raw : String) :
    (∀ label, classify raw = some (.label label) →
      classify ("aria/" ++ label) = some (.label label)) ∧
    (∀ text, classify raw = some (.text text) → classify ("text/" ++ text) = some (.text text)) ∧
    (∀ x, classify raw = some (.xpath x) → classify x = some (.xpath x)) ∧
    (∀ e : String, e.toList.head? ≠ some '/' → ∀ n,
      classify ("xpath/" ++ String.ofList (List.replicate n '/') ++ e) =
        if allBlank e.toList then none else some (.xpath ("//" ++ e))) ∧
    (¬ "pierce/".toList <+: raw.toList → classify ("pierce/" ++ raw) = classify raw) := by
  refine ⟨fun label classified => ?_, fun text classified => ?_, fun x classified => ?_,
    fun e bare n => ?_, fun other => ?_⟩
  · obtain ⟨trimmed, filled, definite⟩ := (classify_eq_some_iff.mp classified).of_label
    have carries : Carries ("aria/" ++ label) "aria/" label := .inl rfl
    rw [classify, classifyChars_label (carries.unpierced rfl), ofLabel?_eq_some_iff, trimmed,
      String.ofList_toList]
    exact ⟨filled, definite, rfl⟩
  · obtain ⟨filled, definite⟩ := (classify_eq_some_iff.mp classified).of_text
    have carries : Carries ("text/" ++ text) "text/" text := .inl rfl
    exact carries.classify_text_iff.mpr ⟨filled, definite, rfl⟩
  · have opens := (classify_eq_some_iff.mp classified).of_xpath
    have spells := Spells.path opens
    rw [String.ofList_toList] at spells
    rwa [classify_eq_some_iff, unpierced_of_path opens]
  · refine Carries.classify_expression (.inl (String.append_assoc ..)) ?_
    rw [String.toList_append, String.toList_ofList, dropWhile_slashes bare]
  · refine classify_congr ?_
    rw [String.toList_append, unpierced_append, unpierced_of_other other]

/-- A label and a text with blanks around them, an expression, and CSS. -/
theorem classify_canonical_padded :
    classify "pierce/aria/ Email " = some (.label "Email") ∧
      classify ("aria/" ++ "Email") = some (.label "Email") ∧
      classify ("text/" ++ " Sign in") = some (.text " Sign in") ∧
      classify "xpath/div" = some (.xpath "//div") ∧ classify "//div" = some (.xpath "//div") ∧
      classify ("xpath/" ++ String.ofList (List.replicate 3 '/') ++ "div") = some (.xpath "//div") ∧
      classify ("pierce/" ++ "a >>> b") = some (.css "a >> b") := by
  have label : classify "pierce/aria/ Email " = some (.label "Email") := by decide
  have text : classify "pierce/text/ Sign in" = some (.text " Sign in") := by decide
  have path : classify "xpath/div" = some (.xpath "//div") := by decide
  have css : classify "a >>> b" = some (.css "a >> b") := by decide
  refine ⟨label, (classify_canonical _).1 _ label, (classify_canonical _).2.1 _ text, path,
    (classify_canonical _).2.2.1 _ path, ?_, ?_⟩
  · exact (classify_canonical "").2.2.2.1 "div" (by decide) 3
  · exact ((classify_canonical "a >>> b").2.2.2.2 (by decide)).trans css

end Locator

end PageScript
