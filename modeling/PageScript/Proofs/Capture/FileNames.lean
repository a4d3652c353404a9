import Mathlib.Data.List.TakeWhile
import PageScript.Capture.FileName
import PageScript.Proofs.Text.WordChars

/-!
# Names of downloads are single names

What is not safe in a name is squeezed out, and lower case keeps what is safe. So whatever address
and content type a response has, its name is made of word characters, hyphens and points only
(`isSafe_of_mem_derive`), and there is no slash in it (`slash_not_mem_derive`): it names a file of
one directory. Where the address gives the name no ending, the content type does, if it begins with
a type and a subtype (`derive_spelled`).

**What it does not establish.** Not every name is usable: it may be empty, or consist of one or two
points.
-/

namespace PageScript.FileName

open Text

variable {url contentType : String} {name word : List Char} {c : Char}

/-! ## Safe characters -/

/-- Word characters, hyphens and points are safe, and nothing else is. -/
theorem isSafe_iff : isSafe c = true ↔ isWordChar c = true ∨ c = '-' ∨ c = '.' := by
  simp only [isSafe, Bool.or_eq_true, beq_iff_eq, or_assoc]

/-- A safe character is plain. -/
theorem plain_of_isSafe (safe : isSafe c = true) : Plain c := by
  rcases isSafe_iff.mp safe with word | rfl | rfl
  · exact plain_of_isWordChar word
  · decide
  · decide

/-- A safe character stays safe in lower case. -/
theorem isSafe_of_mem_lowercaseChar (safe : isSafe c = true) :
    ∀ d ∈ lowercaseChar c, isSafe d = true := by
  intro d mem
  rcases isSafe_iff.mp safe with word | rfl | rfl
  · exact isSafe_iff.mpr (.inl (isWordChar_of_mem_lowercaseChar word mem))
  · rw [lowercaseChar_of_low (by decide)] at mem
    rwa [List.mem_singleton.mp mem]
  · rw [lowercaseChar_of_low (by decide)] at mem
    rwa [List.mem_singleton.mp mem]

/-- What is left between the squeezed characters is safe, and so is what stands for them. -/
theorem isSafe_of_mem_squeezeFrom {inRun : Bool} {s : List Char}
    (mem : c ∈ squeezeFrom inRun s) : isSafe c = true := by
  induction s generalizing inRun with
  | nil => cases mem
  | cons d rest ih =>
    unfold squeezeFrom at mem
    split at mem
    · rename_i safe
      rcases List.mem_cons.mp mem with rfl | later
      · exact safe
      · exact ih later
    split at mem
    · exact ih mem
    · rcases List.mem_cons.mp mem with rfl | later
      · exact isSafe_iff.mpr (.inl (isWordChar_of_substitute (show 0x5F ∈ substitutes by decide)))
      · exact ih later

/-- The stem of a name is made of safe characters. -/
theorem isSafe_of_mem_stem (url : String) : ∀ c ∈ stem url, isSafe c = true := by
  refine forall_mem_lowercaseAfter (fun _ => isSafe_of_mem_lowercaseChar) ?_
    (fun _ => isSafe_of_mem_squeezeFrom) []
  intro code sigma
  have among : ∀ code ∈ [0x3C2, 0x3C3], code ∈ substitutes := by decide
  exact isSafe_iff.mpr (.inl (isWordChar_of_substitute (among code sigma)))

/-! ## Endings -/

/-- A name ends in a point and a word. -/
def EndsInWord (name : List Char) : Prop :=
  ∃ front word : List Char,
    name = front ++ '.' :: word ∧ word ≠ [] ∧ ∀ c ∈ word, isWordChar c = true

/-- A point is no word character. -/
theorem isWordChar_point : isWordChar '.' = false :=
  isWordChar_of_strange (by decide)

/-- A name is what stands before its last word, and that word. -/
theorem eq_front_append_word (name : List Char) :
    name = (name.reverse.dropWhile isWordChar).reverse ++
      (name.reverse.takeWhile isWordChar).reverse := by
  rw [← List.reverse_append, List.takeWhile_append_dropWhile, List.reverse_reverse]

/-- As there is no point within a word, the longest word at the end of a name is the only one that
can follow a point. -/
theorem hasEnding_iff : hasEnding name = true ↔ EndsInWord name := by
  simp only [hasEnding, Bool.and_eq_true, Bool.not_eq_true', List.isEmpty_eq_false_iff,
    beq_iff_eq]
  constructor
  · rintro ⟨filled, point⟩
    obtain ⟨front, before⟩ := List.head?_eq_some_iff.mp point
    refine ⟨front.reverse, (name.reverse.takeWhile isWordChar).reverse, ?_, ?_, ?_⟩
    · have parts := eq_front_append_word name
      rwa [before, List.reverse_cons, List.append_assoc, List.singleton_append] at parts
    · exact List.reverse_ne_nil_iff.mpr filled
    · exact fun c mem => List.mem_takeWhile_imp (List.mem_reverse.mp mem)
  · rintro ⟨front, word, rfl, filled, all⟩
    have reversed : (front ++ '.' :: word).reverse = word.reverse ++ '.' :: front.reverse := by
      rw [List.reverse_append, List.reverse_cons, List.append_assoc, List.singleton_append]
    have all' : ∀ c ∈ word.reverse, isWordChar c = true :=
      fun c mem => all c (List.mem_reverse.mp mem)
    have point : ¬ isWordChar '.' = true := Bool.eq_false_iff.mp isWordChar_point
    rw [reversed, List.takeWhile_append_of_pos all', List.dropWhile_append_of_pos all',
      List.takeWhile_cons_of_neg point, List.dropWhile_cons_of_neg point, List.append_nil]
    exact ⟨List.reverse_ne_nil_iff.mpr filled, rfl⟩

/-! ## Content types -/

/-- A content type begins with a word, a slash and a word. -/
def Typed (contentType : List Char) : Prop :=
  ∃ (type : List Char) (c : Char) (rest : List Char),
    contentType = type ++ '/' :: c :: rest ∧
      type ≠ [] ∧ (∀ d ∈ type, isWordChar d = true) ∧ isWordChar c = true

/-- A slash is no word character. -/
theorem isWordChar_slash : isWordChar '/' = false :=
  isWordChar_of_strange (by decide)

/-- A content type has a subtype if a slash stands between word characters, the type before it; the
subtype is the run of word characters after it. -/
theorem subtype?_eq_some_iff :
    subtype? contentType = some word ↔
      ∃ (type : List Char) (c : Char) (rest : List Char),
        contentType.toList = type ++ '/' :: c :: rest ∧
          (type ≠ [] ∧ (∀ d ∈ type, isWordChar d = true) ∧ isWordChar c = true) ∧
            word = c :: rest.takeWhile isWordChar := by
  constructor
  · unfold subtype?
    dsimp only
    split
    · rename_i rest after
      split
      · exact nofun
      · rename_i filled
        rintro ⟨⟩
        rw [Bool.or_eq_true, not_or, List.isEmpty_iff, List.isEmpty_iff] at filled
        cases rest with
        | nil => exact absurd rfl filled.2
        | cons c rest =>
          have word : isWordChar c = true := by
            by_contra other
            exact filled.2 (List.takeWhile_cons_of_neg other)
          refine ⟨contentType.toList.takeWhile isWordChar, c, rest, ?_, ⟨filled.1, ?_, word⟩, ?_⟩
          · rw [← after, List.takeWhile_append_dropWhile]
          · exact fun d mem => List.mem_takeWhile_imp mem
          · exact List.takeWhile_cons_of_pos word
    · exact nofun
  · rintro ⟨type, c, rest, spelled, ⟨filled, all, word⟩, rfl⟩
    have slash : ¬ isWordChar '/' = true := Bool.eq_false_iff.mp isWordChar_slash
    unfold subtype?
    dsimp only
    rw [spelled, List.dropWhile_append_of_pos all, List.dropWhile_cons_of_neg slash,
      List.takeWhile_append_of_pos all, List.takeWhile_cons_of_neg slash, List.append_nil]
    simp [filled, word]

/-- A content type has a subtype if and only if it begins with a type and a subtype. -/
theorem subtype?_isSome_iff : (subtype? contentType).isSome ↔ Typed contentType.toList := by
  rw [Option.isSome_iff_exists]
  constructor
  · rintro ⟨word, found⟩
    obtain ⟨type, c, rest, spelled, typed, -⟩ := subtype?_eq_some_iff.mp found
    exact ⟨type, c, rest, spelled, typed⟩
  · rintro ⟨type, c, rest, spelled, typed⟩
    exact ⟨_, subtype?_eq_some_iff.mpr ⟨type, c, rest, spelled, typed, rfl⟩⟩

/-- A subtype is a word, and not an empty one. -/
theorem word_of_subtype? (subtype : subtype? contentType = some word) :
    word ≠ [] ∧ ∀ c ∈ word, isWordChar c = true := by
  obtain ⟨_, c, rest, -, typed, rfl⟩ := subtype?_eq_some_iff.mp subtype
  refine ⟨List.cons_ne_nil _ _, fun d mem => ?_⟩
  rcases List.mem_cons.mp mem with rfl | later
  · exact typed.2.2
  · exact List.mem_takeWhile_imp later

/-! ## Names -/

/-- A name is that of the address alone, where this has an ending or the content type has no
subtype, and else that name with the subtype for its ending. -/
theorem derive_cases (url contentType : String) :
    (derive url contentType).toList = stem url ∧
        (EndsInWord (stem url) ∨ ¬ Typed contentType.toList) ∨
      ∃ word, subtype? contentType = some word ∧ ¬ EndsInWord (stem url) ∧
        (derive url contentType).toList = stem url ++ '.' :: word := by
  unfold derive
  dsimp only
  split
  · rename_i ending
    exact .inl ⟨String.toList_ofList, .inl (hasEnding_iff.mp ending)⟩
  rename_i bare
  rw [hasEnding_iff] at bare
  split
  · rename_i word subtype
    exact .inr ⟨word, subtype, bare, String.toList_ofList⟩
  · rename_i untyped
    rw [← subtype?_isSome_iff, untyped]
    exact .inl ⟨String.toList_ofList, .inr nofun⟩

/-- Every character of a name is safe. -/
theorem isSafe_of_mem_derive (url contentType : String) :
    ∀ c ∈ (derive url contentType).toList, isSafe c = true := by
  rcases derive_cases url contentType with ⟨same, -⟩ | ⟨word, subtype, -, spelled⟩
  · rw [same]
    exact isSafe_of_mem_stem url
  · rw [spelled]
    intro c mem
    rcases List.mem_append.mp mem with inStem | ending
    · exact isSafe_of_mem_stem url c inStem
    rcases List.mem_cons.mp ending with rfl | inWord
    · exact isSafe_iff.mpr (.inr (.inr rfl))
    · exact isSafe_iff.mpr (.inl ((word_of_subtype? subtype).2 c inWord))

/-- A name ends in a point and a word if its stem does, or if the content type has a subtype. -/
theorem endsInWord_derive_iff :
    EndsInWord (derive url contentType).toList ↔
      EndsInWord (stem url) ∨ Typed contentType.toList := by
  rcases derive_cases url contentType with ⟨same, settled⟩ | ⟨word, subtype, -, spelled⟩
  · rw [same]
    exact ⟨.inl, fun ends => ends.elim id fun typed => settled.resolve_right (not_not.mpr typed)⟩
  · have typed : Typed contentType.toList :=
      subtype?_isSome_iff.mp (Option.isSome_iff_exists.mpr ⟨word, subtype⟩)
    rw [spelled]
    exact iff_of_true ⟨stem url, word, rfl, word_of_subtype? subtype⟩ (.inr typed)

/-- A stem with an ending is the name. -/
theorem derive_eq_stem (ends : EndsInWord (stem url)) (contentType : String) :
    derive url contentType = String.ofList (stem url) := by
  rcases derive_cases url contentType with ⟨same, -⟩ | ⟨word, -, bare, -⟩
  · rw [← same, String.ofList_toList]
  · exact absurd ends bare

/-- There is no slash in a name. -/
theorem slash_not_mem_derive (url contentType : String) :
    '/' ∉ (derive url contentType).toList := by
  intro mem
  have plain := plain_of_isSafe (isSafe_of_mem_derive url contentType _ mem)
  exact absurd plain.separator (by decide)

/-- Every character of a name is a word character, a hyphen or a point, and so no separator of
paths, no blank and no control character. The name ends in a point and a word just if that of the
address does or the content type begins with a type and a subtype; where that of the address does,
the content type makes no difference. -/
theorem derive_spelled (url contentType : String) :
    (∀ c ∈ (derive url contentType).toList,
      (isWordChar c = true ∨ c = '-' ∨ c = '.') ∧
        isSeparator c = false ∧ isBlank c = false ∧ isControl c = false) ∧
    (EndsInWord (derive url contentType).toList ↔
      EndsInWord (stem url) ∨ Typed contentType.toList) ∧
    (EndsInWord (stem url) → ∀ other, derive url contentType = derive url other) := by
  refine ⟨fun c mem => ?_, endsInWord_derive_iff, fun ends other => ?_⟩
  · have safe := isSafe_of_mem_derive url contentType c mem
    have plain := plain_of_isSafe safe
    exact ⟨isSafe_iff.mp safe, plain.separator, plain.blank, plain.control⟩
  · rw [derive_eq_stem ends contentType, derive_eq_stem ends other]

end PageScript.FileName
