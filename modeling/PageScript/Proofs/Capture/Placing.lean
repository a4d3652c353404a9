import PageScript.Capture.Saving
import PageScript.Proofs.Capture.FileNames
import PageScript.Proofs.Files.Directories

/-!
# Where a download is put

A name of safe characters is still none of a file if it is empty, `.` or `..`: joined to a directory
it leads to that directory or to its parent. A response gets such a name where its address has
nothing else after scheme and host, and its content type has no subtype to add (`Nameless`,
`canName_derive_iff`). Any other name is put into the downloads directory (`derive_placed`).

**What it does not establish.** Whether a file of that name can be written: the directory may be
missing or the disk full.
-/

namespace PageScript.FileName

open Text

variable {url contentType : String} {s front : List Char} {n : Nat}

/-! ## What precedes the path -/

/-- Scheme and host with the slash that follows them. -/
def Front (s : List Char) : Prop :=
  ∃ scheme host : List Char,
    s = scheme ++ ':' :: '/' :: '/' :: (host ++ ['/']) ∧
      (scheme ≠ [] ∧ ∀ c ∈ scheme, isWordChar c = true) ∧ host ≠ [] ∧ '/' ∉ host

/-- A colon is no word character. -/
theorem isWordChar_colon : isWordChar ':' = false :=
  Bool.eq_false_iff.mpr (by decide +kernel)

/-- What stands before the path of an address is dropped. -/
theorem pathOf_front (begins : Front front) (path : List Char) : pathOf (front ++ path) = path := by
  obtain ⟨scheme, host, rfl, ⟨filled, words⟩, someHost, plain⟩ := begins
  have colon : ¬ isWordChar ':' = true := Bool.eq_false_iff.mp isWordChar_colon
  have spelled : scheme ++ ':' :: '/' :: '/' :: (host ++ ['/']) ++ path =
      scheme ++ ':' :: '/' :: '/' :: (host ++ '/' :: path) := by simp
  have all : ∀ c ∈ host, (c != '/') = true :=
    fun c mem => bne_iff_ne.mpr fun same => plain (same ▸ mem)
  obtain ⟨c, rest, rfl⟩ := List.exists_cons_of_ne_nil someHost
  unfold pathOf
  rw [spelled, List.takeWhile_append_of_pos words, List.dropWhile_append_of_pos words,
    List.takeWhile_cons_of_neg colon, List.dropWhile_cons_of_neg colon, List.append_nil]
  simp only [List.takeWhile_append_of_pos all, List.dropWhile_append_of_pos all]
  simp [filled]

/-- What is left of an address is the whole of it or what follows scheme and host. -/
theorem pathOf_cases (url : List Char) :
    pathOf url = url ∨ ∃ front, Front front ∧ url = front ++ pathOf url := by
  have parts : url.takeWhile isWordChar ++ url.dropWhile isWordChar = url :=
    List.takeWhile_append_dropWhile
  unfold pathOf
  dsimp only
  split
  · rename_i rest after
    split
    · rename_i c host path before behind
      split
      · exact .inl rfl
      · rename_i filled
        have hostParts : rest.takeWhile (· != '/') ++ rest.dropWhile (· != '/') = rest :=
          List.takeWhile_append_dropWhile
        refine .inr ⟨_, ⟨url.takeWhile isWordChar, c :: host, rfl, ⟨?_, ?_⟩, ?_, ?_⟩, ?_⟩
        · simpa using filled
        · exact fun d mem => List.mem_takeWhile_imp mem
        · exact List.cons_ne_nil _ _
        · intro mem
          rw [← before] at mem
          exact absurd (List.mem_takeWhile_imp mem) (by decide)
        · rw [before, behind] at hostParts
          rw [after, ← hostParts] at parts
          refine parts.symm.trans ?_
          simp
    · exact .inl rfl
  · exact .inl rfl

theorem pathOf_of_not_colon {url : List Char} (plain : ':' ∉ url) : pathOf url = url := by
  rcases pathOf_cases url with same | ⟨front, ⟨scheme, host, rfl, -⟩, spelled⟩
  · exact same
  · rw [spelled] at plain
    simp at plain

/-! ## Points -/

/-- Points are left over, with a slash at their end or without. -/
theorem dropSlash_eq_points_iff :
    dropSlash s = List.replicate n '.' ↔
      s = List.replicate n '.' ∨ s = List.replicate n '.' ++ ['/'] := by
  unfold dropSlash before?
  cases ends : ['/'].isSuffixOf? s with
  | none =>
    have open_ : s ≠ List.replicate n '.' ++ ['/'] := by
      rintro rfl
      simp [List.isSuffixOf?, List.isPrefixOf?] at ends
    exact ⟨.inl, fun spelled => spelled.resolve_right open_⟩
  | some before =>
    obtain rfl := List.append_eq_of_isSuffixOf?_eq_some ends
    have closed : before ++ ['/'] ≠ List.replicate n '.' := by
      intro same
      have slash : '/' ∈ List.replicate n '.' := same ▸ List.mem_append_right _ (by simp)
      exact absurd (List.eq_of_mem_replicate slash) (by decide)
    rw [Option.getD_some, or_iff_right closed, List.append_left_inj]

/-- Squeezing keeps points, and makes none. -/
theorem squeeze_eq_points_iff : squeeze s = List.replicate n '.' ↔ s = List.replicate n '.' := by
  unfold squeeze
  induction s generalizing n with
  | nil => exact Iff.rfl
  | cons c rest ih =>
    unfold squeezeFrom
    cases n with
    | zero => split <;> simp
    | succ n =>
      rw [List.replicate_succ]
      split
      · rw [List.cons.injEq, List.cons.injEq, ih]
      · rename_i unsafe_
        have other : c ≠ '.' := by
          rintro rfl
          exact unsafe_ (isSafe_iff.mpr (.inr (.inr rfl)))
        simp [other]

theorem eq_point_of_mem_lowercaseChar {c : Char} (mem : '.' ∈ lowercaseChar c) : c = '.' := by
  rcases mem_lowercaseChar mem with word | same
  · exact absurd word (Bool.eq_false_iff.mp isWordChar_point)
  · exact same.symm

/-- Lower case keeps points, and makes none. -/
theorem lowercaseAfter_eq_points_iff (before : List Char) :
    lowercaseAfter before s = List.replicate n '.' ↔ s = List.replicate n '.' := by
  induction s generalizing n before with
  | nil => exact Iff.rfl
  | cons c rest ih =>
    by_cases point : c = '.'
    · subst point
      have same : lowercaseAfter before ('.' :: rest) =
          '.' :: lowercaseAfter ('.' :: before) rest := by
        rw [lowercaseAfter, if_neg (by decide), lowercaseChar_of_low (by decide)]
        rfl
      rw [same]
      cases n with
      | zero => exact iff_of_false (List.cons_ne_nil _ _) (List.cons_ne_nil _ _)
      | succ n =>
        rw [List.replicate_succ, List.cons.injEq, List.cons.injEq, ih]
    · have other : ∃ d more, lowercaseAfter before (c :: rest) = d :: more ∧ d ≠ '.' := by
        unfold lowercaseAfter
        split
        · refine ⟨_, _, rfl, ?_⟩
          split <;> decide
        · obtain ⟨d, more, spelled⟩ := List.exists_cons_of_ne_nil (lowercaseChar_ne_nil c)
          rw [spelled]
          refine ⟨d, _, rfl, ?_⟩
          rintro rfl
          exact point (eq_point_of_mem_lowercaseChar (spelled ▸ List.mem_cons_self))
      obtain ⟨d, more, spelled, strange⟩ := other
      rw [spelled]
      exact iff_of_false (fun all => strange (List.eq_of_mem_replicate (all ▸ List.mem_cons_self)))
        (fun all => point (List.eq_of_mem_replicate (all ▸ List.mem_cons_self)))

/-- Nothing but points becomes of an address just if it has nothing else after scheme and host. -/
theorem stem_eq_points_iff :
    stem url = List.replicate n '.' ↔
      ∃ front slash, url.toList = front ++ (List.replicate n '.' ++ slash) ∧
        (front = [] ∨ Front front) ∧ (slash = [] ∨ slash = ['/']) := by
  unfold stem lowercase
  rw [lowercaseAfter_eq_points_iff, squeeze_eq_points_iff, dropSlash_eq_points_iff]
  constructor
  · intro left
    have ends : ∃ slash, pathOf url.toList = List.replicate n '.' ++ slash ∧
        (slash = [] ∨ slash = ['/']) := by
      rcases left with bare | closed
      · exact ⟨[], by rw [bare, List.append_nil], .inl rfl⟩
      · exact ⟨['/'], closed, .inr rfl⟩
    obtain ⟨slash, spelled, shape⟩ := ends
    rcases pathOf_cases url.toList with whole | ⟨front, begins, parts⟩
    · exact ⟨[], slash, by rw [← whole, spelled, List.nil_append], .inl rfl, shape⟩
    · exact ⟨front, slash, by rw [← spelled, ← parts], .inr begins, shape⟩
  · rintro ⟨front, slash, spelled, begins, shape⟩
    have path : pathOf url.toList = List.replicate n '.' ++ slash := by
      rcases begins with rfl | begins
      · rw [spelled, List.nil_append]
        refine pathOf_of_not_colon fun mem => ?_
        rcases List.mem_append.mp mem with point | slashed
        · exact absurd (List.eq_of_mem_replicate point) (by decide)
        · rcases shape with rfl | rfl
          · cases slashed
          · exact absurd slashed (by decide)
      · rw [spelled, pathOf_front begins]
    rw [path]
    exact shape.imp (by rintro rfl; exact List.append_nil _) (by rintro rfl; rfl)

/-! ## Names of files -/

/-- An address has at most two points after scheme and host, if it begins with them, and at most a
slash after these. -/
def Nameless (url : List Char) : Prop :=
  ∃ n ≤ 2, ∃ front slash, url = front ++ (List.replicate n '.' ++ slash) ∧
    (front = [] ∨ Front front) ∧ (slash = [] ∨ slash = ['/'])

/-- A name can be that of a file, as it means neither the directory itself nor its parent. -/
def CanName (name : String) : Prop :=
  name ≠ "" ∧ name ≠ "." ∧ name ≠ ".."

instance (name : String) : Decidable (CanName name) :=
  inferInstanceAs (Decidable (_ ∧ _))

/-- A name can be that of a file unless it is empty, a point or two points. -/
theorem canName_iff {name : String} :
    CanName name ↔ ∀ n ≤ 2, name.toList ≠ List.replicate n '.' := by
  have spelled (word : String) : name ≠ word ↔ name.toList ≠ word.toList :=
    not_congr String.toList_inj.symm
  unfold CanName
  rw [spelled, spelled, spelled]
  constructor
  · rintro ⟨filled, here, up⟩ n low
    obtain rfl | rfl | rfl : n = 0 ∨ n = 1 ∨ n = 2 := by omega
    · exact filled
    · exact here
    · exact up
  · exact fun free => ⟨free 0 (by decide), free 1 (by decide), free 2 (by decide)⟩

/-- A name that ends in a point and a word is not made of points. -/
theorem EndsInWord.ne_points {name : List Char} (ends : EndsInWord name) (n : Nat) :
    name ≠ List.replicate n '.' := by
  obtain ⟨before, word, rfl, filled, all⟩ := ends
  obtain ⟨c, rest, rfl⟩ := List.exists_cons_of_ne_nil filled
  intro same
  have mem : c ∈ before ++ '.' :: c :: rest := by simp
  rw [same] at mem
  obtain rfl := List.eq_of_mem_replicate mem
  exact absurd (all '.' List.mem_cons_self) (Bool.eq_false_iff.mp isWordChar_point)

/-- A response has the name of a file unless its address leaves nothing to name it by and its
content type does not either. -/
theorem canName_derive_iff :
    CanName (derive url contentType) ↔ ¬ (Nameless url.toList ∧ ¬ Typed contentType.toList) := by
  rw [canName_iff]
  by_cases ends : EndsInWord (derive url contentType).toList
  · refine iff_of_true (fun n _ => ends.ne_points n) ?_
    rintro ⟨⟨n, -, front, slash, parts⟩, untyped⟩
    refine (endsInWord_derive_iff.mp ends).elim (fun own => ?_) untyped
    exact own.ne_points n (stem_eq_points_iff.mpr ⟨front, slash, parts⟩)
  · rw [endsInWord_derive_iff, not_or] at ends
    have same : (derive url contentType).toList = stem url := by
      rcases derive_cases url contentType with ⟨same, -⟩ | ⟨word, subtype, -, -⟩
      · exact same
      · exact absurd (subtype?_isSome_iff.mp (Option.isSome_iff_exists.mpr ⟨word, subtype⟩)) ends.2
    rw [same]
    constructor
    · rintro free ⟨⟨n, low, front, slash, parts⟩, -⟩
      exact free n low (stem_eq_points_iff.mpr ⟨front, slash, parts⟩)
    · intro named n low points
      obtain ⟨front, slash, parts⟩ := stem_eq_points_iff.mp points
      exact named ⟨⟨n, low, front, slash, parts⟩, ends.2⟩

end PageScript.FileName

/-! ## Paths -/

namespace PageScript

namespace FileTree

variable {t : FileTree} {directory : Path} {place : List String} {name : String}

/-- A path with one more name leads on from where the path leads. -/
theorem walk_append (t : FileTree) (here names : List String) (name : String) :
    t.walk here (names ++ [name]) = (t.walk here names).bind fun there => t.enter there name := by
  induction names generalizing here with
  | nil =>
    show (do let next ← t.enter here name; .ok next) = t.enter here name
    cases t.enter here name <;> rfl
  | cons first rest ih =>
    rw [List.cons_append, walk, walk]
    cases t.enter here first with
    | error e => rfl
    | ok next => exact ih next

/-- What is in a directory is found by entering it. -/
theorem walk_join (plain : '/' ∉ name.toList)
    (leads : t.walk directory.start directory.names = .ok place) :
    t.walk (directory.join name).start (directory.join name).names = t.enter place name := by
  have parts := List.dropLast_append_getLast? name (directory.getLast?_names_join plain)
  rw [← parts, walk_append, directory.start_join plain, directory.walk_join plain, leads]
  rfl

/-- Where the path to something in a directory leads depends on the name alone. -/
theorem locate_join (plain : '/' ∉ name.toList) (text : directory.text ≠ "")
    (nul : '\x00' ∉ (directory.join name).text.toList)
    (leads : t.walk directory.start directory.names = .ok place) :
    t.locate (directory.join name) =
      if FileName.CanName name then
        if Text.byteLength name.toList > longestName then .error .nameTooLong
        else .ok (place, some name)
      else .ok (place, none) := by
  have empty : ¬ (directory.join name).text.isEmpty := by
    simpa using Path.text_join_ne_empty text plain
  have special : (name.isEmpty || name == "." || name == "..") = true ↔
      ¬ FileName.CanName name := by
    simp only [FileName.CanName, Bool.or_eq_true, String.isEmpty_iff, beq_iff_eq]
    tauto
  unfold locate
  rw [if_neg (by simpa using nul), if_neg empty, directory.start_join plain,
    directory.walk_join plain, leads, directory.getLast?_names_join plain]
  by_cases can : FileName.CanName name
  · rw [if_pos can]
    exact if_neg (mt special.mp (not_not_intro can))
  · rw [if_neg can]
    exact if_pos (special.mpr can)

/-- What is no name of a file means the directory or its parent. -/
theorem enter_of_not_canName (cannot : ¬ FileName.CanName name) :
    t.enter place name = .ok place ∨ t.enter place name = .ok place.dropLast := by
  unfold FileName.CanName at cannot
  obtain rfl | rfl | rfl : name = "" ∨ name = "." ∨ name = ".." := by tauto
  · exact .inl rfl
  · exact .inl rfl
  · exact .inr rfl

end FileTree

/-- What has no name of a file is not written. -/
theorem Download.save_of_isDirectory {d : Download} {t : FileTree} {downloads : Path}
    {place : List String} (leads : t.locate (downloads.join d.name) = .ok (place, none)) :
    d.save t downloads = (t, [.failure ("Failed to write capture " ++
      (downloads.join d.name).text ++ ": Is a directory (os error 21)")]) := by
  have fails : t.write (downloads.join d.name) d.bytes = .error .isDirectory := by
    rw [FileTree.write, FileTree.store, leads]
    rfl
  simp only [save, fails, FileTrouble.message]
  simp [String.append_assoc]

namespace FileName

theorem nul_not_mem_derive (url contentType : String) :
    '\x00' ∉ (derive url contentType).toList := by
  intro mem
  have plain := plain_of_isSafe (isSafe_of_mem_derive url contentType _ mem)
  exact absurd plain.control (by decide)

/-- The name of a download has no slash, and it is one of a file unless the address has nothing but
points after scheme and host and the content type has no subtype. A name of a file leads into the
downloads directory, as long as file systems allow. Any other leads to that directory or to its
parent, so that what was downloaded is not written anywhere. -/
theorem derive_placed (url contentType : String) {t : FileTree} {downloads : Path}
    {place : List String} (text : downloads.text ≠ "") (nul : '\x00' ∉ downloads.text.toList)
    (leads : t.walk downloads.start downloads.names = .ok place) :
    let name := derive url contentType
    let path := downloads.join name
    '/' ∉ name.toList ∧
    (CanName name ↔ ¬ (Nameless url.toList ∧ ¬ Typed contentType.toList)) ∧
    (CanName name → t.locate path =
      if Text.byteLength name.toList > FileTree.longestName then .error .nameTooLong
      else .ok (place, some name)) ∧
    (¬ CanName name →
      (t.walk path.start path.names = .ok place ∨
        t.walk path.start path.names = .ok place.dropLast) ∧
      ∀ bytes, Download.save ⟨name, bytes⟩ t downloads =
        (t, [.failure ("Failed to write capture " ++ path.text ++
          ": Is a directory (os error 21)")])) := by
  intro name path
  have plain : '/' ∉ name.toList := slash_not_mem_derive url contentType
  have free : '\x00' ∉ path.text.toList := by
    intro mem
    rcases Path.mem_text_join mem with before | slash | own
    · exact nul before
    · exact absurd slash (by decide)
    · exact nul_not_mem_derive url contentType own
  have located := FileTree.locate_join plain text free leads
  refine ⟨plain, canName_derive_iff, fun can => ?_, fun cannot => ⟨?_, fun bytes => ?_⟩⟩
  · rw [located, if_pos can]
  · rw [FileTree.walk_join plain leads]
    exact FileTree.enter_of_not_canName cannot
  · exact Download.save_of_isDirectory (located.trans (if_neg cannot))

/-- The front page of a host, answered without a content type, has no name. -/
theorem derive_frontPage :
    derive "http://h/" "" = "" ∧ ¬ CanName (derive "http://h/" "") ∧
      ¬ CanName (derive "http://h/../" "text") := by
  have bare : derive "http://h/" "" = "" := by decide +kernel
  exact ⟨bare, by rw [bare]; decide, by decide +kernel⟩

/-- The front page of a host is written if its content type says what it is, and else lost. -/
theorem derive_placed_frontPage :
    let t : FileTree := ⟨[(["w", "downloads"], .directory), (["w"], .directory)]⟩
    Download.save ⟨derive "http://h/" "", [0x68]⟩ t ⟨["w"], "downloads"⟩ =
        (t, [.failure "Failed to write capture downloads/: Is a directory (os error 21)"]) ∧
      t.locate (Path.join ⟨["w"], "downloads"⟩ (derive "http://h/" "text/html")) =
        .ok (["w", "downloads"], some ".html") := by
  intro t
  have leads : t.walk (Path.start ⟨["w"], "downloads"⟩) (Path.names ⟨["w"], "downloads"⟩) =
      .ok ["w", "downloads"] := by decide +kernel
  obtain ⟨-, -, -, lost⟩ := derive_placed "http://h/" "" (by decide) (by decide) leads
  obtain ⟨-, -, kept, -⟩ := derive_placed "http://h/" "text/html" (by decide) (by decide) leads
  have bare : derive "http://h/" "" = "" := by decide +kernel
  have html : derive "http://h/" "text/html" = ".html" := by decide +kernel
  rw [bare] at lost ⊢
  rw [html] at kept ⊢
  exact ⟨(lost (by decide)).2 [0x68], kept (by decide)⟩

end FileName

end PageScript
