import PageScript.Capture.Response
import PageScript.Proofs.Json.Fields
import PageScript.Proofs.Text.ByteOrder
import PageScript.Proofs.Text.Letters

/-!
# Headers under their lower-case names

Header names are put in lower case, so that several may become one. The fields of an object are in
the order of the bytes of their names, and they are put in one after the other: under a lower-case
name stays the value of the greatest of its spellings (`lookup?_lowerHeaders_eq_some_iff`). That
spelling alone decides the content type, and headers that were lowered stay as they are
(`headers_lowered`).

**What it does not establish.** Which header names are allowed; letters outside ASCII keep their
case.
-/

namespace PageScript

namespace Json

variable {fields : List (String × Json)}

/-- The names of fields ascend by their bytes. -/
def ByteAscending (fields : List (String × Json)) : Prop :=
  fields.Pairwise fun f g => Text.encode f.1.toList < Text.encode g.1.toList

instance : DecidablePred ByteAscending :=
  fun fields => inferInstanceAs (Decidable (fields.Pairwise _))

theorem byteAscending_iff : ByteAscending fields ↔ Ascending fields := by
  simp only [ByteAscending, Ascending, Text.encode_lt_encode_iff]

/-- A name that is among fields is found. -/
theorem exists_lookup?_of_mem {f : String × Json} (mem : f ∈ fields) :
    ∃ v, lookup? f.1 fields = some v := by
  induction fields with
  | nil => cases mem
  | cons g rest ih =>
    rw [lookup?]
    split
    · exact ⟨_, rfl⟩
    · rename_i other
      rcases List.mem_cons.mp mem with rfl | there
      · exact absurd rfl other
      · exact ih there

/-- In order, a field is what is found under its name. -/
theorem Ascending.lookup?_eq_some_iff (ascending : Ascending fields) {name : String} {v : Json} :
    lookup? name fields = some v ↔ (name, v) ∈ fields := by
  refine ⟨mem_of_lookup?, fun mem => ?_⟩
  induction fields with
  | nil => cases mem
  | cons g rest ih =>
    obtain ⟨below, later⟩ := List.pairwise_cons.mp ascending
    rw [lookup?]
    rcases List.mem_cons.mp mem with rfl | there
    · exact if_pos rfl
    · rw [if_neg (ne_of_lt (below _ there))]
      exact ih later there

end Json

namespace ResponseMeta

open Json (Ascending ByteAscending lookup? sortFields)

variable {headers : List (String × Json)} {name : String}

/-- The name of a header in lower case, with its value. -/
def lowered (h : String × Json) : String × Json :=
  (h.1.toLower, h.2)

/-- A header that is spelled as the greatest of those with its lower-case name. -/
structure Greatest (headers : List (String × Json)) (name : String) (h : String × Json) : Prop where
  mem : h ∈ headers
  lower : h.1.toLower = name
  /-- The bytes of no other spelling are above. -/
  greatest : ∀ other ∈ headers, other.1.toLower = name →
    Text.encode other.1.toList ≤ Text.encode h.1.toList

/-! ## What is found under a name -/

/-- The spelling that comes last is the greatest. -/
theorem greatest_concat {h : String × Json} (ascending : Ascending (headers ++ [h]))
    (lower : h.1.toLower = name) {f : String × Json} :
    Greatest (headers ++ [h]) name f ↔ f = h := by
  obtain ⟨-, -, above⟩ := List.pairwise_append.mp ascending
  have last : h ∈ headers ++ [h] := List.mem_append_right _ (List.mem_singleton.mpr rfl)
  constructor
  · intro greatest
    rcases List.mem_append.mp greatest.mem with earlier | here
    · have below := above f earlier h (List.mem_singleton.mpr rfl)
      have le := Text.encode_le_encode_iff.mp (greatest.greatest h last lower)
      exact absurd below (not_lt_of_ge le)
    · exact List.mem_singleton.mp here
  · rintro rfl
    refine ⟨last, lower, fun other mem _ => Text.encode_le_encode_iff.mpr ?_⟩
    rcases List.mem_append.mp mem with earlier | here
    · exact le_of_lt (above other earlier f (List.mem_singleton.mpr rfl))
    · exact le_of_eq (congrArg Prod.fst (List.mem_singleton.mp here))

/-- A header of another name changes nothing. -/
theorem greatest_concat_of_ne {h : String × Json} (other : h.1.toLower ≠ name)
    {f : String × Json} : Greatest (headers ++ [h]) name f ↔ Greatest headers name f := by
  have earlier {g : String × Json} (mem : g ∈ headers ++ [h]) (lower : g.1.toLower = name) :
      g ∈ headers := by
    refine (List.mem_append.mp mem).resolve_right fun here => other ?_
    rw [← List.mem_singleton.mp here]
    exact lower
  constructor
  · exact fun greatest => ⟨earlier greatest.mem greatest.lower, greatest.lower,
      fun g mem => greatest.greatest g (List.mem_append_left _ mem)⟩
  · exact fun greatest => ⟨List.mem_append_left _ greatest.mem, greatest.lower,
      fun g mem lower => greatest.greatest g (earlier mem lower) lower⟩

theorem lookup?_lowerHeaders (headers : List (String × Json)) (name : String) :
    lookup? name (lowerHeaders headers) = lookup? name (headers.map lowered).reverse :=
  Json.field?_ofFields name (headers.map lowered)

/-- Under a lower-case name, the value of the greatest of its spellings is found. -/
theorem lookup?_lowerHeaders_eq_some_iff (ascending : Ascending headers) {v : Json} :
    lookup? name (lowerHeaders headers) = some v ↔ ∃ key, Greatest headers name (key, v) := by
  rw [lookup?_lowerHeaders]
  induction headers using List.reverseRecOn with
  | nil => exact ⟨nofun, fun ⟨_, greatest⟩ => nomatch greatest.mem⟩
  | append_singleton headers h ih =>
    rw [List.map_append, List.reverse_append]
    show (if h.1.toLower = name then some h.2 else _) = some v ↔ _
    split
    · rename_i lower
      simp only [greatest_concat ascending lower, Option.some.injEq]
      exact ⟨fun same => ⟨h.1, Prod.ext rfl same.symm⟩, fun ⟨_, same⟩ => same ▸ rfl⟩
    · rename_i other
      simp only [greatest_concat_of_ne other]
      exact ih (List.pairwise_append.mp ascending).1

/-- A field of lowered headers comes from a header. -/
theorem exists_of_mem_lowerHeaders {f : String × Json} (mem : f ∈ lowerHeaders headers) :
    ∃ h ∈ headers, lowered h = f :=
  List.mem_map.mp (Json.mem_of_mem_sortFields mem)

/-- The names are those of all headers in lower case. -/
theorem mem_names_lowerHeaders (headers : List (String × Json)) (name : String) :
    name ∈ (lowerHeaders headers).map Prod.fst ↔ ∃ h ∈ headers, h.1.toLower = name := by
  constructor
  · intro mem
    obtain ⟨f, here, rfl⟩ := List.mem_map.mp mem
    obtain ⟨h, among, rfl⟩ := exists_of_mem_lowerHeaders here
    exact ⟨h, among, rfl⟩
  · rintro ⟨h, mem, rfl⟩
    have put : lowered h ∈ (headers.map lowered).reverse :=
      List.mem_reverse.mpr (List.mem_map_of_mem mem)
    obtain ⟨v, found⟩ := Json.exists_lookup?_of_mem put
    rw [← lookup?_lowerHeaders] at found
    exact List.mem_map_of_mem (Json.mem_of_lookup? found)

/-- Headers that were lowered stay as they are. -/
theorem lowerHeaders_lowerHeaders (headers : List (String × Json)) :
    lowerHeaders (lowerHeaders headers) = lowerHeaders headers := by
  have low : ∀ f ∈ lowerHeaders headers, lowered f = f := by
    intro f mem
    obtain ⟨h, -, rfl⟩ := exists_of_mem_lowerHeaders mem
    exact Prod.ext (Text.toLower_toLower h.1) rfl
  have same : (lowerHeaders headers).map lowered = lowerHeaders headers :=
    (List.map_congr_left low).trans (List.map_id _)
  calc lowerHeaders (lowerHeaders headers)
    _ = sortFields ((lowerHeaders headers).map lowered) := rfl
    _ = sortFields (lowerHeaders headers) := by rw [same]
    _ = lowerHeaders headers := (Json.ascending_sortFields _).sortFields_eq

/-! ## All of it -/

/-- Headers are kept under all their names in lower case, each with the value of its greatest
spelling. The content type is the text of the greatest spelling of its header, and empty if there is
none or it is no text. Building from headers that were lowered gives the same headers. -/
theorem headers_lowered (url : String) (status : Int) (ascending : ByteAscending headers) :
    let m := ofHeaders url status (.object headers)
    ByteAscending m.headers ∧
      (∀ name, name ∈ m.headers.map Prod.fst ↔ ∃ h ∈ headers, h.1.toLower = name) ∧
      (∀ name v, (name, v) ∈ m.headers ↔ ∃ key, Greatest headers name (key, v)) ∧
      (∀ key v, Greatest headers "content-type" (key, v) → m.contentType = v.text?.getD "") ∧
      ((∀ h ∈ headers, h.1.toLower ≠ "content-type") → m.contentType = "") ∧
      ∀ url' status', (ofHeaders url' status' (.object m.headers)).headers = m.headers := by
  intro m
  have inOrder := Json.byteAscending_iff.mp ascending
  have lowered : Ascending m.headers := Json.ascending_sortFields _
  have finds {name : String} {v : Json} :
      lookup? name m.headers = some v ↔ ∃ key, Greatest headers name (key, v) :=
    lookup?_lowerHeaders_eq_some_iff inOrder
  refine ⟨Json.byteAscending_iff.mpr lowered, mem_names_lowerHeaders headers,
    fun name v => lowered.lookup?_eq_some_iff.symm.trans finds, fun key v greatest => ?_,
    fun without => ?_, fun url' status' => lowerHeaders_lowerHeaders headers⟩
  · rw [contentType, finds.mpr ⟨key, greatest⟩]
    rfl
  · have none : lookup? "content-type" m.headers = none := by
      refine Option.eq_none_iff_forall_ne_some.mpr fun v found => ?_
      obtain ⟨key, greatest⟩ := finds.mp found
      exact without (key, v) greatest.mem greatest.lower
    rw [contentType, none]
    rfl

/-- Three spellings of one name, and a letter that has its own case and is above all of them. -/
def mixedCase : List (String × Json) :=
  [("CONTENT-TYPE", .string "text/html"), ("Content-Type", .string "text/plain"),
   ("content-typE", .string "application/json"), ("É", .null)]

theorem headers_lowered_mixedCase :
    ByteAscending mixedCase ∧
      let m := ofHeaders "http://h/" 200 (.object mixedCase)
      m.contentType = "application/json" ∧ ("É", .null) ∈ m.headers := by
  have ascending : ByteAscending mixedCase := by decide
  have type : Greatest mixedCase "content-type" ("content-typE", .string "application/json") := by
    refine ⟨by simp [mixedCase], ?_, ?_⟩ <;> simp only [Text.toLower_eq_ofList] <;> decide
  have letter : Greatest mixedCase "É" ("É", .null) := by
    refine ⟨by simp [mixedCase], ?_, ?_⟩ <;> simp only [Text.toLower_eq_ofList] <;> decide
  obtain ⟨-, -, values, contentType, -⟩ := headers_lowered "http://h/" 200 ascending
  exact ⟨ascending, contentType _ _ type, (values _ _).mpr ⟨_, letter⟩⟩

end ResponseMeta

end PageScript
