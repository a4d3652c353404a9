import PageScript.Proofs.Chrome.Orders
import PageScript.Proofs.Json.Grammar
import PageScript.Proofs.Json.RoundTrip

/-!
# Data in scripts

The scripts that find an element hold what they look for, and what they fill in, as JSON literals
(`Json.Embedded`): whatever stands in a selector or a value, a reader of JSON that comes to the
literal gets the data back and stops where the script goes on, and nothing outside the literal
depends on the data (`scripts_embed_literals`). So scripts differ if what they look for or fill in
does.

**What it does not establish.** What a script does in a page, and how a page reads a literal that is
no JSON.
-/

namespace PageScript

/-! ## Literals -/

namespace Json

/-- A text stands for a value where it is followed by another text: it has no character below a
space, it is a document of the value, and a reader that begins with it stops after it. -/
structure Embedded (literal : String) (v : Json) (after : String) : Prop where
  visible : ∀ c ∈ literal.toList, 0x20 ≤ c.toNat
  parses : parse literal = .ok v
  ends : (readValue deepest).run ((literal ++ after).toList.map .char) =
    .ok (v, after.toList.map .char)

variable {v w : Json} {after : String}

/-- What is written without blanks is embedded before anything that does not go on with a number. -/
theorem embedded_print (readable : Readable deepest v) (whole : v.Whole)
    (stops : Stops (after.toList.map .char)) : Embedded v.print v after where
  visible := by
    rw [print, String.toList_ofList]
    exact le_of_mem_compact v
  parses := by
    have read : parseSymbols (([] ++ Layout.tight.text 0 v ++ []).map .char) = .ok v :=
      Layout.tight.parseSymbols_text readable whole.exact separators_nil separators_nil
    rw [List.nil_append, List.append_nil] at read
    rw [parse, print, String.toList_ofList]
    exact read
  ends := by
    have read : Layout.tight.ReadsBack deepest 0 v :=
      Layout.tight.readsBack_of_readable readable whole.exact
    rw [String.toList_append, print, String.toList_ofList, List.map_append]
    exact read _ stops

theorem Embedded.eq_of_eq {literal : String} {after' : String} (embedded : Embedded literal v after)
    (embedded' : Embedded literal w after') : v = w :=
  Except.ok.inj (embedded.parses.symm.trans embedded'.parses)

end Json

namespace Locator

/-- A locator as a value tells its way and what it looks for. -/
theorem toJson_injective : Function.Injective toJson := by
  intro l l' same
  cases l <;> cases l' <;> simp_all [toJson, way, value]

theorem readable_toJson (l : Locator) (depth : Nat) : Json.Readable (depth + 1) l.toJson := by
  have ascending : "by" < "value" := by decide
  refine .object (List.pairwise_pair.mpr ascending) ?_
  simp only [List.forall_mem_cons]
  exact ⟨.scalar rfl, .scalar rfl, List.forall_mem_nil _⟩

theorem whole_toJson (l : Locator) : l.toJson.Whole := by
  refine .object ?_
  simp only [List.forall_mem_cons]
  exact ⟨.string _, .string _, List.forall_mem_nil _⟩

end Locator

namespace Target

/-! ## Scripts -/

/-- What every script begins with. -/
def lead : String :=
  "(() => \x7b\n" ++ resolver ++ "\nconst el = resolveTarget("

/-- What comes after the alternatives of a script. -/
def trail (body : String) : String :=
  ");\n" ++ body ++ "\n\x7d)()"

/-- The alternatives of a target as a value. -/
def document (t : Target) : Json :=
  .array (t.alternatives.map fun l => .object [("by", .string l.way), ("value", .string l.value)])

/-- The script of a target is fixed but for the literal of its alternatives. -/
theorem script_eq (t : Target) (body : String) :
    t.script body = lead ++ t.document.print ++ trail body := by
  -- Stated for any texts: rewriting the texts themselves would have to look into them.
  have regroup (a b c d e : String) : a ++ b ++ c ++ d ++ e = a ++ b ++ (c ++ d ++ e) := by
    simp only [String.append_assoc]
  exact regroup lead _ _ _ _

theorem embedded_document (t : Target) (body : String) :
    Json.Embedded t.document.print t.document (trail body) := by
  refine Json.embedded_print ?_ ?_ ?_
  · refine .array fun v mem => ?_
    obtain ⟨l, -, rfl⟩ := List.mem_map.mp mem
    exact l.readable_toJson _
  · refine .array fun v mem => ?_
    obtain ⟨l, -, rfl⟩ := List.mem_map.mp mem
    exact l.whole_toJson
  · rw [trail, String.toList_append, String.toList_append, List.append_assoc, List.map_append]
    exact Json.stops_char (c := ')') rfl _

/-! ## Filling in -/

/-- What comes before the value in a script that fills in, up to the name that it is bound to. -/
def fillLead (t : Target) : String :=
  lead ++ t.document.print ++ ");\n" ++ "if (!el || !isVisible(el)) return null;\nconst value = "

/-- What comes after the value in a script that fills in. -/
def fillTrail : String :=
  fillTail ++ "\n\x7d)()"

/-- The script that fills in a value is fixed but for two literals. -/
theorem script_fillBody_eq (t : Target) (value : String) :
    t.script (fillBody value) = t.fillLead ++ (Json.string value).print ++ fillTrail := by
  have regroup (a b c d e f g : String) :
      a ++ b ++ (c ++ (d ++ e ++ f) ++ g) = a ++ b ++ c ++ d ++ e ++ (f ++ g) := by
    simp only [String.append_assoc]
  exact (t.script_eq _).trans (regroup _ _ _ _ _ _ _)

theorem embedded_value (value : String) :
    Json.Embedded (Json.string value).print (.string value) fillTrail := by
  refine Json.embedded_print (.scalar rfl) (.string value) ?_
  have ends : fillTail = ";" ++ "\n" ++ _ := String.intercalate_cons_cons
  have first : ";".toList = [';'] := rfl
  rw [fillTrail, ends, String.append_assoc, String.append_assoc, String.toList_append, first,
    List.singleton_append, List.map_cons]
  exact Json.stops_char rfl _

end Target

/-! ## Scripts and their data -/

namespace Target

variable {t t' : Target} {body value value' : String}

/-- Texts in the same surroundings are told apart. -/
theorem append_inj {before s s' after : String} :
    before ++ s ++ after = before ++ s' ++ after ↔ s = s' := by
  rw [String.append_left_inj, String.append_right_inj]

theorem script_inj : t.script body = t'.script body ↔ t = t' := by
  refine ⟨fun same => ?_, fun same => same ▸ rfl⟩
  have literals := append_inj.mp ((t.script_eq body).symm.trans (same.trans (t'.script_eq body)))
  have embedded := t'.embedded_document body
  rw [← literals] at embedded
  have documents := (t.embedded_document body).eq_of_eq embedded
  have alternatives : t.alternatives = t'.alternatives :=
    List.map_injective_iff.mpr Locator.toJson_injective (Json.array.inj documents)
  cases t
  exact congrArg mk alternatives

theorem script_fillBody_inj :
    t.script (fillBody value) = t.script (fillBody value') ↔ value = value' := by
  refine ⟨fun same => ?_, fun same => same ▸ rfl⟩
  have literals := append_inj.mp
    ((t.script_fillBody_eq value).symm.trans (same.trans (t.script_fillBody_eq value')))
  have embedded := embedded_value value'
  rw [← literals] at embedded
  exact Json.string.inj ((embedded_value value).eq_of_eq embedded)

/-- A script is a beginning that all scripts share, a literal of the alternatives, and an end that
depends on the body only. A script that fills in a value holds a literal of the value, and nothing
else in it depends on the value; such scripts are all that a call to fill in has the page evaluate.
Different targets have different scripts, whatever the body, and so have different values. -/
theorem scripts_embed_literals :
    (∀ (t : Target) (body : String), ∃ literal,
      t.script body = lead ++ literal ++ trail body ∧
        Json.Embedded literal t.document (trail body)) ∧
    (∀ (t : Target) (value : String), ∃ literal,
      t.script (fillBody value) = t.fillLead ++ literal ++ fillTrail ∧
        Json.Embedded literal (.string value) fillTrail) ∧
    (∀ (peer : Chrome.Peer) (scale : Float) (t : Target) (value : String) (timeout : Nat)
      (c : Chrome.Connection), ∃ n,
        (Chrome.Talk.left (Chrome.Talk.perform peer scale (.fill t value timeout) c)).orders =
          c.orders ++ List.replicate (n + 1) (.evaluate (t.script (fillBody value)))) ∧
    (∀ (t t' : Target) (body : String), t.script body = t'.script body ↔ t = t') ∧
    ∀ (t : Target) (value value' : String),
      t.script (fillBody value) = t.script (fillBody value') ↔ value = value' :=
  ⟨fun t body => ⟨_, t.script_eq body, t.embedded_document body⟩,
    fun t value => ⟨_, t.script_fillBody_eq value, embedded_value value⟩,
    Chrome.Talk.orders_fill, fun _ _ _ => script_inj, fun _ _ _ => script_fillBody_inj⟩

end Target

end PageScript
