import Mathlib.Data.List.TakeWhile
import PageScript.Proofs.Run.Accounting

/-!
# Only sound calls are made

Whatever a script holds, what a step hands to the page or to the assistant is sound
(`Call.IsSound`): addresses are absolute, sizes and texts are there, targets can be found, and the
timeout is that of the step or else the one of the settings. A step that holds something else is
refused before it makes a call (`Step.Effective`), and filling in variables makes no text empty.

**What it does not establish.** An assistant who works on the page by itself chooses what it does
there: of its calls nothing is said here but for the instruction it is given. What a model chooses
is the matter of the module on its actions.
-/

namespace PageScript

open Run

/-! ## Addresses and texts -/

/-- Word characters, a colon with two slashes, and something after them that holds no blank. -/
def IsAbsolute (url : String) : Prop :=
  ∃ word rest, url.toList = word ++ ':' :: '/' :: '/' :: rest ∧
    (word ≠ [] ∧ ∀ c ∈ word, Text.isWordChar c = true) ∧
    rest ≠ [] ∧ ∀ c ∈ rest, Text.isBlank c = false

/-- An address is absolute in the sense of the program if and only if it is. -/
theorem isAbsoluteUrl_iff (url : String) : isAbsoluteUrl url = true ↔ IsAbsolute url := by
  have colon : Text.isWordChar ':' = false := by decide +kernel
  constructor
  · intro absolute
    unfold isAbsoluteUrl at absolute
    dsimp only at absolute
    split at absolute
    · rename_i rest after
      simp only [Bool.and_eq_true, Bool.not_eq_true', List.isEmpty_eq_false_iff] at absolute
      obtain ⟨⟨word, some⟩, solid⟩ := absolute
      refine ⟨_, rest, ?_, ⟨word, fun c mem => List.mem_takeWhile_imp mem⟩, some, ?_⟩
      · rw [← after]
        exact List.takeWhile_append_dropWhile.symm
      · simpa [Text.hasBlank] using solid
    · cases absolute
  · rintro ⟨word, rest, parts, ⟨some, chars⟩, more, solid⟩
    have before : url.toList.takeWhile Text.isWordChar = word := by
      rw [parts, List.takeWhile_append_of_pos chars, List.takeWhile_cons_of_neg (by simp [colon]),
        List.append_nil]
    have after : url.toList.dropWhile Text.isWordChar = ':' :: '/' :: '/' :: rest := by
      rw [parts, List.dropWhile_append_of_pos chars, List.dropWhile_cons_of_neg (by simp [colon])]
    have unbroken : Text.hasBlank rest = false := by
      simpa [Text.hasBlank] using solid
    simp only [isAbsoluteUrl, before, after, unbroken, List.isEmpty_eq_false_iff.mpr some,
      List.isEmpty_eq_false_iff.mpr more]
    rfl

/-! ## Sound calls -/

/-- What a call of the page is given can be used. -/
def PageCall.IsSound : PageCall → Prop
  | .goto url _ _ => IsAbsolute url
  | .setViewport width height => Step.IsDimension width ∧ Step.IsDimension height
  | .click target _ _ _ | .fill target _ _ | .waitFor target _ _ => target.alternatives ≠ []
  | .keyDown text | .keyUp text | .insertText text | .evaluate text => text ≠ ""
  | .reload _ _ | .scrollBy _ _ => True

/-- The timeout that a call of the page is given, if it has one. -/
def PageCall.timeout? : PageCall → Option Nat
  | .goto _ timeout _ | .reload timeout _ | .click _ timeout _ _ | .fill _ _ timeout
  | .waitFor _ _ timeout => some timeout
  | _ => none

namespace Call

/-- How long a call may take, if it is limited. -/
def timeout? : Call → Option Nat
  | .page call => call.timeout?
  | .act _ timeout _ | .extract _ timeout => some timeout

/-- How long a call may take whose step does not say. -/
def defaultTimeout (settings : Settings) : Call → Nat
  | .page (.goto _ _ _) | .page (.reload _ _) => settings.navTimeout
  | _ => settings.domTimeout

/-- What a call is given can be used; an instruction is not blank. -/
def IsUsable : Call → Prop
  | .page call => call.IsSound
  | .act instruction _ _ | .extract instruction _ =>
    ∃ c ∈ instruction.toList, Text.isBlank c = false

/-- A timeout is positive, and it is the one of the step if that is, or else the default. -/
structure IsTimeout (own : Option Nat) (default ms : Nat) : Prop where
  positive : 1 ≤ ms
  given : ∀ n, own = some n → 0 < n → ms = n
  otherwise : (∀ n, own = some n → n = 0) → ms = default

/-- A call is usable, and limited as its step or else the settings say. -/
structure IsSound (settings : Settings) (own : Option Nat) (call : Call) : Prop where
  usable : call.IsUsable
  timeout : ∀ ms ∈ call.timeout?, IsTimeout own (call.defaultTimeout settings) ms

variable {settings : Settings} {own : Option Nat} {call : Call}

/-- A usable call is sound if its timeout is the one of the step, or else of the settings. -/
theorem IsSound.limited (usable : call.IsUsable) {ms : Nat} (limit : call.timeout? = some ms)
    (timeout : IsTimeout own (call.defaultTimeout settings) ms) : call.IsSound settings own := by
  refine ⟨usable, fun ms' limit' => ?_⟩
  obtain rfl := Option.some.inj (limit.symm.trans limit')
  exact timeout

/-- A usable call without a timeout is sound. -/
theorem IsSound.unlimited (usable : call.IsUsable) (none : call.timeout? = none) :
    call.IsSound settings own := by
  refine ⟨usable, fun ms limit => ?_⟩
  cases none.symm.trans limit

end Call

/-- A step's own timeout is taken if it is positive, and else the one of the settings. -/
theorem Settings.isTimeout_positiveOr (own : Option Nat) {default : Nat} (long : 1 ≤ default) :
    Call.IsTimeout own default (positiveOr own default) := by
  cases own with
  | none => exact ⟨long, nofun, fun _ => rfl⟩
  | some n =>
    unfold positiveOr
    dsimp only
    split
    · rename_i positive
      refine ⟨positive, fun m same _ => Option.some.inj same, fun zero => ?_⟩
      exact absurd (zero n rfl) (Nat.ne_of_gt positive)
    · rename_i zero
      refine ⟨long, fun m same positive => ?_, fun _ => rfl⟩
      cases same
      exact absurd positive zero

/-- The timeouts of settings are positive. -/
theorem Settings.timeouts_ofParams (p : Params) :
    1 ≤ (ofParams p).domTimeout ∧ 1 ≤ (ofParams p).navTimeout :=
  ⟨(isTimeout_positiveOr p.domTimeout (Nat.le_add_left 1 2999)).positive,
    (isTimeout_positiveOr p.navTimeout (Nat.le_add_left 1 29999)).positive⟩

namespace Step

/-- The timeout that a step holds. -/
def ownTimeout : Step → Option Nat
  | .navigate s => s.timeout
  | .reload s => s.timeout
  | .action s | .extract s => s.timeout
  | .click s | .doubleClick s => s.timeout
  | .change s => s.timeout
  | .waitFor s => s.timeout
  | _ => none

/-- A step makes the call of its effect, if it has one. -/
theorem call?_eq_some_iff {settings : Settings} {vars : Variables} {step : Step} {call : Call} :
    step.call? settings vars = some call ↔
      ∃ e, step.effect settings vars = .ok (some e) ∧ e.call? vars = some call := by
  unfold call?
  cases step.effect settings vars with
  | error e => exact ⟨nofun, by rintro ⟨_, ⟨⟩, _⟩⟩
  | ok effect =>
    cases effect with
    | none => exact ⟨nofun, by rintro ⟨_, ⟨⟩, _⟩⟩
    | some e => exact ⟨fun makes => ⟨e, rfl, makes⟩, by rintro ⟨_, ⟨⟩, makes⟩; exact makes⟩

/-- A text that is not all blank has a character that is no blank. -/
theorem exists_not_blank {p : String} (words : Text.allBlank p.toList = false) :
    ∃ c ∈ p.toList, Text.isBlank c = false := by
  simpa [Text.allBlank] using words

/-- The call of a step is sound. -/
theorem call?_isSound {p : Params} {vars : Variables} {step : Step} {call : Call}
    (makes : step.call? (.ofParams p) vars = some call) :
    call.IsSound (.ofParams p) step.ownTimeout := by
  obtain ⟨dom, nav⟩ := Settings.timeouts_ofParams p
  have onElement (own : Option Nat) := Settings.isTimeout_positiveOr own dom
  have onNavigation (own : Option Nat) := Settings.isTimeout_positiveOr own nav
  obtain ⟨e, has, makes⟩ := call?_eq_some_iff.mp makes
  cases effective_of_effect has <;> cases makes
  case navigate given absolute =>
    exact .limited ((isAbsoluteUrl_iff _).mp absolute) rfl (onNavigation _)
  case reload s => exact .limited trivial rfl (onNavigation _)
  case action given words => exact .limited (exists_not_blank words) rfl (onElement _)
  case extract given words => exact .limited (exists_not_blank words) rfl (onElement _)
  case setViewport isWidth _ isHeight => exact .unlimited ⟨isWidth, isHeight⟩ rfl
  case click given found => exact .limited found rfl (onElement _)
  case doubleClick given found => exact .limited found rfl (onElement _)
  case change given found fills => exact .limited found rfl (onElement _)
  case keyDown given nonempty => exact .unlimited nonempty rfl
  case keyUp given nonempty => exact .unlimited nonempty rfl
  case text given nonempty fills kept => exact .unlimited kept rfl
  case evaluate given nonempty fills kept => exact .unlimited kept rfl
  case waitFor given found => exact .limited found rfl (onElement _)

/-- A step that has an assistant carry something out. -/
def isInstruction : Step → Bool
  | .action _ | .extract _ => true
  | _ => false

end Step

/-- An assistant answers at once and does nothing else. -/
def Assistant.OnlyAnswers (a : Assistant) : Prop :=
  ∃ act extract, a = .answering act extract

/-! ## The calls of a run -/

/-- A call of an attempt is the call its step makes, or else one of the assistant, who was given an
instruction and does more than answer. -/
theorem Attempt.call?_of_mem_calls {scene : Scene} {a : Attempt} {entry : Nat × Call}
    (mem : entry ∈ a.calls scene) :
    a.step.call? scene.settings scene.vars = some entry.2 ∨
      a.step.isInstruction = true ∧ ¬ scene.assistant.OnlyAnswers := by
  obtain ⟨step, s⟩ := a
  by_cases answers : scene.assistant.OnlyAnswers
  · obtain ⟨act, extract, answers⟩ := answers
    rw [calls, Step.calls_answering answers, Option.mem_toList, Option.map_eq_some_iff] at mem
    obtain ⟨call, makes, rfl⟩ := mem
    exact .inl makes
  simp only [calls, Step.calls] at mem
  cases has : step.effect scene.settings scene.vars with
  | error e => simp only [has, List.not_mem_nil] at mem
  | ok effect =>
    cases effect with
    | none => simp only [has, List.not_mem_nil] at mem
    | some e =>
      simp only [has] at mem
      cases e with
      | onPage call =>
        obtain rfl := List.mem_singleton.mp mem
        exact .inl (Step.call?_eq_some_iff.mpr ⟨_, has, rfl⟩)
      | evaluate written filled =>
        obtain rfl := List.mem_singleton.mp mem
        exact .inl (Step.call?_eq_some_iff.mpr ⟨_, has, rfl⟩)
      | act instruction timeout =>
        refine .inr ⟨?_, answers⟩
        cases Step.effective_of_effect has
        rfl
      | extract instruction timeout =>
        refine .inr ⟨?_, answers⟩
        cases Step.effective_of_effect has
        rfl
      | capture rule => cases mem
      | pause ms => cases mem

end PageScript
