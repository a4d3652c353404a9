import PageScript.Run.Effect

/-!
# What a step needs

Before a step has an effect, what it holds is checked. A check gives a value with some property or
finds a fault of the job (`Checks`), and checks in a row are a check. `Step.Effective` says for
each kind of step what it must hold and which effect it has then; `Step.checks_effect` says that a
step either is of this kind or fails with a fault of the job.

**What it does not establish.** What a step needs of the page is not checked here: a target may be
missing all the same.
-/

namespace PageScript

/-! ## Checks -/

/-- What a check gives has a property, and all it finds are faults of the job. -/
def Checks (P : α → Prop) : Except Failure α → Prop
  | .ok a => P a
  | .error e => e.isValidation = true

/-- Checks in a row are a check, of what the last one gives. -/
theorem Checks.bind {P : α → Prop} {Q : β → Prop} {x : Except Failure α}
    {f : α → Except Failure β} (first : Checks P x) (next : ∀ a, P a → Checks Q (f a)) :
    Checks Q (x >>= f) := by
  cases x with
  | error e => exact first
  | ok a => exact next a first

/-- What a check gives is what it gave. -/
theorem Checks.given {P : α → Prop} {x : Except Failure α} (checks : Checks P x) :
    Checks (fun a => x = .ok a ∧ P a) x := by
  cases x with
  | error e => exact checks
  | ok a => exact ⟨rfl, checks⟩

/-- A text that is not empty has pieces. -/
theorem Placeholder.pieces_ne_nil {s : List Char} (some : s ≠ []) : pieces s ≠ [] := by
  cases s with
  | nil => exact absurd rfl some
  | cons c rest =>
    rw [pieces]
    split
    · split <;> exact List.cons_ne_nil _ _
    · exact List.cons_ne_nil _ _

namespace Variables

variable (vars : Variables)

/-- Filling in makes no piece vanish, for no value is empty. -/
theorem checks_fill (pieces : List Placeholder.Piece) :
    Checks (fun filled => pieces ≠ [] → filled ≠ []) (vars.fill pieces) := by
  induction pieces with
  | nil => exact fun some => absurd rfl some
  | cons piece rest ih =>
    cases piece with
    | literal c => exact ih.bind fun tail _ _ => List.cons_ne_nil c tail
    | name n =>
      rw [fill]
      cases found : vars.value? (String.ofList n) with
      | none => exact rfl
      | some value =>
        have nonempty : value.isEmpty = false := by
          simpa using (Option.filter_eq_some_iff.mp found).2
        refine ih.bind fun tail _ _ => List.append_ne_nil_of_left_ne_nil ?_ tail
        intro none
        rw [String.toList_eq_nil_iff.mp none] at nonempty
        cases nonempty

/-- A text that is not empty is not empty when it is filled in. -/
theorem checks_interpolate (text : String) :
    Checks (fun filled => vars.interpolate text = .ok filled ∧ (text ≠ "" → filled ≠ ""))
      (vars.interpolate text) := by
  refine Checks.given (Checks.bind (vars.checks_fill _) fun filled kept some none => ?_)
  have pieces := Placeholder.pieces_ne_nil fun empty => some (String.toList_eq_nil_iff.mp empty)
  exact kept pieces (String.ofList_eq_empty_iff.mp none)

end Variables

/-- A target that is built from selectors has a way to be found. -/
theorem Target.checks_ofSelectors (kind : String) (selectors : Option Json) :
    Checks (fun target => target.alternatives ≠ []) (ofSelectors kind selectors) := by
  unfold ofSelectors
  split
  · exact rfl
  · dsimp only
    split
    · exact rfl
    · rename_i some
      exact fun none => some (List.isEmpty_iff.mpr none)

namespace Step

/-- An address is checked to be given and absolute. -/
theorem Navigate.checks_absoluteUrl (s : Navigate) :
    Checks (fun url => s.url = some (.string url) ∧ isAbsoluteUrl url = true) s.absoluteUrl := by
  unfold absoluteUrl
  dsimp only
  split
  · rename_i given
    split
    · rename_i absolute
      exact ⟨given, absolute⟩
    · exact rfl
  · exact rfl

/-- A rule is checked to have an address that is not empty. -/
theorem Capture.checks_rule (s : Capture) :
    Checks (fun rule => (s.url = some (.string rule.url) ∧ rule.url ≠ "") ∧
      rule.download = s.download ∧ rule.pretty = s.pretty) s.rule := by
  unfold rule
  dsimp only
  split
  · rename_i given
    split
    · exact rfl
    · rename_i some
      exact ⟨⟨given, fun empty => some (String.isEmpty_iff.mpr empty)⟩, rfl, rfl⟩
  · exact rfl

/-- An instruction is checked to be given and not blank. -/
theorem Prompt.checks_instruction (s : Prompt) (fault : String) :
    Checks (fun p => s.prompt = some p ∧ Text.allBlank p.toList = false)
      (s.instruction fault) := by
  unfold instruction
  split
  · rename_i given
    split
    · exact rfl
    · rename_i words
      exact ⟨given, Bool.eq_false_iff.mpr words⟩
  · exact rfl

/-- A text is checked to be given and not empty. -/
theorem checks_filledIn (text : Option String) (fault : String) :
    Checks (fun t => text = some t ∧ t ≠ "") (filledIn text fault) := by
  unfold filledIn
  split
  · split
    · exact rfl
    · rename_i some
      exact ⟨rfl, fun empty => some (String.isEmpty_iff.mpr empty)⟩
  · exact rfl

/-- A page dimension: positive, and a number of 32 bits. -/
def IsDimension (n : Nat) : Prop :=
  1 ≤ n ∧ n ≤ 0xFFFFFFFF

/-- A dimension is a number within its bounds. -/
theorem of_dimension? {n : Option Nat} {m : Nat} (given : dimension? n = some m) :
    n = some m ∧ IsDimension m := by
  obtain ⟨given, bounds⟩ := Option.filter_eq_some_iff.mp given
  simp only [Bool.and_eq_true, decide_eq_true_eq] at bounds
  exact ⟨given, bounds.1, by omega⟩

/-- A size is checked to have two dimensions. -/
theorem Viewport.checks_size (s : Viewport) :
    Checks (fun size => (s.width = some size.1 ∧ IsDimension size.1) ∧
      s.height = some size.2 ∧ IsDimension size.2) s.size := by
  unfold size
  split
  · rename_i wide high
    exact ⟨of_dimension? wide, of_dimension? high⟩
  · exact rfl

/-- A duration is checked to be positive. -/
theorem Sleep.checks_positive (s : Sleep) :
    Checks (fun ms => s.duration = some ms ∧ 0 < ms) s.positive := by
  unfold positive
  split
  · rename_i given
    split
    · rename_i long
      exact ⟨given, long⟩
    · exact rfl
  · exact rfl

/-! ## Effects -/

/-- What a step that runs holds, and the effect it has. -/
inductive Effective (settings : Settings) (vars : Variables) : Step → Option Effect → Prop where
  | navigate {s : Navigate} {url : String} (given : s.url = some (.string url))
    (absolute : isAbsoluteUrl url = true) :
    Effective settings vars (.navigate s)
      (some (.onPage (.goto url (settings.navigationTimeout s.timeout) (s.waitUntil.getD .load))))
  | reload (s : Reload) :
    Effective settings vars (.reload s)
      (some (.onPage (.reload (settings.navigationTimeout s.timeout) (s.waitUntil.getD .load))))
  | capture {s : Capture} {rule : CaptureRule} (given : s.url = some (.string rule.url))
    (nonempty : rule.url ≠ "") (download : rule.download = s.download)
    (pretty : rule.pretty = s.pretty) :
    Effective settings vars (.capture s) (some (.capture rule))
  | action {s : Prompt} {p : String} (given : s.prompt = some p)
    (words : Text.allBlank p.toList = false) :
    Effective settings vars (.action s) (some (.act p (settings.elementTimeout s.timeout)))
  | extract {s : Prompt} {p : String} (given : s.prompt = some p)
    (words : Text.allBlank p.toList = false) :
    Effective settings vars (.extract s) (some (.extract p (settings.elementTimeout s.timeout)))
  | setViewport {s : Viewport} {width height : Nat} (wide : s.width = some width)
    (isWidth : IsDimension width) (high : s.height = some height) (isHeight : IsDimension height) :
    Effective settings vars (.setViewport s) (some (.onPage (.setViewport width height)))
  | click {s : Click} {target : Target}
    (given : Target.ofSelectors "click" s.selectors = .ok target)
    (found : target.alternatives ≠ []) :
    Effective settings vars (.click s)
      (some (.onPage (.click target (settings.elementTimeout s.timeout) s.offset 1)))
  | doubleClick {s : Click} {target : Target}
    (given : Target.ofSelectors "doubleClick" s.selectors = .ok target)
    (found : target.alternatives ≠ []) :
    Effective settings vars (.doubleClick s)
      (some (.onPage (.click target (settings.elementTimeout s.timeout) s.offset 2)))
  | change {s : Change} {target : Target} {value : String}
    (given : Target.ofSelectors "change" s.selectors = .ok target)
    (found : target.alternatives ≠ []) (fills : vars.interpolate s.valueText = .ok value) :
    Effective settings vars (.change s)
      (some (.onPage (.fill target value (settings.elementTimeout s.timeout))))
  | keyDown {s : Key} {key : String} (given : s.key = some key) (nonempty : key ≠ "") :
    Effective settings vars (.keyDown s) (some (.onPage (.keyDown key)))
  | keyUp {s : Key} {key : String} (given : s.key = some key) (nonempty : key ≠ "") :
    Effective settings vars (.keyUp s) (some (.onPage (.keyUp key)))
  | text {s : Typing} {text filled : String} (given : s.content = some text)
    (nonempty : text ≠ "") (fills : vars.interpolate text = .ok filled) (kept : filled ≠ "") :
    Effective settings vars (.text s) (some (.onPage (.insertText filled)))
  | evaluate {s : Evaluate} {script filled : String} (given : s.script = some script)
    (nonempty : script ≠ "") (fills : vars.interpolate script = .ok filled) (kept : filled ≠ "") :
    Effective settings vars (.evaluate s) (some (.evaluate script filled))
  | sleep {s : Sleep} {ms : Nat} (given : s.duration = some ms) (long : 0 < ms) :
    Effective settings vars (.sleep s) (some (.pause ms))
  | waitFor {s : WaitFor} {target : Target}
    (given : Target.ofSelectors "waitFor" s.selectors = .ok target)
    (found : target.alternatives ≠ []) :
    Effective settings vars (.waitFor s)
      (some (.onPage (.waitFor target (s.state.getD .visible)
        (settings.elementTimeout s.timeout))))
  | unknown (kind : String) : Effective settings vars (.unknown kind) none

variable {settings : Settings} {vars : Variables}

/-- A step holds what it needs and has its effect, or there is a fault in it. -/
theorem checks_effect (step : Step) :
    Checks (Effective settings vars step) (step.effect settings vars) := by
  cases step with
  | navigate s => exact s.checks_absoluteUrl.bind fun _ h => .navigate h.1 h.2
  | reload s => exact .reload s
  | capture s => exact s.checks_rule.bind fun _ h => .capture h.1.1 h.1.2 h.2.1 h.2.2
  | action s => exact (s.checks_instruction _).bind fun _ h => .action h.1 h.2
  | extract s => exact (s.checks_instruction _).bind fun _ h => .extract h.1 h.2
  | setViewport s =>
    exact s.checks_size.bind fun _ h => .setViewport h.1.1 h.1.2 h.2.1 h.2.2
  | click s =>
    have target := (Target.checks_ofSelectors "click" s.selectors).given
    refine Checks.bind (P := fun e => Effective settings vars (.click s) (some e)) ?_ fun _ h => h
    exact target.bind fun _ h => .click h.1 h.2
  | doubleClick s =>
    have target := (Target.checks_ofSelectors "doubleClick" s.selectors).given
    refine Checks.bind (P := fun e => Effective settings vars (.doubleClick s) (some e)) ?_
      fun _ h => h
    exact target.bind fun _ h => .doubleClick h.1 h.2
  | change s =>
    have target := (Target.checks_ofSelectors "change" s.selectors).given
    exact target.bind fun _ h => (vars.checks_interpolate _).bind fun _ fills =>
      .change h.1 h.2 fills.1
  | keyDown s => exact (checks_filledIn _ _).bind fun _ h => .keyDown h.1 h.2
  | keyUp s => exact (checks_filledIn _ _).bind fun _ h => .keyUp h.1 h.2
  | text s =>
    exact (checks_filledIn _ _).bind fun _ h => (vars.checks_interpolate _).bind fun _ fills =>
      .text h.1 h.2 fills.1 (fills.2 h.2)
  | evaluate s =>
    exact (checks_filledIn _ _).bind fun _ h => (vars.checks_interpolate _).bind fun _ fills =>
      .evaluate h.1 h.2 fills.1 (fills.2 h.2)
  | sleep s => exact s.checks_positive.bind fun _ h => .sleep h.1 h.2
  | waitFor s =>
    have target := (Target.checks_ofSelectors "waitFor" s.selectors).given
    exact target.bind fun _ h => .waitFor h.1 h.2
  | unknown kind => exact .unknown kind
  | invalid kind reason => exact rfl

/-- A step with an effect is of the kind that has it. -/
theorem effective_of_effect {step : Step} {e : Option Effect}
    (has : step.effect settings vars = .ok e) : Effective settings vars step e := by
  have checks : Checks (Effective settings vars step) _ := step.checks_effect
  rwa [has] at checks

/-- A step without an effect fails with a fault of the job. -/
theorem isValidation_of_effect {step : Step} {e : Failure}
    (fails : step.effect settings vars = .error e) : e.isValidation = true := by
  have checks : Checks (Effective settings vars step) _ := step.checks_effect
  rwa [fails] at checks

end Step

end PageScript
