import PageScript.Proofs.Capture.Tables
import PageScript.Proofs.Capture.Turns

/-!
# What is captured when the observer is told to stop

From the word to stop on, the observer registers the rules that still wait and ends (`Stopping`). It
handles no event any more, so that the captures are those of the moments attended to before
(`shutdown_account`). A response that a rule was meant for is among them exactly if its end had
been handled. An end that came in time and still waited is lost, and the capture with it
(`capture_lost_at_shutdown`); where no event waits, nothing is lost.

**What it does not establish.** How long the observer waits for a body before it stops, and which
responses had come to it by then.
-/

namespace PageScript.Chrome

open Router Observer

/-! ## After the word to stop -/

/-- How many turns are taken in some occurrences. -/
def turnsIn (later : List Occurrence) : Nat :=
  later.countP fun
    | .turn => true
    | _ => false

theorem turnsIn_append (later more : List Occurrence) :
    turnsIn (later ++ more) = turnsIn later + turnsIn more :=
  List.countP_append

/-- What an observer has become that was told to stop before some occurrences. -/
structure Stopping (o : Observer) (later : List Occurrence) (o' : Observer) : Prop where
  told : o'.stopping = true
  captures : o'.router.captures = o.router.captures
  /-- Every turn registers a rule until none waits, and the next one is the last. -/
  progress : o'.stopped = true ∨
    turnsIn later + o'.rules.length = o.rules.length + (sentIn later).length

namespace Stopping

variable {bodies : Bodies} {o o' o'' : Observer} {later : List Occurrence}

/-- A turn leads on from where an observer is on its way to stop. -/
theorem turned (stopping : Stopping o later o') (turned : Turned bodies o' o'') :
    Stopping o (later ++ [.turn]) o'' := by
  have sent : sentIn (later ++ [.turn]) = sentIn later := by
    rw [sentIn_append]
    exact List.append_nil _
  cases turned with
  | @registers rule rest running next =>
    refine ⟨stopping.told, stopping.captures, .inr ?_⟩
    have waiting := stopping.progress.resolve_left (by rw [running]; decide)
    rw [sent, ← waiting, turnsIn_append, attend_rules, next, List.length_cons]
    show turnsIn later + 1 + rest.length = turnsIn later + (rest.length + 1)
    omega
  | handles _ _ going => cases stopping.told.symm.trans going
  | ends => exact ⟨stopping.told, stopping.captures, .inl rfl⟩
  | rests idle =>
    refine ⟨stopping.told, stopping.captures, .inl ?_⟩
    rcases idle with ended | ⟨-, going, -⟩
    · exact ended
    · cases stopping.told.symm.trans going

/-- An occurrence leads on from where an observer is on its way to stop. -/
theorem step (stopping : Stopping o later o') (x : Occurrence) :
    Stopping o (later ++ [x]) (o'.step bodies x) := by
  have waits (rules : List CaptureRule) (none : turnsIn [x] = 0)
      (sent : rules.length = o'.rules.length + (sentIn [x]).length) :
      o'.stopped = true ∨ turnsIn (later ++ [x]) + rules.length =
        o.rules.length + (sentIn (later ++ [x])).length := by
    refine stopping.progress.imp_right fun waiting => ?_
    rw [turnsIn_append, sentIn_append, List.length_append, sent, none]
    omega
  cases x with
  | turn => exact stopping.turned (Observer.turned bodies o')
  | rule rule => exact ⟨stopping.told, stopping.captures, waits _ rfl List.length_append⟩
  | event | close => exact ⟨stopping.told, stopping.captures, waits _ rfl rfl⟩
  | stop => exact ⟨rfl, stopping.captures, waits _ rfl rfl⟩

/-- An observer that is told to stop is on its way to stop from then on. -/
theorem follow (bodies : Bodies) (o : Observer) (later : List Occurrence) :
    Stopping o later (o.follow bodies (.stop :: later)) := by
  induction later using List.reverseRecOn with
  | nil => exact ⟨rfl, rfl, .inr (Nat.zero_add _)⟩
  | append_singleton later x ih =>
    rw [← List.cons_append, follow_append]
    exact ih.step x

end Stopping

/-! ## What was handled until then -/

theorem eventsIn_filterMap (ms : List Moment) (f : Moment → Option α)
    (rules : ∀ rule, f (.rule rule) = none) :
    ((eventsIn ms).map Moment.event).filterMap f = ms.filterMap f := by
  induction ms with
  | nil => rfl
  | cons x ms ih =>
    cases x with
    | rule rule => rw [List.filterMap_cons_none (rules rule), ← ih]; rfl
    | event e =>
      rw [show eventsIn (.event e :: ms) = e :: eventsIn ms from rfl, List.map_cons]
      simp only [List.filterMap_cons, ih]

theorem mem_eventsIn {ms : List Moment} {e : NetworkEvent} :
    e ∈ eventsIn ms ↔ .event e ∈ ms := by
  rw [eventsIn, List.mem_filterMap]
  constructor
  · rintro ⟨_ | e', mem, found⟩
    · cases found
    · exact Option.some.inj found ▸ mem
  · exact fun mem => ⟨_, mem, rfl⟩

namespace Ledger

variable {bodies : Bodies} {past : List Occurrence} {o : Observer} {ms : List Moment}
  (ledger : Ledger bodies past o ms) (once : EachOnce ((cameIn past).map Moment.event))

include ledger once

theorem eachOnce : EachOnce ms := by
  rw [← ledger.events, List.map_append] at once
  have handled := once.before
  rwa [EachOnce, eventsIn_filterMap _ _ fun _ => rfl, eventsIn_filterMap _ _ fun _ => rfl]
    at handled

/-- The end of a request was handled exactly if it came and does not wait. -/
theorem hasEnd_iff_not_waits (id : String) :
    HasEnd ms id ↔ ∃ ending, .ofEnd id ending ∈ cameIn past ∧ .ofEnd id ending ∉ o.events := by
  have once := once.2
  rw [← ledger.events, List.map_append, List.filterMap_append, List.nodup_append] at once
  have ended {ending : LoadingEnd} {es : List NetworkEvent} (mem : .ofEnd id ending ∈ es) :
      id ∈ (es.map Moment.event).filterMap Moment.ends? := by
    refine List.mem_filterMap.mpr ⟨_, List.mem_map_of_mem mem, ?_⟩
    cases ending <;> rfl
  constructor
  · rintro ⟨ending, mem⟩
    have handled := mem_eventsIn.mpr mem
    refine ⟨ending, ?_, fun waits => once.2.2 id (ended handled) id (ended waits) rfl⟩
    rw [← ledger.events]
    exact List.mem_append_left _ handled
  · rintro ⟨ending, came, free⟩
    rw [← ledger.events] at came
    exact ⟨ending, mem_eventsIn.mp ((List.mem_append.mp came).resolve_right free)⟩

end Ledger

/-- Whatever comes after the word to stop, the observer ends as soon as it has registered the rules
that wait, and has captured the requests that were complete when it was told to stop. A response
that was met by a rule is among them exactly if its end had come and did not wait any more. -/
theorem shutdown_account (bodies : Bodies) {past : List Occurrence}
    (once : EachOnce ((cameIn past).map Moment.event)) (later : List Occurrence) :
    let o := start.follow bodies past
    let final := o.follow bodies (.stop :: later)
    ∃ ms done, Ledger bodies past o ms ∧
      (o.rules.length + (sentIn later).length < turnsIn later → final.stopped = true) ∧
      final.router.captures = (settlements bodies [] done).map Settlement.capture ∧
      (∀ c, c ∈ done ↔ c.Within ms) ∧
      (done.Pairwise fun c d => c.moment < d.moment) ∧
      ∀ id, Matched ms id → (id ∈ done.map Completion.id ↔
        ∃ ending, .ofEnd id ending ∈ cameIn past ∧ .ofEnd id ending ∉ o.events) := by
  intro o final
  obtain ⟨ms, ledger⟩ := exists_ledger bodies past
  have stopping : Stopping o later final := .follow bodies o later
  have once' := ledger.eachOnce once
  obtain ⟨done, tally⟩ := (tally_start bodies).attendAll ms once'
  rw [List.nil_append] at tally
  refine ⟨ms, done, ledger, fun turns => ?_, ?_, tally.mem_iff once', tally.ordered,
    fun id matched => ?_⟩
  · exact stopping.progress.resolve_right (by omega)
  · rw [stopping.captures, ledger.router, tally.captures]
  · rw [← ledger.hasEnd_iff_not_waits once, tally.mem_map_id_iff once']
    constructor
    · rintro ⟨_, j, _, ending, _, ended, -⟩
      exact ⟨ending, List.mem_of_getElem? ended⟩
    · rintro ⟨ending, mem⟩
      obtain ⟨i, m, answered, applies⟩ := matched
      obtain ⟨j, ended⟩ := List.mem_iff_getElem?.mp mem
      exact ⟨i, j, m, ending, answered, ended, applies⟩

/-- A body of three characters, whatever was asked for before. -/
def sameBody : Bodies := fun _ _ =>
  some (.ok (.object [("base64Encoded", .bool false), ("body", .string "[1]")]))

/-- All that came was handled, and a rule waits. -/
def allHandled : List Occurrence :=
  [.rule ⟨"/api/", false, false⟩, .turn, .event (.finished "a"),
   .event (.response "a" ⟨"http://h/api/a", 200, []⟩), .turn, .turn, .rule ⟨".js", true, false⟩]

theorem shutdown_account_allHandled :
    EachOnce ((cameIn allHandled).map Moment.event) ∧
      let o := start.follow sameBody allHandled
      let final := o.follow sameBody [.stop, .turn, .turn]
      final.stopped = true ∧
        ∃ ms done, Ledger sameBody allHandled o ms ∧
          final.router.captures = (settlements sameBody [] done).map Settlement.capture ∧
          done.map (·.response.url) = ["http://h/api/a"] := by
  have once : EachOnce ((cameIn allHandled).map Moment.event) := by decide
  obtain ⟨ms, done, ledger, ends, captures, -⟩ := shutdown_account sameBody once [.turn, .turn]
  refine ⟨once, ends (by decide), ms, done, ledger, captures, ?_⟩
  have urls := congrArg (List.map Capture.url) captures
  rw [List.map_map] at urls
  rw [← map_completion_settlements sameBody [] done, List.map_map]
  exact urls.symm.trans (by decide)

/-- Two responses are met by a rule and both their ends come, but the second end still waits. -/
def lastWaits : List Occurrence :=
  [.rule ⟨"/api/", false, false⟩, .turn,
   .event (.response "a" ⟨"http://h/api/a", 200, []⟩),
   .event (.response "b" ⟨"http://h/api/b", 200, []⟩), .turn, .turn,
   .event (.finished "a"), .event (.finished "b"), .turn]

/-- The capture of a response whose end came in time is lost. -/
theorem capture_lost_at_shutdown :
    let o := start.follow sameBody lastWaits
    let final := o.follow sameBody [.stop, .turn]
    final.stopped = true ∧
      find? "b" o.router.pending =
        some ⟨⟨"/api/", false, false⟩, ⟨"http://h/api/b", 200, []⟩, none⟩ ∧
      .response "b" ⟨"http://h/api/b", 200, []⟩ ∈ cameIn lastWaits ∧
      .finished "b" ∈ cameIn lastWaits ∧
      final.router.captures.map Capture.url = ["http://h/api/a"] := by
  refine ⟨by decide, rfl, ?_, ?_, by decide⟩
  · exact List.mem_of_getElem? (i := 1) rfl
  · exact List.mem_of_getElem? (i := 3) rfl

end PageScript.Chrome
