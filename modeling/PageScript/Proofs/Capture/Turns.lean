import Mathlib.Data.List.Induction
import PageScript.Proofs.Capture.Completion

/-!
# Turns of the observer

Rules are sent, events come and the word to stop is given at any time; in between, the observer
takes its turns. `Turned` says all that a turn can do. A turn attends to one moment at most, so a
run has attended to some moments, one after the other, and what was sent and came is among them or
still waits (`Ledger`). `Ledger.step` is what one occurrence preserves and `exists_ledger` what a
whole run does.

An event is only taken when no rule waits. By the ledger every rule that was sent is then
registered, and a response meets the first of them that is meant for it (`rules_before_events`).

**What it does not establish.** When a turn is taken is left open, so that nothing is promised on
how soon an event is attended to.
-/

namespace PageScript.Chrome

open Router

/-! ## What was sent and what came -/

/-- The rules sent in some occurrences, first sent first. -/
def sentIn (past : List Occurrence) : List CaptureRule :=
  past.filterMap fun
    | .rule rule => some rule
    | _ => none

/-- The events that came in some occurrences, first come first. -/
def cameIn (past : List Occurrence) : List NetworkEvent :=
  past.filterMap fun
    | .event e => some e
    | _ => none

/-- The events handled in some moments, first handled first. -/
def eventsIn (ms : List Moment) : List NetworkEvent :=
  ms.filterMap fun
    | .rule _ => none
    | .event e => some e

/-- The rules that were sent in two stretches are those of the first and then those of the second.
-/
theorem sentIn_append (past later : List Occurrence) :
    sentIn (past ++ later) = sentIn past ++ sentIn later :=
  List.filterMap_append

/-- The events that came in two stretches are those of the first and then those of the second. -/
theorem cameIn_append (past later : List Occurrence) :
    cameIn (past ++ later) = cameIn past ++ cameIn later :=
  List.filterMap_append

theorem rulesIn_append (ms more : List Moment) :
    rulesIn (ms ++ more) = rulesIn ms ++ rulesIn more :=
  List.filterMap_append

theorem eventsIn_append (ms more : List Moment) :
    eventsIn (ms ++ more) = eventsIn ms ++ eventsIn more :=
  List.filterMap_append

/-- An event that came did so after some events and before the others. -/
theorem exists_of_cameIn_eq_append {past : List Occurrence} {before after : List NetworkEvent}
    {e : NetworkEvent} (came : cameIn past = before ++ e :: after) :
    ∃ early late, past = early ++ .event e :: late ∧ cameIn early = before ∧
      cameIn late = after := by
  obtain ⟨early, rest, rfl, earlier, later⟩ := List.filterMap_eq_append_iff.mp came
  obtain ⟨idle, x, late, rfl, nothing, here, after'⟩ := List.filterMap_eq_cons_iff.mp later
  cases x with
  | event e' =>
    obtain rfl := Option.some.inj here
    refine ⟨early ++ idle, late, by rw [List.append_assoc], ?_, after'⟩
    rw [cameIn_append, show cameIn early = before from earlier,
      show cameIn idle = [] from List.filterMap_eq_nil_iff.mpr nothing, List.append_nil]
  | rule | close | stop | turn => cases here

namespace Observer

variable {bodies : Bodies} {o o' : Observer}

/-! ## What a turn does -/

/-- What one turn makes of an observer. -/
inductive Turned (bodies : Bodies) (o : Observer) : Observer → Prop where
  /-- It registers the rule that was sent first. -/
  | registers {rule : CaptureRule} {rest : List CaptureRule} (running : o.stopped = false)
      (next : o.rules = rule :: rest) :
      Turned bodies o ({ o with rules := rest }.attend bodies (.rule rule))
  /-- It handles the event that came first: there is no rule to register. -/
  | handles {e : NetworkEvent} {rest : List NetworkEvent} (running : o.stopped = false)
      (ready : o.rules = []) (going : o.stopping = false) (next : o.events = e :: rest) :
      Turned bodies o ({ o with events := rest }.attend bodies (.event e))
  /-- It ends, as it was told to or because nothing more can come. -/
  | ends (running : o.stopped = false) (ready : o.rules = [])
      (last : o.stopping = true ∨ o.events = [] ∧ o.closed = true) :
      Turned bodies o { o with stopped := true }
  /-- It finds nothing to do, or has ended before. -/
  | rests (idle : o.stopped = true ∨
      o.rules = [] ∧ o.stopping = false ∧ o.events = [] ∧ o.closed = false) : Turned bodies o o

/-- A turn does one of the things that `Turned` lists. -/
theorem turned (bodies : Bodies) (o : Observer) : Turned bodies o (o.turn bodies) := by
  rw [turn]
  split
  · rename_i ended
    exact .rests (.inl ended)
  · rename_i running
    have running := Bool.eq_false_iff.mpr running
    split
    · rename_i rule rest next
      exact .registers running next
    · rename_i ready
      split
      · rename_i told
        exact .ends running ready (.inl told)
      · rename_i going
        have going := Bool.eq_false_iff.mpr going
        split
        · rename_i e rest next
          exact .handles running ready going next
        · rename_i none
          split
          · rename_i closed
            exact .ends running ready (.inr ⟨none, closed⟩)
          · rename_i opened
            exact .rests (.inr ⟨ready, going, none, Bool.eq_false_iff.mpr opened⟩)

/-! ## Queues and work -/

/-- The work of an observer with the queues of another. -/
def withQueues (o queues : Observer) : Observer :=
  { queues with router := o.router, asked := o.asked, findings := o.findings }

/-- Attending to a moment depends on no queue and changes none. -/
theorem attend_withQueues (bodies : Bodies) (o queues : Observer) (x : Moment) :
    (o.withQueues queues).attend bodies x = (o.attend bodies x).withQueues queues := by
  cases x with
  | rule rule => rfl
  | event e =>
    simp only [attend, handle, withQueues]
    rcases o.router.receive e with ⟨router, _ | ⟨id, _ | reason⟩, lines⟩ <;> rfl

/-- Attending to a moment leaves the queues as they are, and the word to stop. -/
theorem attend_eq_withQueues (bodies : Bodies) (o : Observer) (x : Moment) :
    o.attend bodies x = (o.attend bodies x).withQueues o :=
  attend_withQueues bodies o o x

@[simp] theorem attend_rules (bodies : Bodies) (o : Observer) (x : Moment) :
    (o.attend bodies x).rules = o.rules := by
  rw [attend_eq_withQueues, withQueues]

@[simp] theorem attend_events (bodies : Bodies) (o : Observer) (x : Moment) :
    (o.attend bodies x).events = o.events := by
  rw [attend_eq_withQueues, withQueues]

/-- One more moment is attended to after the others. -/
theorem attendAll_concat (bodies : Bodies) (o : Observer) (ms : List Moment) (x : Moment) :
    o.attendAll bodies (ms ++ [x]) = (o.attendAll bodies ms).attend bodies x := by
  rw [attendAll, List.foldl_append]
  rfl

/-- Occurrences are followed one stretch after the other. -/
theorem follow_append (bodies : Bodies) (o : Observer) (past later : List Occurrence) :
    o.follow bodies (past ++ later) = (o.follow bodies past).follow bodies later :=
  List.foldl_append

/-! ## Rules of the router -/

/-- Being told of an event registers no rule. -/
theorem receive_rules (r : Router) (e : NetworkEvent) : (r.receive e).1.rules = r.rules := by
  have ended (id : String) (ending : LoadingEnd) :
      (r.onLoadingEnd id ending).1.rules = r.rules := by
    unfold onLoadingEnd
    split
    · rfl
    · split <;> rfl
  cases e with
  | finished id => exact ended id .finished
  | failed id reason => exact ended id (.failed reason)
  | response id m =>
    cases found : r.ruleFor? m.url with
    | none => simp only [receive, onResponse_unmatched id found, Bool.false_eq_true, if_false]
    | some rule =>
      simp only [receive, onResponse_matched id found, if_true, takeEarlyEnd]
      split <;> rfl

/-- Settling a body registers no rule. -/
theorem settle_rules (r : Router) (id : String) (body : Except String ResponseBody) :
    (r.settle id body).router.rules = r.rules := by
  unfold Router.settle
  split <;> rfl

/-- The router has the rules of the moments that were attended to, added at the end. -/
theorem attend_router_rules (bodies : Bodies) (o : Observer) (x : Moment) :
    (o.attend bodies x).router.rules = o.router.rules ++ rulesIn [x] := by
  cases x with
  | rule rule => rfl
  | event e =>
    have told := receive_rules o.router e
    rw [show rulesIn [.event e] = [] from rfl, List.append_nil, ← told, attend, handle]
    rcases o.router.receive e with ⟨router, _ | ⟨id, _ | reason⟩, lines⟩
    · rfl
    · exact settle_rules router id _
    · exact settle_rules router id _

/-- From the start on, the rules of the router are those of the moments. -/
theorem attendAll_router_rules (bodies : Bodies) (ms : List Moment) :
    (start.attendAll bodies ms).router.rules = rulesIn ms := by
  induction ms using List.reverseRecOn with
  | nil => rfl
  | append_singleton ms x ih => rw [attendAll_concat, attend_router_rules, ih, rulesIn_append]

end Observer

/-! ## The ledger -/

open Observer

/-- An observer has attended to some moments, and what was sent and came in some occurrences is
among them, in the same order, or still waits. -/
structure Ledger (bodies : Bodies) (past : List Occurrence) (o : Observer) (ms : List Moment) :
    Prop where
  work : o = (start.attendAll bodies ms).withQueues o
  rules : rulesIn ms ++ o.rules = sentIn past
  events : eventsIn ms ++ o.events = cameIn past

namespace Ledger

variable {bodies : Bodies} {past : List Occurrence} {o : Observer} {ms : List Moment}

/-- In a ledger the router is that of an observer which attended to the moments and nothing else. -/
theorem router (ledger : Ledger bodies past o ms) :
    o.router = (start.attendAll bodies ms).router :=
  (congrArg Observer.router ledger.work).trans rfl

/-- Every rule is registered that was sent and does not wait. -/
theorem registered (ledger : Ledger bodies past o ms) : o.router.rules = rulesIn ms := by
  rw [ledger.router, attendAll_router_rules]

/-- Taking something from a queue and attending to it keeps the work. -/
theorem attend (ledger : Ledger bodies past o ms) (rules : List CaptureRule)
    (events : List NetworkEvent) (x : Moment) :
    let o' := { o with rules := rules, events := events }.attend bodies x
    o' = (start.attendAll bodies (ms ++ [x])).withQueues o' := by
  intro o'
  have same : { o with rules := rules, events := events } =
      (start.attendAll bodies ms).withQueues { o with rules := rules, events := events } := by
    rw [ledger.work]
    rfl
  have attended : o' = ((start.attendAll bodies ms).attend bodies x).withQueues
      { o with rules := rules, events := events } := by
    rw [← attend_withQueues, ← same]
  rw [attendAll_concat, attended]
  rfl

/-- A turn attends to one moment or to none. -/
theorem turned {o' : Observer} (ledger : Ledger bodies past o ms) (turned : Turned bodies o o') :
    ∃ ms', Ledger bodies past o' ms' := by
  cases turned with
  | @registers rule rest _ next =>
    refine ⟨ms ++ [.rule rule], ledger.attend rest o.events (.rule rule), ?_, ?_⟩
    · rw [attend_rules, rulesIn_concat_rule, List.append_assoc, List.singleton_append, ← next,
        ledger.rules]
    · rw [attend_events, eventsIn_append, show eventsIn [.rule rule] = [] from rfl,
        List.append_nil, ledger.events]
  | @handles e rest _ _ _ next =>
    refine ⟨ms ++ [.event e], ledger.attend o.rules rest (.event e), ?_, ?_⟩
    · rw [attend_rules, rulesIn_concat_event, ledger.rules]
    · rw [attend_events, eventsIn_append, show eventsIn [.event e] = [e] from rfl,
        List.append_assoc, List.singleton_append, ← next, ledger.events]
  | ends => exact ⟨ms, by rw [ledger.work]; rfl, ledger.rules, ledger.events⟩
  | rests => exact ⟨ms, ledger⟩

/-- The step lemma: an occurrence adds to what came, or a turn moves the first of what waits to the
moments. -/
theorem step (ledger : Ledger bodies past o ms) (x : Occurrence) :
    ∃ ms', Ledger bodies (past ++ [x]) (o.step bodies x) ms' := by
  -- Only a turn attends to anything; other occurrences make a queue longer or none.
  have queued (o' : Observer) (work : o' = o.withQueues o')
      (rules : o'.rules = o.rules ++ sentIn [x]) (events : o'.events = o.events ++ cameIn [x]) :
      Ledger bodies (past ++ [x]) o' ms := by
    refine ⟨?_, ?_, ?_⟩
    · rw [work, ledger.work]
      rfl
    · rw [rules, sentIn_append, ← ledger.rules, List.append_assoc]
    · rw [events, cameIn_append, ← ledger.events, List.append_assoc]
  cases x with
  | rule rule => exact ⟨ms, queued _ rfl rfl (List.append_nil _).symm⟩
  | event e => exact ⟨ms, queued _ rfl (List.append_nil _).symm rfl⟩
  | close | stop =>
    exact ⟨ms, queued _ rfl (List.append_nil _).symm (List.append_nil _).symm⟩
  | turn =>
    obtain ⟨ms', attended⟩ := ledger.turned (Observer.turned bodies o)
    refine ⟨ms', attended.work, ?_, ?_⟩
    · rw [sentIn_append]
      exact attended.rules.trans (List.append_nil _).symm
    · rw [cameIn_append]
      exact attended.events.trans (List.append_nil _).symm

end Ledger

/-- Every run has a ledger. -/
theorem exists_ledger (bodies : Bodies) (past : List Occurrence) :
    ∃ ms, Ledger bodies past (start.follow bodies past) ms := by
  induction past using List.reverseRecOn with
  | nil => exact ⟨[], rfl, rfl, rfl⟩
  | append_singleton past x ih =>
    obtain ⟨ms, ledger⟩ := ih
    rw [follow_append]
    exact ledger.step x

/-! ## Rules come before events -/

/-- A turn takes an event: it is the next one that waits, and after the turn it waits no more. -/
def Observer.Takes (bodies : Bodies) (o : Observer) (e : NetworkEvent) : Prop :=
  o.events = e :: (o.turn bodies).events

/-- A response is met by a rule: it waits for its body under that rule, or is captured under it as
its request has ended before. -/
def MetBy (rule : CaptureRule) (id : String) (m : ResponseMeta) (o o' : Observer) : Prop :=
  find? id o'.router.pending = some ⟨rule, m, none⟩ ∨
    ∃ body, o'.router.captures = o.router.captures ++ [captureOf rule m body]

section

variable {bodies : Bodies} {past : List Occurrence} {o : Observer} {e : NetworkEvent}

/-- A turn that takes an event handles it, and no rule waits. -/
theorem Observer.Takes.handled (takes : o.Takes bodies e) :
    o.rules = [] ∧ ∃ rest, o.events = e :: rest ∧
      o.turn bodies = { o with events := rest }.handle bodies e := by
  have turned := turned bodies o
  unfold Takes at takes
  generalize o.turn bodies = o' at takes turned
  cases turned with
  | registers => exact absurd takes.symm (by rw [attend_events]; exact List.cons_ne_self e _)
  | ends | rests => exact absurd takes.symm (List.cons_ne_self e _)
  | @handles e' rest _ ready _ next =>
    rw [attend_events] at takes
    obtain rfl : e' = e := (List.cons.inj (next.symm.trans takes)).1
    exact ⟨ready, rest, next, rfl⟩

/-- A response that is handled is met by the first registered rule that is meant for it. -/
theorem Observer.metBy_handle {rule : CaptureRule} {id : String} {m : ResponseMeta}
    (found : o.router.ruleFor? m.url = some rule) :
    MetBy rule id m o (o.handle bodies (.response id m)) := by
  cases early : find? id o.router.earlyEnds with
  | none =>
    rw [handle_matched found early]
    exact .inl (by rw [find?_assign, if_pos rfl])
  | some ending =>
    rw [handle_late found early]
    exact .inr ⟨_, rfl⟩

/-- When a turn takes an event, all rules that were sent are registered, in the order in which they
were sent. So a response that came after a rule is met by that rule, unless one that was sent
before is meant for it too. -/
theorem rules_before_events (takes : (start.follow bodies past).Takes bodies e) :
    let o := start.follow bodies past
    o.router.rules = sentIn past ∧
      ∃ early late, past = early ++ .event e :: late ∧ o.events = e :: cameIn late ∧
        ∀ id m, e = .response id m → ∀ before rule after, sentIn early = before ++ rule :: after →
          rule.applies m.url → (∀ other ∈ before, ¬ other.applies m.url) →
            MetBy rule id m o (o.turn bodies) := by
  intro o
  obtain ⟨ready, rest, next, handled⟩ := takes.handled
  obtain ⟨ms, ledger⟩ := exists_ledger bodies past
  have registered : o.router.rules = sentIn past := by
    rw [ledger.registered, ← ledger.rules, ready, List.append_nil]
  have came : cameIn past = eventsIn ms ++ e :: rest := by rw [← ledger.events, next]
  obtain ⟨early, late, split, -, later⟩ := exists_of_cameIn_eq_append came
  refine ⟨registered, early, late, split, by rw [later]; exact next, ?_⟩
  rintro id m rfl before rule after sent applies others
  have first : o.router.ruleFor? m.url = some rule := by
    rw [ruleFor?, registered, split, sentIn_append, sent, List.append_assoc]
    exact List.find?_eq_some_iff_append.mpr
      ⟨applies, before, _, rfl, fun other mem => by simpa using others other mem⟩
  rw [handled]
  exact metBy_handle first

end

/-- The second rule is sent while a response waits that came before it. -/
def sentMeanwhile : List Occurrence :=
  [.rule ⟨"/api/", false, false⟩, .event (.response "a" ⟨"http://h/api/1", 200, []⟩),
   .rule ⟨".js", true, false⟩, .event (.response "b" ⟨"http://h/b.js", 200, []⟩),
   .turn, .turn, .turn]

/-- A rule is sent while an event waits; the response that the event tells of meets the rule. -/
theorem rules_before_events_sentMeanwhile :
    let o := start.follow (fun _ _ => none) sentMeanwhile
    let m : ResponseMeta := ⟨"http://h/b.js", 200, []⟩
    o.Takes (fun _ _ => none) (.response "b" m) ∧
      o.router.rules = [⟨"/api/", false, false⟩, ⟨".js", true, false⟩] ∧
      MetBy ⟨".js", true, false⟩ "b" m o (o.turn fun _ _ => none) := by
  intro o m
  have takes : o.Takes (fun _ _ => none) (.response "b" m) := rfl
  obtain ⟨registered, early, late, split, -, met⟩ := rules_before_events takes
  obtain ⟨rfl, -⟩ : early = sentMeanwhile.take 3 ∧ late = sentMeanwhile.drop 4 := by
    simpa [sentMeanwhile, List.cons_eq_append_iff, m] using split
  refine ⟨takes, registered, met "b" m rfl [⟨"/api/", false, false⟩] _ [] rfl (by decide) ?_⟩
  exact List.forall_mem_singleton.mpr (by decide)

end PageScript.Chrome
