import PageScript.Chrome.Driven
import PageScript.Proofs.Capture.Turns

/-!
# The observer of a job goes through occurrences

A connection lets a turn of its observer wait for a body, and keeps what comes meanwhile. That makes
no difference: the observer is always what it would be after some occurrences, one after the other,
with every turn taken as a whole (`Observed`). The bodies are those that the browser handed out, in
the order in which they were asked for. Whatever goes over the connection keeps this, and so does
all that a job does with the page (`observation_follows`).

**What it does not establish.** Nothing is said of when the turns are taken, only that whole turns
describe what came of them; what the observer makes of the occurrences is the matter of the modules
on the router.
-/

namespace PageScript.Chrome

open Observer

/-- Bodies by the order in which they are asked for. -/
def Bodies.inOrder (replies : List (Option Reply)) : Bodies := fun asked _ =>
  replies[asked.length]?.join

namespace Observer

variable {bodies bodies' : Bodies} {o : Observer}

/-- A turn asks for one body at most, and depends on no other. -/
theorem turn_asks (bodies : Bodies) (o : Observer) :
    (o.turn bodies).asked = o.asked ++ o.wants?.toList ∧
      ∀ bodies' : Bodies, (∀ id, o.wants? = some id → bodies o.asked id = bodies' o.asked id) →
        o.turn bodies' = o.turn bodies := by
  obtain ⟨rules, events, closed, stopping, stopped, router, asked, findings⟩ := o
  have idle {o o' : Observer} (asked : o'.asked = o.asked) (none : o.wants? = none) :
      o'.asked = o.asked ++ o.wants?.toList := by
    rw [none, asked]
    exact (List.append_nil _).symm
  cases stopped with
  | true => exact ⟨idle rfl rfl, fun _ _ => rfl⟩
  | false =>
    rcases rules with _ | ⟨rule, rules⟩
    · cases stopping with
      | true => exact ⟨idle rfl rfl, fun _ _ => rfl⟩
      | false =>
        rcases events with _ | ⟨e, events⟩
        · cases closed <;> exact ⟨idle rfl rfl, fun _ _ => rfl⟩
        · simp only [turn, handle, wants?, Bool.false_eq_true, if_false, List.isEmpty_nil,
            Bool.not_true, Bool.or_false, List.head?_cons, Option.map_some]
          rcases router.receive e with ⟨router, _ | ⟨id, _ | reason⟩, lines⟩
          · exact ⟨(List.append_nil _).symm, fun _ _ => rfl⟩
          · refine ⟨rfl, fun bodies' same => ?_⟩
            simp only [settle, same id rfl]
          · exact ⟨(List.append_nil _).symm, fun _ _ => rfl⟩
    · exact ⟨idle rfl rfl, fun _ _ => rfl⟩

/-- What is no turn depends on no body and asks for none. -/
theorem step_of_ne_turn (bodies bodies' : Bodies) (o : Observer) {x : Occurrence}
    (other : x ≠ .turn) :
    o.step bodies x = o.step bodies' x ∧ (o.step bodies x).asked = o.asked := by
  cases x with
  | turn => exact absurd rfl other
  | rule | event | close | stop => exact ⟨rfl, rfl⟩

/-- Without turns in between no body is read, so that it makes no difference which bodies there are,
and the requests that were asked for stay the same. -/
theorem follow_of_no_turn (bodies bodies' : Bodies) (o : Observer) {missed : List Occurrence}
    (none : .turn ∉ missed) :
    o.follow bodies missed = o.follow bodies' missed ∧
      (o.follow bodies missed).asked = o.asked := by
  induction missed using List.reverseRecOn with
  | nil => exact ⟨rfl, rfl⟩
  | append_singleton missed x ih =>
    rw [List.mem_append, List.mem_singleton, not_or] at none
    obtain ⟨same, asked⟩ := ih none.1
    obtain ⟨same', asked'⟩ :=
      step_of_ne_turn bodies bodies' (o.follow bodies missed) (Ne.symm none.2)
    rw [follow_append, follow_append, ← same, ← asked]
    exact ⟨same', asked'⟩

/-- Bodies that have not been asked for make no difference. -/
theorem follow_inOrder_append {replies : List (Option Reply)} (more : List (Option Reply))
    {past : List Occurrence}
    (known : (start.follow (.inOrder replies) past).asked.length ≤ replies.length) :
    start.follow (.inOrder (replies ++ more)) past = start.follow (.inOrder replies) past := by
  induction past using List.reverseRecOn with
  | nil => rfl
  | append_singleton past x ih =>
    rw [follow_append] at known
    rw [follow_append, follow_append]
    generalize start.follow (.inOrder replies) past = o at known ih
    change (o.step (.inOrder replies) x).asked.length ≤ replies.length at known
    change (start.follow (.inOrder (replies ++ more)) past).step (.inOrder (replies ++ more)) x =
      o.step (.inOrder replies) x
    by_cases turn : x = .turn
    · subst turn
      obtain ⟨asked, congr⟩ := turn_asks (.inOrder replies) o
      change (o.turn _).asked.length ≤ replies.length at known
      rw [asked, List.length_append] at known
      rw [ih (Nat.le_trans (Nat.le_add_right _ _) known)]
      refine congr _ fun id wants => ?_
      rw [wants] at known
      rw [Bodies.inOrder, Bodies.inOrder, List.getElem?_append_left known]
    · obtain ⟨same, asked⟩ := step_of_ne_turn (.inOrder replies) (.inOrder (replies ++ more)) o turn
      rw [asked] at known
      rw [ih known, same]

/-- An observer is what one becomes that goes through some occurrences, for some bodies. -/
def OnCourse (o : Observer) : Prop :=
  ∃ replies past, o = start.follow (.inOrder replies) past ∧ o.asked.length = replies.length

/-- An observer that was told of nothing is on its course. -/
theorem onCourse_start : OnCourse .start :=
  ⟨[], [], rfl, rfl⟩

namespace OnCourse

/-- Whatever the observer is told of, a turn apart, leaves it on its course. -/
theorem step (course : o.OnCourse) (bodies : Bodies) {x : Occurrence} (other : x ≠ .turn) :
    (o.step bodies x).OnCourse := by
  obtain ⟨replies, past, rfl, known⟩ := course
  obtain ⟨same, asked⟩ := step_of_ne_turn bodies (.inOrder replies) _ other
  refine ⟨replies, past ++ [x], ?_, by rw [asked, known]⟩
  rw [same, follow_append]
  rfl

/-- A turn for which a body was read, and what came meanwhile. -/
theorem turn (course : o.OnCourse) (reply : Option Reply) {missed : List Occurrence}
    (none : .turn ∉ missed) :
    let bodies : Bodies := fun _ _ => reply
    ((o.turn bodies).follow bodies missed).OnCourse := by
  intro bodies
  obtain ⟨replies, past, course, known⟩ := course
  obtain ⟨asked, congr⟩ := turn_asks bodies o
  -- The answer counts for the bodies of the whole course, if it was asked for.
  let all := replies ++ o.wants?.toList.map fun _ => reply
  have same : o.turn (.inOrder all) = o.turn bodies := by
    refine congr _ fun id wants => ?_
    simp [bodies, all, Bodies.inOrder, wants, known]
  have before : start.follow (.inOrder all) past = o := by
    rw [follow_inOrder_append _ (by rw [← course]; exact Nat.le_of_eq known), course]
  obtain ⟨later, asked'⟩ := follow_of_no_turn bodies (.inOrder all) (o.turn bodies) none
  refine ⟨all, past ++ .turn :: missed, ?_, ?_⟩
  · rw [later, ← same, follow_append, before]
    rfl
  · rw [asked', asked, List.length_append, known, List.length_append, List.length_map]

end OnCourse

end Observer

/-! ## What goes over a connection -/

/-- The observer of a connection is on its course, and no turn of it is missed. -/
structure Connection.Observed (c : Connection) : Prop where
  course : ∀ o, c.observer = some o → o.OnCourse
  missed : ∀ r, c.reading = some r → .turn ∉ r.missed

namespace Connection.Observed

variable {peer : Peer} {c : Connection}

/-- A turn, or the part of it that can be taken now, keeps what is known of the observer. -/
theorem advance (observed : c.Observed) : (c.advance peer).Observed := by
  have turn {o : Observer} (some : c.observer = some o) (reply : Option Reply)
      {missed : List Occurrence} (none : .turn ∉ missed) : (c.turn o reply missed).Observed := by
    refine ⟨?_, nofun⟩
    rintro o' ⟨⟩
    exact (observed.course o some).turn reply none
  unfold Connection.advance
  split
  · exact observed
  · rename_i o some free
    split
    · refine ⟨observed.course, ?_⟩
      rintro r ⟨⟩
      exact List.not_mem_nil
    · exact turn some none List.not_mem_nil
  · rename_i o r some reading
    have missed := observed.missed r reading
    split
    · exact turn some _ missed
    · split
      · exact turn some none missed
      · exact observed

/-- So do the turns that are due. -/
theorem catchUp (observed : c.Observed) : (c.catchUp peer).Observed := by
  unfold Connection.catchUp
  generalize 2 * c.load + 2 = n
  induction n generalizing c with
  | zero => exact observed
  | succ n ih => exact ih observed.advance

/-- Telling the observer of a rule, an event or the word to stop adds it to what came, or to what
was missed if a body is being read. -/
theorem tell (observed : c.Observed) {news : Occurrence} (other : news ≠ .turn) :
    (c.tell peer news).Observed := by
  unfold Connection.tell
  split
  · exact observed
  · rename_i o some free
    refine catchUp ⟨?_, observed.missed⟩
    rintro o' ⟨⟩
    exact (observed.course o some).step _ other
  · rename_i o r some reading
    refine ⟨observed.course, ?_⟩
    rintro r' ⟨⟩
    rw [List.mem_append, List.mem_singleton, not_or]
    exact ⟨observed.missed r reading, Ne.symm other⟩

/-- Sending a command brings events, of which the observer is told one after the other. -/
theorem send (observed : c.Observed) (command : Command) : (c.send peer command).2.Observed := by
  have all (events : List Event) {c : Connection} (observed : c.Observed) :
      (c.receiveAll peer events).Observed := by
    induction events generalizing c with
    | nil => exact observed
    | cons e events ih =>
      cases e with
      | network e => exact ih (observed.tell Occurrence.noConfusion)
      | lifecycle | withinDocument => exact ih observed
  have caught : (c.catchUp peer).Observed := observed.catchUp
  exact all _ ⟨caught.course, caught.missed⟩

/-- Stopping the observer is one more thing that it is told of, and the turns after it. -/
theorem stopObserving (observed : c.Observed) : (c.stopObserving peer).Observed := by
  have told : ((c.tell peer .stop).catchUp peer).Observed :=
    (observed.tell Occurrence.noConfusion).catchUp
  unfold Connection.stopObserving
  dsimp only
  split
  · exact told
  · exact catchUp ⟨told.course, told.missed⟩

end Connection.Observed

/-! ## What a job does -/

namespace Talk

/-- The connection that a computation left. -/
def left : EStateM.Result Failure Connection α → Connection
  | .ok _ c => c
  | .error _ c => c

/-- A computation keeps the observer on its course. -/
def Keeps (x : Talk α) : Prop :=
  ∀ c, c.Observed → (left (x c)).Observed

/-- A computation that does nothing keeps the observer. -/
theorem keeps_pure (a : α) : Keeps (pure a) := fun _ observed => observed

/-- A failure keeps the observer. -/
theorem keeps_throw (e : Failure) : Keeps (throw e : Talk α) := fun _ observed => observed

/-- Reading the connection keeps what was observed. -/
theorem keeps_get : Keeps get := fun _ observed => observed

/-- What is done one after the other keeps the observer if each part does. -/
theorem Keeps.bind {x : Talk α} {f : α → Talk β} (first : Keeps x) (rest : ∀ a, Keeps (f a)) :
    Keeps (x >>= f) := by
  intro c observed
  have kept := first c observed
  show (left (EStateM.bind x f c)).Observed
  unfold EStateM.bind
  cases result : x c with
  | ok a c' => rw [result] at kept; exact rest a c' kept
  | error e c' => rw [result] at kept; exact kept

section

variable {peer : Peer}

/-- One command and its answer keep the observer, also where the answer does not come in time. -/
theorem keeps_exchange (command : Command) : Keeps (exchange peer command) := by
  intro c observed
  have sent : (c.send peer command).2.Observed := observed.send command
  unfold exchange
  dsimp only
  generalize c.send peer command = result at sent
  obtain ⟨delivery, c'⟩ := result
  cases delivery.reply with
  | some => exact sent
  | none => exact ⟨sent.course, sent.missed⟩

/-- Asking keeps what was observed. -/
theorem keeps_ask (command : Command) : Keeps (ask peer command) :=
  (keeps_exchange command).bind fun _ => keeps_pure _

/-- Ordering keeps what was observed. -/
theorem keeps_order (command : Command) : Keeps (order peer command) := by
  refine (keeps_ask command).bind fun result => ?_
  cases result with
  | ok => exact keeps_pure _
  | error => exact keeps_throw _

/-- Evaluating keeps what was observed. -/
theorem keeps_evaluate (expression : String) : Keeps (evaluate peer expression) :=
  (keeps_ask _).bind fun _ => keeps_pure _

/-- An evaluation for polling is a command like any other. -/
theorem observed_evaluation (peer : Peer) {c : Connection} (observed : c.Observed)
    (expression : String) : (evaluation peer expression c).2.Observed := by
  have kept := @keeps_evaluate peer expression c observed
  unfold evaluation
  split <;> rename_i result <;> rw [result] at kept <;> exact kept

/-- Polling repeats evaluations, by induction on the attempts. -/
theorem observed_polling (peer : Peer) {c : Connection} (observed : c.Observed)
    (expression : String) (deadline now : Nat) :
    (Polling.run (evaluation peer expression) deadline now c).state.Observed := by
  have kept {c e c'} (observed : c.Observed) (evaluated : evaluation peer expression c = (e, c')) :
      c'.Observed := by
    have kept := observed_evaluation peer observed expression
    rwa [evaluated] at kept
  fun_induction Polling.run (evaluation peer expression) deadline now c with
  | case1 now c e c' evaluated v found =>
    simp only [evaluated, found]
    exact kept observed evaluated
  | case2 now c e c' evaluated nothing late =>
    simp only [evaluated, nothing, late, if_true]
    exact kept observed evaluated
  | case3 now c e c' evaluated nothing early ih =>
    simp only [evaluated, nothing, early, if_false]
    exact ih (kept observed evaluated)

/-- Polling keeps the observer, whether the value comes or the time is over. -/
theorem keeps_poll (expression : String) (timeout : Nat) (what : String) :
    Keeps (poll peer expression timeout what) := by
  have concludes (polled : Polling.Polled Connection) (observed : polled.state.Observed) :
      (left (conclude timeout what polled)).Observed := by
    unfold conclude
    cases polled.value <;> exact ⟨observed.course, observed.missed⟩
  exact fun c observed => concludes _ (observed_polling peer observed expression _ c.time)

/-- Waiting for the end of a navigation only lets time pass. -/
theorem keeps_settle (start : Nat) (ending : Timed (Except Failure Unit)) :
    Keeps (settle start ending) := by
  intro c observed
  unfold settle
  cases ending.value <;> exact ⟨observed.course, observed.missed⟩

/-- Navigating keeps what was observed. -/
theorem keeps_goto (url : String) (timeout : Nat) (waitUntil : WaitUntil) :
    Keeps (goto peer url timeout waitUntil) := by
  intro c observed
  exact keeps_settle _ _ _ (observed.send _)

/-- Reloading keeps what was observed. -/
theorem keeps_reload (timeout : Nat) (waitUntil : WaitUntil) :
    Keeps (reload peer timeout waitUntil) := by
  refine keeps_get.bind fun start => (keeps_exchange _).bind fun d => ?_
  cases resultOf d.reply with
  | ok => exact keeps_settle _ _
  | error => exact keeps_throw _

/-- Pressing keeps what was observed. -/
theorem keeps_press (x y : Float) (done left : Nat) : Keeps (press peer x y done left) := by
  induction left generalizing done with
  | zero => exact keeps_pure _
  | succ left ih => exact (keeps_order _).bind fun _ => (keeps_order _).bind fun _ => ih _

/-- A click looks for its target, then moves the mouse, and presses it as often as it should. -/
theorem keeps_click (target : Target) (timeout : Nat) (offset : Option (Float × Float))
    (count : Nat) : Keeps (click peer target timeout offset count) := by
  refine (keeps_poll _ _ _).bind fun found => ?_
  cases ElementBox.ofJson found with
  | error => exact keeps_throw _
  | ok box => exact (keeps_order _).bind fun _ => keeps_press _ _ _ _

/-- Requiring a value keeps what was observed. -/
theorem keeps_require (expression : String) : Keeps (require peer expression) := by
  refine (keeps_evaluate _).bind fun result => ?_
  cases result with
  | ok => exact keeps_pure _
  | error => exact keeps_throw _

/-- Each call of the page is made of commands, polling and waits, and keeps the observer. -/
theorem keeps_perform (scale : Float) (call : PageCall) : Keeps (perform peer scale call) := by
  cases call with
  | goto => exact (keeps_goto _ _ _).bind fun _ => keeps_pure _
  | reload => exact (keeps_reload _ _).bind fun _ => keeps_pure _
  | setViewport | keyDown | keyUp | insertText =>
    exact (keeps_order _).bind fun _ => keeps_pure _
  | click => exact (keeps_click _ _ _ _).bind fun _ => keeps_pure _
  | fill | waitFor => exact (keeps_poll _ _ _).bind fun _ => keeps_pure _
  | evaluate => exact keeps_require _
  | scrollBy => exact (keeps_require _).bind fun _ => keeps_pure _

/-- Allowing downloads keeps what was observed. -/
theorem keeps_allowDownloads (o : LaunchOptions) : Keeps (allowDownloads peer o) := by
  refine (keeps_ask _).bind fun result => ?_
  cases result <;> exact keeps_pure _

/-- Opening a page takes a fixed list of commands, of which none touches the observer. -/
theorem keeps_openPage (o : LaunchOptions) : Keeps (openPage peer o) := by
  refine (keeps_ask _).bind fun result => ?_
  cases result with
  | error => exact keeps_throw _
  | ok =>
    refine (keeps_order _).bind fun _ => (keeps_order _).bind fun _ => ?_
    cases o.ignoreCertificates with
    | true => exact (keeps_order _).bind fun _ => keeps_order _
    | false => exact (keeps_pure _).bind fun _ => keeps_order _

/-- With the word to observe the observer is at its start. -/
theorem keeps_observe : Keeps observe := by
  intro c _
  refine ⟨?_, nofun⟩
  rintro o ⟨⟩
  exact onCourse_start

/-- Starting a recording keeps what was observed. -/
theorem keeps_record (o : LaunchOptions) : Keeps (record peer o) :=
  (keeps_order _).bind fun _ _ observed => ⟨observed.course, observed.missed⟩

end

end Talk

namespace Driven

variable (d : Driven)

/-- How a computation ends is no matter: the connection it leaves is looked at. -/
theorem observed_outcome {x : Talk Unit} (keeps : Talk.Keeps x) {c : Connection}
    (observed : c.Observed) : (x.outcome c).2.Observed := by
  have kept := keeps c observed
  unfold Talk.outcome
  split <;> rename_i result <;> rw [result] at kept <;> exact kept

/-- A session begins with the observer, if it gets as far, and with the recorder after it. -/
theorem observed_openSession (warnings : List LogLine) {c : Connection} (observed : c.Observed) :
    (d.openSession warnings c).connection.Observed := by
  have page := observed_outcome (@Talk.keeps_openPage d.peer d.options) observed
  unfold openSession
  generalize (Talk.openPage d.peer d.options).outcome c = opened at page
  obtain ⟨result, c'⟩ := opened
  cases result with
  | error => exact page
  | ok =>
    have observing := observed_outcome Talk.keeps_observe page
    cases d.recording with
    | none => exact observing
    | some => exact observed_outcome (Talk.keeps_record d.options) observing

/-- Before the first call there is no observer yet, or it is at its start, however far the session
was opened. -/
theorem observed_beginning : d.beginning.connection.Observed := by
  have opened : Connection.opened.Observed := ⟨nofun, nofun⟩
  have allowed := @Talk.keeps_allowDownloads d.peer d.options _ opened
  unfold beginning
  split <;> rename_i result <;> rw [result] at allowed
  · exact d.observed_openSession _ allowed
  · exact d.observed_openSession _ allowed

/-- The rules of a place in the history are registered one after the other. -/
theorem observed_register (rules : List Registration) (done : Nat) {c : Connection}
    (observed : c.Observed) : (d.register rules done c).Observed := by
  unfold Driven.register
  induction rules.filter (·.after == done) generalizing c with
  | nil => exact observed
  | cons r rest ih => exact ih (observed.tell Occurrence.noConfusion)

/-- A call of the page, as the driven browser makes it, keeps the observer. -/
theorem observed_perform (call : PageCall) {c : Connection} (observed : c.Observed) :
    (d.perform call c).2.Observed := by
  have kept := @Talk.keeps_perform d.peer d.options.scale call c observed
  unfold Driven.perform
  split <;> rename_i result <;> rw [result] at kept
  · exact kept.catchUp
  · exact kept

/-- By induction on the calls of the history, with the rules between them. -/
theorem observed_performFrom (rules : List Registration) (calls : List Call) (done : Nat)
    {c : Connection} (observed : c.Observed) : (d.performFrom rules done calls c).Observed := by
  induction calls generalizing done c with
  | nil => exact d.observed_register rules done observed
  | cons call rest ih =>
    have registered := d.observed_register rules done observed
    cases call with
    | page call => exact ih _ (d.observed_perform call registered)
    | act | extract => exact ih _ registered

/-- At the end of a job the observer was stopped, and is what it would be after some occurrences. -/
theorem observed_connectionAtEnd (history : History) : (d.connectionAtEnd history).Observed := by
  have after : (d.connectionAfter history).Observed :=
    d.observed_performFrom _ _ _ d.observed_beginning
  unfold connectionAtEnd
  dsimp only
  split
  · exact after.stopObserving
  · exact (after.send _).stopObserving

/-- What a job is told of the network is what an observer tells that has gone through some
occurrences, with every turn taken as a whole. -/
theorem observation_follows (history : History) :
    ∃ replies past, let o := start.follow (.inOrder replies) past
      d.observation history = ⟨o.router.captures, o.findings⟩ := by
  have observed := d.observed_connectionAtEnd history
  unfold observation Connection.observed
  cases some : (d.connectionAtEnd history).observer with
  | none => exact ⟨[], [], rfl⟩
  | some o =>
    obtain ⟨replies, past, rfl, -⟩ := observed.course o some
    exact ⟨replies, past, rfl⟩

end Driven

end PageScript.Chrome
