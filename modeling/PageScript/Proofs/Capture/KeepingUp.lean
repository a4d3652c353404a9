import PageScript.Chrome.Driven
import PageScript.Proofs.Capture.Turns

/-!
# The observer of a connection keeps up

A connection gives its observer a bounded number of turns at a time, and a turn that asks for a body
has two parts. The bound is no limit: whatever waits, after so many parts nothing is left that could
be done at once (`catchUp_rests`). Rules and events waiting are counted twice, for the two parts
(`Observer.backlog`); every part that changes something leaves less.

So an observer that is told to stop does stop: it asks for no more bodies from then on
(`Heeding`), and what leaves nothing to be done leaves it ended (`stopped_stopObserving`).

**What it does not establish.** That an observer which is not told to stop ever comes to an event:
it may wait for a body as long as the browser is patient.
-/

namespace PageScript.Chrome

open Observer

namespace Observer

variable {bodies : Bodies} {o o' : Observer}

/-- How many rules and events wait. -/
def waiting (o : Observer) : Nat :=
  o.rules.length + o.events.length

/-- The parts of turns that are left: two for what waits, and one for the end. -/
def backlog (o : Observer) : Nat :=
  2 * o.waiting + if o.stopped then 0 else 1

/-- Attending to a moment makes no difference to whether an observer has stopped. -/
@[simp] theorem attend_stopped (bodies : Bodies) (o : Observer) (x : Moment) :
    (o.attend bodies x).stopped = o.stopped := by
  rw [attend_eq_withQueues, withQueues]

/-- A turn leaves no more waiting than before. -/
theorem Turned.waiting_le (turned : Turned bodies o o') : o'.waiting ≤ o.waiting := by
  cases turned with
  | registers _ next | handles _ _ _ next => simp [waiting, next]
  | ends | rests => exact Nat.le_refl _

/-- A turn that changes something leaves a smaller backlog. -/
theorem Turned.backlog_lt (turned : Turned bodies o o') : o' = o ∨ o'.backlog < o.backlog := by
  cases turned with
  | registers _ next | handles _ _ _ next => exact .inr (by simp [backlog, waiting, next])
  | ends running => exact .inr (by simp [backlog, waiting, running])
  | rests => exact .inl rfl

/-- No occurrence makes more than one rule or event wait. -/
theorem waiting_follow_le (bodies : Bodies) (o : Observer) (past : List Occurrence) :
    (o.follow bodies past).waiting ≤ o.waiting + past.length := by
  induction past using List.reverseRecOn with
  | nil => exact Nat.le_refl _
  | append_singleton past x ih =>
    have one : ((o.follow bodies past).step bodies x).waiting ≤
        (o.follow bodies past).waiting + 1 := by
      cases x with
      | turn => exact Nat.le_succ_of_le (turned bodies _).waiting_le
      | rule | event => simp [Observer.step, waiting]; omega
      | close | stop => exact Nat.le_succ _
    rw [follow_append, List.length_append, List.length_singleton, ← Nat.add_assoc]
    exact Nat.le_trans one (Nat.add_le_add_right ih 1)

/-- A turn that asks for a body handles an event. -/
theorem backlog_turn_of_wants {id : String} (wants : o.wants? = some id) (bodies : Bodies) :
    (o.turn bodies).backlog + 2 ≤ o.backlog := by
  unfold wants? at wants
  split at wants
  · cases wants
  · rename_i free
    simp only [Bool.or_eq_true, Bool.not_eq_true', not_or, Bool.not_eq_true, Bool.not_eq_false,
      List.isEmpty_iff] at free
    obtain ⟨⟨running, ready⟩, going⟩ := free
    cases next : o.events with
    | nil => rw [next] at wants; cases wants
    | cons e rest =>
      have turned := turned bodies o
      generalize o.turn bodies = o' at turned
      cases turned with
      | registers _ some => cases ready.symm.trans some
      | handles _ _ _ some => simp [backlog, waiting, some]; omega
      | ends _ _ last =>
        rcases last with told | ⟨none, -⟩
        · cases going.symm.trans told
        · cases next.symm.trans none
      | rests idle =>
        rcases idle with ended | ⟨-, -, none, -⟩
        · cases running.symm.trans ended
        · cases next.symm.trans none

end Observer

namespace Connection

variable {peer : Peer} {c : Connection} {o : Observer}

/-- Nothing can be done at once. -/
def Rests (peer : Peer) (c : Connection) : Prop :=
  c.advance peer = c

/-- A connection that rests is not moved by further turns. -/
theorem Rests.advanceFor (rests : Rests peer c) (n : Nat) : c.advanceFor peer n = c := by
  induction n with
  | zero => rfl
  | succ n ih => rw [Connection.advanceFor, rests, ih]

/-- A connection that waits for a body goes on as soon as it can. -/
theorem advance_reading {r : Reading} (some : c.observer = some o) (reading : c.reading = .some r) :
    Rests peer c ∨ ∃ reply, c.advance peer = c.turn o reply r.missed := by
  simp only [Rests, advance, some, reading]
  split
  · exact .inr ⟨_, rfl⟩
  · split
    · exact .inr ⟨_, rfl⟩
    · exact .inl rfl

/-- When no body is waited for, as many parts as there are left suffice. -/
theorem rests_advanceFor (some : c.observer = some o) (free : c.reading = none) {n : Nat}
    (enough : o.backlog ≤ n) : Rests peer (c.advanceFor peer n) := by
  induction n using Nat.strongRecOn generalizing c o with
  | ind n ih =>
    cases wants : o.wants? with
    | none =>
      have next : c.advance peer = c.turn o none [] := by simp only [advance, some, free, wants]
      rcases (turned (fun _ _ => none) o).backlog_lt with same | less
      · have rests : Rests peer c := by
          rw [Rests, next, turn, same]
          show { c with observer := .some o, reading := none } = c
          rw [← some, ← free]
        rwa [rests.advanceFor]
      · have one : 1 ≤ n := by omega
        obtain ⟨m, rfl⟩ := Nat.exists_eq_add_of_le' one
        have left : (o.turn fun _ _ => none).backlog ≤ m := by omega
        rw [advanceFor, next]
        exact ih m (Nat.lt_succ_self m) rfl rfl left
    | some id =>
      have less (bodies : Bodies) := backlog_turn_of_wants wants bodies
      have next : c.advance peer = c.read id := by simp only [advance, some, free, wants]
      have two : 2 ≤ n := by have := less fun _ _ => none; omega
      obtain ⟨m, rfl⟩ := Nat.exists_eq_add_of_le' two
      rw [advanceFor, next]
      have asked : (c.read id).observer = .some o := some
      rcases advance_reading asked rfl with rests | ⟨reply, answered⟩
      · rwa [rests.advanceFor]
      · have left : (o.turn fun _ _ => reply).backlog ≤ m := by
          have := less fun _ _ => reply
          omega
        rw [advanceFor, answered]
        exact ih m (by omega) rfl rfl left

/-- Once the observer has caught up, nothing is left that it could do at once. -/
theorem catchUp_rests (peer : Peer) (c : Connection) : Rests peer (c.catchUp peer) := by
  cases observer : c.observer with
  | none =>
    have rests : Rests peer c := by simp only [Rests, advance, observer]
    rwa [catchUp, rests.advanceFor]
  | some o =>
    have parts (o : Observer) : o.backlog ≤ 2 * o.waiting + 1 := by
      rw [backlog]
      split <;> omega
    cases reading : c.reading with
    | none =>
      have load : c.load = o.waiting := by simp [load, observer, reading, waiting]
      rw [catchUp, load]
      exact rests_advanceFor observer reading (Nat.le_succ_of_le (parts o))
    | some r =>
      have load : c.load = o.waiting + r.missed.length := by
        simp [load, observer, reading, waiting]
      rcases advance_reading observer reading with rests | ⟨reply, next⟩
      · rwa [catchUp, rests.advanceFor]
      · rw [catchUp, load, advanceFor, next]
        refine rests_advanceFor rfl rfl (Nat.le_trans (parts _) ?_)
        have more := waiting_follow_le (fun _ _ => reply) (o.turn fun _ _ => reply) r.missed
        have less := (turned (fun _ _ => reply) o).waiting_le
        omega

/-! ## Ending -/

/-- The observer has heard the word to stop, and waits for no body. -/
def Heeding (c : Connection) : Prop :=
  ∀ o, c.observer = some o → c.reading = none ∧ o.stopping = true

/-- The observer has heard the word to stop, or will hear it with what it missed. -/
def Told (c : Connection) : Prop :=
  ∀ o, c.observer = some o → o.stopping = true ∨ ∃ r, c.reading = some r ∧ .stop ∈ r.missed

section Ending

variable {bodies : Bodies} {o : Observer} {peer : Peer} {c : Connection}

/-- A turn leaves it at what the observer was told. -/
theorem stopping_turn (bodies : Bodies) (o : Observer) :
    (o.turn bodies).stopping = o.stopping := by
  have turned := Observer.turned bodies o
  generalize o.turn bodies = o' at turned
  cases turned with
  | registers | handles => rw [attend_eq_withQueues, withQueues]
  | ends | rests => rfl

/-- The word to stop is not taken back, and it is heard when it is among what comes. -/
theorem stopping_follow (later : List Occurrence) (told : o.stopping = true ∨ .stop ∈ later) :
    (o.follow bodies later).stopping = true := by
  induction later generalizing o with
  | nil => exact told.resolve_right List.not_mem_nil
  | cons x later ih =>
    refine ih (told.elim (fun heard => .inl ?_) fun mem => ?_)
    · cases x with
      | turn => exact (stopping_turn bodies o).trans heard
      | rule | event | close => exact heard
      | stop => rfl
    · rcases List.mem_cons.mp mem with rfl | later
      · exact .inl rfl
      · exact .inr later

/-- An observer that was told to stop heeds it once the body that it waited for has come. -/
theorem Told.turn {r : Reading} (told : c.Told) (some : c.observer = .some o)
    (reading : c.reading = .some r) (reply : Option Reply) :
    (c.turn o reply r.missed).Heeding := by
  rintro o' ⟨⟩
  refine ⟨rfl, stopping_follow _ ((told o some).imp ?_ ?_)⟩
  · exact (stopping_turn _ o).trans
  · rintro ⟨r', same, mem⟩
    cases reading.symm.trans same
    exact mem

/-- An observer that heeds the word to stop takes its turn without waiting for a body. -/
theorem Heeding.advance_eq (heeding : c.Heeding) (some : c.observer = .some o) :
    c.advance peer = c.turn o none [] := by
  obtain ⟨free, stopping⟩ := heeding o some
  have wants : o.wants? = none := by simp [wants?, stopping]
  simp only [Connection.advance, some, free, wants]

/-- An observer that has heard the word to stop asks for no more bodies. -/
theorem Heeding.advance (heeding : c.Heeding) (peer : Peer) : (c.advance peer).Heeding := by
  cases some : c.observer with
  | none => rwa [Connection.advance, some]
  | some o =>
    rw [heeding.advance_eq some]
    rintro o' ⟨⟩
    exact ⟨rfl, stopping_follow _ (.inl ((stopping_turn _ o).trans (heeding o some).2))⟩

/-- An observer that heeds the word to stop heeds it for good. -/
theorem Heeding.advanceFor (heeding : c.Heeding) (peer : Peer) (n : Nat) :
    (c.advanceFor peer n).Heeding := by
  induction n generalizing c with
  | zero => exact heeding
  | succ n ih => exact ih (heeding.advance peer)

/-- An observer that heeds the word to stop was told it. -/
theorem Heeding.told (heeding : c.Heeding) : c.Told :=
  fun o some => .inl (heeding o some).2

/-- Where no body is waited for, what the observer was told it has heard. -/
theorem Told.heeding (told : c.Told) (free : c.reading = none) : c.Heeding := by
  refine fun o some => ⟨free, (told o some).resolve_right ?_⟩
  rintro ⟨r, same, -⟩
  cases free.symm.trans same

/-- What it was told is not lost on an observer that goes on. -/
theorem Told.advance (told : c.Told) (peer : Peer) : (c.advance peer).Told := by
  cases some : c.observer with
  | none => rwa [Connection.advance, some]
  | some o =>
    cases reading : c.reading with
    | none => exact ((told.heeding reading).advance peer).told
    | some r =>
      have ways : Rests peer c ∨ ∃ reply, c.advance peer = c.turn o reply r.missed :=
        advance_reading some reading
      rcases ways with rests | ⟨reply, next⟩
      · rwa [rests]
      · rw [next]
        exact (told.turn some reading reply).told

/-- An observer that was told to stop still was after catching up. -/
theorem Told.catchUp (told : c.Told) (peer : Peer) : (c.catchUp peer).Told := by
  unfold Connection.catchUp
  generalize 2 * c.load + 2 = n
  induction n generalizing c with
  | zero => exact told
  | succ n ih => exact ih (told.advance peer)

/-- Telling an observer to stop is not lost on it. -/
theorem told_tell_stop (peer : Peer) (c : Connection) : (c.tell peer .stop).Told := by
  unfold tell
  cases some : c.observer with
  | none => exact fun o other => nomatch some.symm.trans other
  | some o =>
    cases reading : c.reading with
    | none =>
      refine Told.catchUp ?_ peer
      rintro o' ⟨⟩
      exact .inl rfl
    | some r =>
      intro o' _
      exact .inr ⟨_, rfl, List.mem_append_right _ List.mem_cons_self⟩

/-- An observer whose answer does not come in time hears what it was told all the same. -/
theorem Told.heeding_catchUp (told : c.Told) (late : ∀ r ∈ c.reading, r.deadline ≤ c.time)
    (peer : Peer) : (c.catchUp peer).Heeding := by
  have first : (c.advance peer).Heeding := by
    cases some : c.observer with
    | none =>
      rw [Connection.advance, some]
      exact fun o other => nomatch some.symm.trans other
    | some o =>
      cases reading : c.reading with
      | none => exact (told.heeding reading).advance peer
      | some r =>
        simp only [Connection.advance, some, reading]
        split
        · exact told.turn some reading _
        · rw [if_pos (late r reading)]
          exact told.turn some reading none
  exact first.advanceFor peer (2 * c.load + 1)

/-- An observer that has heard the word to stop and has nothing left to do has ended. -/
theorem Heeding.stopped (heeding : c.Heeding) (rests : Rests peer c) (some : c.observer = .some o) :
    o.stopped = true := by
  have stopping := (heeding o some).2
  have same : (o.turn fun _ _ => none) = o := by
    have observer := congrArg Connection.observer ((heeding.advance_eq some).symm.trans rests)
    rw [some] at observer
    exact Option.some.inj observer
  have turned := Observer.turned (fun _ _ => none) o
  generalize (o.turn fun _ _ => none) = o' at turned same
  cases turned with
  | registers _ next =>
    have fewer := congrArg (fun o => o.rules.length) same
    simp [next] at fewer
  | handles _ _ going => cases going.symm.trans stopping
  | ends => exact congrArg Observer.stopped same.symm
  | rests idle =>
    refine idle.resolve_right fun waits => ?_
    cases waits.2.1.symm.trans stopping

/-- An observer that is told to stop has ended when it has been waited for. -/
theorem stopped_stopObserving (peer : Peer) (c : Connection)
    (some : (c.stopObserving peer).observer = .some o) : o.stopped = true := by
  have told := (told_tell_stop peer c).catchUp peer
  have rests := catchUp_rests peer (c.tell peer .stop)
  unfold stopObserving at some
  dsimp only at some
  generalize (c.tell peer .stop).catchUp peer = c' at told rests some
  split at some
  · rename_i free
    exact (told.heeding free).stopped rests some
  · rename_i r reading
    -- The answer that is waited for is given up at its deadline, so the turn goes on.
    let late : Connection := { c' with time := max c'.time r.deadline }
    have told' : late.Told := told
    refine Heeding.stopped (told'.heeding_catchUp ?_ peer) (catchUp_rests peer late) some
    intro r' same
    cases reading.symm.trans same
    exact Nat.le_max_right _ _

end Ending

end Connection

/-- The observer of a job has ended when the job reads what it has captured. -/
theorem Driven.stopped_connectionAtEnd (d : Driven) (history : History) {o : Observer}
    (some : (d.connectionAtEnd history).observer = .some o) : o.stopped = true := by
  unfold connectionAtEnd at some
  dsimp only at some
  split at some
  · exact Connection.stopped_stopObserving d.peer _ some
  · exact Connection.stopped_stopObserving d.peer _ some

end PageScript.Chrome
