import PageScript.Proofs.Capture.Course

/-!
# What the page is told

Of the commands that go over a connection, the observer of the network sends those that read
responses, at times of its own. All others are sent by calls: `Connection.orders` are these, and a
call that polls adds nothing to them but its expression, as often as it evaluates it
(`Talk.orders_poll`).

**What it does not establish.** When the orders are given, and what the page answers to them.
-/

namespace PageScript.Chrome

/-- A command that a call leads to, and not the observer of the network. -/
def Command.isOrder : Command → Bool
  | .responseBody _ => false
  | _ => true

namespace Connection

/-- The commands that went over a connection, without those of the observer. -/
def orders (c : Connection) : List Command :=
  c.sent.filter Command.isOrder

/-- Reading a response is no order. -/
theorem orders_read (c : Connection) (id : String) : (c.read id).orders = c.orders := by
  simp [read, orders, Command.isOrder]

/-- A turn of the observer gives no order. -/
theorem orders_advance (peer : Peer) (c : Connection) : (c.advance peer).orders = c.orders := by
  unfold advance
  split
  · rfl
  · split
    · exact c.orders_read _
    · rfl
  · split
    · rfl
    · split <;> rfl

/-- Catching up gives no order. -/
theorem orders_catchUp (peer : Peer) (c : Connection) : (c.catchUp peer).orders = c.orders := by
  unfold catchUp
  generalize 2 * c.load + 2 = n
  induction n generalizing c with
  | zero => rfl
  | succ n ih => exact (ih _).trans (c.orders_advance peer)

/-- An occurrence that is told gives no order. -/
theorem orders_tell (peer : Peer) (c : Connection) (news : Occurrence) :
    (c.tell peer news).orders = c.orders := by
  unfold tell
  split
  · rfl
  · exact orders_catchUp peer _
  · rfl

/-- Events that are received give no order. -/
theorem orders_receiveAll (peer : Peer) (c : Connection) (events : List Event) :
    (c.receiveAll peer events).orders = c.orders := by
  induction events generalizing c with
  | nil => rfl
  | cons e events ih =>
    refine (ih (c.receive peer e)).trans ?_
    cases e with
    | network e => exact c.orders_tell peer _
    | lifecycle | withinDocument => rfl

/-- A command that is sent is one more order, unless it is one of the observer. -/
theorem orders_send (peer : Peer) (c : Connection) (command : Command) :
    (c.send peer command).2.orders = c.orders ++ [command].filter Command.isOrder := by
  refine (orders_receiveAll peer _ _).trans ?_
  rw [← c.orders_catchUp peer]
  exact List.filter_append ..

end Connection

namespace Talk

/-- Returning another value leaves the same connection. -/
theorem left_bind_pure (x : Talk α) (b : β) (c : Connection) :
    left ((x >>= fun _ => pure b) c) = left (x c) := by
  change left (EStateM.bind x _ c) = _
  unfold EStateM.bind
  cases x c <;> rfl

/-- Evaluating gives its expression as an order. -/
theorem orders_evaluate (peer : Peer) (expression : String) (c : Connection) :
    (left (evaluate peer expression c)).orders = c.orders ++ [.evaluate expression] := by
  have sent := c.orders_send peer (.evaluate expression)
  change (left (EStateM.bind (EStateM.bind (exchange peer _) _) _ c)).orders = _
  simp only [EStateM.bind, exchange]
  generalize c.send peer (.evaluate expression) = result at sent
  obtain ⟨delivery, c'⟩ := result
  cases delivery.reply with
  | some => exact sent
  | none => exact sent

/-- An evaluation gives its expression as an order, whatever its answer is. -/
theorem orders_evaluation (peer : Peer) (expression : String) (c : Connection) :
    (evaluation peer expression c).2.orders = c.orders ++ [.evaluate expression] := by
  have sent := orders_evaluate peer expression c
  unfold evaluation
  split <;> rename_i result <;> rw [result] at sent <;> exact sent

/-- Polling evaluates its expression and does nothing else, at least once. -/
theorem orders_polling (peer : Peer) (expression : String) (deadline now : Nat) (c : Connection) :
    ∃ n, (Polling.run (evaluation peer expression) deadline now c).state.orders =
      c.orders ++ List.replicate (n + 1) (.evaluate expression) := by
  have one {c c' : Connection} {e : Evaluation}
      (evaluated : evaluation peer expression c = (e, c')) :
      c'.orders = c.orders ++ [.evaluate expression] := by
    have sent := orders_evaluation peer expression c
    rwa [evaluated] at sent
  fun_induction Polling.run (evaluation peer expression) deadline now c with
  | case1 now c e c' evaluated v found =>
    simp only [evaluated, found]
    exact ⟨0, one evaluated⟩
  | case2 now c e c' evaluated nothing late =>
    simp only [evaluated, nothing, late, if_true]
    exact ⟨0, one evaluated⟩
  | case3 now c e c' evaluated nothing early ih =>
    obtain ⟨n, later⟩ := ih
    refine ⟨n + 1, ?_⟩
    simp only [evaluated, nothing, early, if_false]
    rw [later, one evaluated, List.append_assoc, List.singleton_append, ← List.replicate_succ]

/-- Polling gives its expression as an order, once at least. -/
theorem orders_poll (peer : Peer) (expression : String) (timeout : Nat) (what : String)
    (c : Connection) : ∃ n, (left (poll peer expression timeout what c)).orders =
      c.orders ++ List.replicate (n + 1) (.evaluate expression) := by
  have concludes (polled : Polling.Polled Connection) :
      (left (conclude timeout what polled)).orders = polled.state.orders := by
    unfold conclude
    cases polled.value <;> rfl
  obtain ⟨n, polled⟩ := orders_polling peer expression (c.time + timeout * millisecond) c.time c
  exact ⟨n, (concludes _).trans polled⟩

/-- Filling in a value is evaluating the script that holds it, once or several times. -/
theorem orders_fill (peer : Peer) (scale : Float) (target : Target) (value : String)
    (timeout : Nat) (c : Connection) :
    ∃ n, (left (perform peer scale (.fill target value timeout) c)).orders =
      c.orders ++ List.replicate (n + 1) (.evaluate (target.script (Target.fillBody value))) := by
  obtain ⟨n, polled⟩ := orders_poll peer (target.script (Target.fillBody value)) timeout
    (waitingFor target "visible") c
  exact ⟨n, (congrArg Connection.orders (left_bind_pure _ Json.null c)).trans polled⟩

end Talk

end PageScript.Chrome
