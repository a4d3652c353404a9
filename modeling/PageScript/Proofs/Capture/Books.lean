import PageScript.Proofs.Capture.Account

/-!
# What the router's tables hold

`handle_…` say what handling an event does to the observer, one equation for each way in which the
tables can stand. `Books` says what the tables hold after some moments: a request is in at most one
of them, and in which one depends on nothing but which of its two events were handled and whether a
rule was meant for its response when that was handled. `Books.attend` is the step: every moment
keeps the books, as long as no request has two responses or two ends.

**What it does not establish.** Requests with two responses or two ends are left out; which bodies
are asked for is another matter.
-/

namespace PageScript

namespace Router

/-- Taking a request out of a table leaves all others in it. -/
theorem find?_without (id other : String) (table : List (String × α)) :
    find? other (without id table) = if other = id then none else find? other table := by
  induction table with
  | nil => simp [without, find?]
  | cons entry table ih =>
    obtain ⟨key, a⟩ := entry
    simp only [without] at ih
    by_cases hk : key = id
    · subst hk
      by_cases ho : other = key
      · simpa [without, ho] using ih
      · simp [without, find?, ih, ho, Ne.symm ho]
    · by_cases ho : key = other
      · subst ho
        simp [without, find?, hk]
      · simp [without, find?, hk, ho, ih]

/-- Entering a request puts it in place of an older entry, and leaves all others. -/
theorem find?_assign (id other : String) (a : α) (table : List (String × α)) :
    find? other (assign id a table) = if other = id then some a else find? other table := by
  by_cases h : id = other
  · simp [assign, find?, h]
  · simp [assign, find?, h, find?_without, Ne.symm h]

/-- The response of a request that no rule is meant for is remembered until the request ends. -/
theorem onResponse_unmatched {r : Router} {m : ResponseMeta} (id : String)
    (h : r.ruleFor? m.url = none) :
    r.onResponse id m =
      ({ r with
          earlyEnds := without id r.earlyEnds
          ignored := if (find? id r.earlyEnds).isSome ∨ id ∈ r.ignored then r.ignored
            else id :: r.ignored }, false, []) := by
  have h' : ruleFor? { r with earlyEnds := without id r.earlyEnds } m.url = none := h
  cases early : find? id r.earlyEnds <;> simp [onResponse, h', early]

/-- The response of a request that a rule is meant for waits for its body. -/
theorem onResponse_matched {r : Router} {m : ResponseMeta} {rule : CaptureRule} (id : String)
    (h : r.ruleFor? m.url = some rule) :
    r.onResponse id m =
      ({ r with
          earlyEnds := without id r.earlyEnds
          pending := assign id ⟨rule, m, find? id r.earlyEnds⟩ r.pending },
        true, [capturedLine m]) := by
  have h' : ruleFor? { r with earlyEnds := without id r.earlyEnds } m.url = some rule := h
  simp [onResponse, h']

/-- A body that was read stands in the output document; `null` stands for one that was not. -/
theorem bodyValue_eq (body : Except String ResponseBody) :
    bodyValue body = (body.toOption.map ResponseBody.inline).getD .null := by
  cases body <;> rfl

/-- The file of a body that was read holds its bytes; that of one that was not is empty. -/
theorem bodyBytes_eq (pretty : Bool) (body : Except String ResponseBody) :
    bodyBytes pretty body = (body.toOption.map (ResponseBody.fileBytes pretty)).getD [] := by
  cases body <;> rfl

/-- The capture of a response with a body that may not have been read. -/
def captureOf (rule : CaptureRule) (m : ResponseMeta) (body : Except String ResponseBody) :
    Capture :=
  ⟨m.url, m.status, m.headers,
    if rule.download then .file (FileName.derive m.url m.contentType)
    else .inline (bodyValue body)⟩

/-- The file that a rule asks for, if it asks for one. -/
def downloadOf? (rule : CaptureRule) (m : ResponseMeta) (body : Except String ResponseBody) :
    Option Download :=
  if rule.download then some ⟨FileName.derive m.url m.contentType, bodyBytes rule.pretty body⟩
  else none

/-- A request that waits is settled by taking it out and capturing it. -/
theorem settle_waiting {r : Router} {id : String} {p : PendingCapture}
    (h : find? id r.pending = some p) (body : Except String ResponseBody) :
    r.settle id body =
      ⟨{ r with
          pending := without id r.pending
          captures := r.captures ++ [captureOf p.rule p.response body] },
        bodyLog body, downloadOf? p.rule p.response body⟩ := by
  simp [settle, h, captureOf, downloadOf?]

end Router

namespace Chrome.Observer

open Router

/-- How the body of a response turns out when the loading of its request has ended. -/
def bodyAfter (bodies : Bodies) (asked : List String) (id : String) (m : ResponseMeta) :
    LoadingEnd → Except String ResponseBody
  | .finished => BodyReply.decode m.contentType (bodies asked id)
  | .failed reason => .error reason

/-- The request whose body is asked for when its loading has ended. -/
def asksAfter (id : String) : LoadingEnd → List String
  | .finished => [id]
  | .failed _ => []

/-- The end of a request that waits asks for its body and captures it. -/
theorem settle_pending {bodies : Bodies} {o : Observer} {id : String} {p : PendingCapture}
    (h : find? id o.router.pending = some p) (ending : LoadingEnd) :
    o.settle bodies (some (id, ending)) =
      { o with asked := o.asked ++ asksAfter id ending }.addSettled
        (o.router.settle id (bodyAfter bodies o.asked id p.response ending)) := by
  cases ending with
  | finished => simp [settle, bodyAfter, asksAfter, pendingType, h]
  | failed reason => simp [settle, bodyAfter, asksAfter]

/-- A response that no rule is meant for is passed over. -/
theorem handle_unmatched {bodies : Bodies} {o : Observer} {id : String} {m : ResponseMeta}
    (h : o.router.ruleFor? m.url = none) :
    o.handle bodies (.response id m) = { o with router := (o.router.onResponse id m).1 } := by
  simp [handle, receive, onResponse_unmatched id h, settle]

/-- A response that a rule is meant for and whose request has not ended: it waits. -/
theorem handle_matched {bodies : Bodies} {o : Observer} {id : String} {m : ResponseMeta}
    {rule : CaptureRule} (h : o.router.ruleFor? m.url = some rule)
    (early : find? id o.router.earlyEnds = none) :
    o.handle bodies (.response id m) =
      { o with
        router := { o.router with
          earlyEnds := without id o.router.earlyEnds
          pending := assign id ⟨rule, m, none⟩ (assign id ⟨rule, m, none⟩ o.router.pending) }
        findings := o.findings ++ [.line (capturedLine m)] } := by
  simp [handle, receive, onResponse_matched id h, takeEarlyEnd, find?_assign, early, settle]

/-- A response that a rule is meant for and whose request has ended before: it is settled. -/
theorem handle_late {bodies : Bodies} {o : Observer} {id : String} {m : ResponseMeta}
    {rule : CaptureRule} {ending : LoadingEnd} (h : o.router.ruleFor? m.url = some rule)
    (early : find? id o.router.earlyEnds = some ending) :
    let body := bodyAfter bodies o.asked id m ending
    o.handle bodies (.response id m) =
      { o with
        router := { o.router with
          earlyEnds := without id o.router.earlyEnds
          pending := without id (assign id ⟨rule, m, none⟩
            (assign id ⟨rule, m, some ending⟩ o.router.pending))
          captures := o.router.captures ++ [captureOf rule m body] }
        asked := o.asked ++ asksAfter id ending
        findings := o.findings ++ [.line (capturedLine m)] ++ (bodyLog body).map .line
          ++ (downloadOf? rule m body).toList.map .file } := by
  simp only [handle, receive, onResponse_matched id h, early, takeEarlyEnd, find?_assign, ite_true,
    Option.map_some]
  rw [settle_pending (p := ⟨rule, m, none⟩) (by simp [find?_assign])]
  rw [settle_waiting (p := ⟨rule, m, none⟩) (by simp [find?_assign])]
  simp [addSettled, Settled.findings]

/-- The end of a request whose response waits: the body is settled. -/
theorem handle_end_waiting {bodies : Bodies} {o : Observer} {id : String} {p : PendingCapture}
    (h : find? id o.router.pending = some p) (ending : LoadingEnd) :
    let body := bodyAfter bodies o.asked id p.response ending
    o.handle bodies (.ofEnd id ending) =
      { o with
        router := { o.router with
          pending := without id o.router.pending
          captures := o.router.captures ++ [captureOf p.rule p.response body] }
        asked := o.asked ++ asksAfter id ending
        findings := o.findings ++ (bodyLog body).map .line
          ++ (downloadOf? p.rule p.response body).toList.map .file } := by
  have received : o.router.receive (.ofEnd id ending) = (o.router, some (id, ending), []) := by
    cases ending <;> simp [NetworkEvent.ofEnd, receive, onLoadingEnd, isPending, h]
  simp only [handle, received, List.map_nil, List.append_nil]
  rw [settle_pending h, settle_waiting h]
  simp [addSettled, Settled.findings]

/-- The end of a request whose response does not wait: nothing is settled. -/
theorem handle_end_idle {bodies : Bodies} {o : Observer} {id : String} (ending : LoadingEnd)
    (h : find? id o.router.pending = none) :
    o.handle bodies (.ofEnd id ending) =
      { o with router :=
        if id ∈ o.router.ignored then
          { o.router with ignored := o.router.ignored.filter (· != id) }
        else { o.router with earlyEnds := assign id ending o.router.earlyEnds } } := by
  by_cases ignored : id ∈ o.router.ignored <;> cases ending <;>
    simp [NetworkEvent.ofEnd, handle, receive, onLoadingEnd, isPending, h, ignored, settle]

end Chrome.Observer

namespace Chrome

open Router

/-- What waits for a body, by what happened to its request. -/
def waiting? : Option Answered → Option Ended → Option PendingCapture
  | some ⟨_, m, some rule⟩, none => some ⟨rule, m, none⟩
  | _, _ => none

/-- A request is passed over from its response to its end, if no rule was meant for it. -/
def passedOver : Option Answered → Option Ended → Bool
  | some ⟨_, _, none⟩, none => true
  | _, _ => false

/-- The end of a request is held until its response comes. -/
def held? : Option Answered → Option Ended → Option LoadingEnd
  | none, some e => some e.ending
  | _, _ => none

/-- What a router holds after some moments. -/
structure Books (ms : List Moment) (r : Router) : Prop where
  rules : r.rules = rulesIn ms
  pending : ∀ id, find? id r.pending = waiting? (answerIn id ms) (endIn id ms)
  ignored : ∀ id, id ∈ r.ignored ↔ passedOver (answerIn id ms) (endIn id ms)
  earlyEnds : ∀ id, find? id r.earlyEnds = held? (answerIn id ms) (endIn id ms)

/-- The books of no moments are empty. -/
theorem books_empty : Books [] Router.empty where
  rules := rfl
  pending _ := rfl
  ignored _ := by simp [Router.empty, answerIn, endIn, firstFrom, passedOver]
  earlyEnds _ := rfl

/-- Two routers differ in nothing but what they hold of one request. -/
structure SameBut (id : String) (r r' : Router) : Prop where
  pending : ∀ other, other ≠ id → find? other r'.pending = find? other r.pending
  ignored : ∀ other, other ≠ id → (other ∈ r'.ignored ↔ other ∈ r.ignored)
  earlyEnds : ∀ other, other ≠ id → find? other r'.earlyEnds = find? other r.earlyEnds

namespace Books

variable {ms : List Moment} {r r' : Router} {id : String}

/-- The rule for an address is the first one registered that is meant for it. -/
theorem ruleFor? (books : Books ms r) (url : String) :
    r.ruleFor? url = ruleAmong? ms url := by
  rw [Router.ruleFor?, books.rules, ruleAmong?]

/-- The end held for a request without a response is the one that was handled. -/
theorem earlyEnd (books : Books ms r) (new : answerIn id ms = none) :
    find? id r.earlyEnds = (endIn id ms).map Ended.ending := by
  rw [books.earlyEnds, new]
  cases endIn id ms <;> rfl

/-- A request without a response is neither waiting nor passed over. -/
theorem absent (books : Books ms r) (new : answerIn id ms = none) :
    find? id r.pending = none ∧ id ∉ r.ignored := by
  rw [books.pending, books.ignored, new]
  cases endIn id ms <;> exact ⟨rfl, Bool.false_ne_true⟩

/-- An event keeps the books if it keeps them for its own request and touches no other. -/
theorem of_sameBut {ms' : List Moment} (books : Books ms r) (same : SameBut id r r')
    (rules : r'.rules = r.rules) (rulesIn_eq : rulesIn ms' = rulesIn ms)
    (answers : ∀ other, other ≠ id → answerIn other ms' = answerIn other ms)
    (ends : ∀ other, other ≠ id → endIn other ms' = endIn other ms)
    (pending : find? id r'.pending = waiting? (answerIn id ms') (endIn id ms'))
    (ignored : id ∈ r'.ignored ↔ passedOver (answerIn id ms') (endIn id ms'))
    (earlyEnds : find? id r'.earlyEnds = held? (answerIn id ms') (endIn id ms')) :
    Books ms' r' where
  rules := by rw [rules, books.rules, rulesIn_eq]
  pending other := by
    by_cases h : other = id
    · subst h; exact pending
    · rw [same.pending other h, answers other h, ends other h, books.pending]
  ignored other := by
    by_cases h : other = id
    · subst h; exact ignored
    · rw [same.ignored other h, answers other h, ends other h, books.ignored]
  earlyEnds other := by
    by_cases h : other = id
    · subst h; exact earlyEnds
    · rw [same.earlyEnds other h, answers other h, ends other h, books.earlyEnds]

/-- Registering a rule keeps the books. -/
theorem register (books : Books ms r) (rule : CaptureRule) :
    Books (ms ++ [.rule rule]) (r.register rule) where
  rules := by rw [rulesIn_concat_rule, ← books.rules, Router.register]
  pending other := by rw [answerIn_rule, endIn_rule]; exact books.pending other
  ignored other := by rw [answerIn_rule, endIn_rule]; exact books.ignored other
  earlyEnds other := by rw [answerIn_rule, endIn_rule]; exact books.earlyEnds other

/-- A response keeps the books if the tables change for its request alone, and as they should. -/
theorem of_response (books : Books ms r) (new : answerIn id ms = none) (m : ResponseMeta)
    (same : SameBut id r r') (rules : r'.rules = r.rules)
    (pending : find? id r'.pending =
      waiting? (some ⟨ms.length, m, ruleAmong? ms m.url⟩) (endIn id ms))
    (ignored : id ∈ r'.ignored ↔
      passedOver (some ⟨ms.length, m, ruleAmong? ms m.url⟩) (endIn id ms))
    (earlyEnds : find? id r'.earlyEnds = none) :
    Books (ms ++ [.event (.response id m)]) r' := by
  have here : answerIn id (ms ++ [.event (.response id m)]) =
      some ⟨ms.length, m, ruleAmong? ms m.url⟩ := by
    rw [answerIn_response new, if_pos rfl]
  refine books.of_sameBut same rules (rulesIn_concat_event ms _) ?_ ?_ ?_ ?_ ?_
  · intro other h; rw [answerIn_response new, if_neg h]
  · intro other _; rw [endIn_response]
  · rw [here, endIn_response]; exact pending
  · rw [here, endIn_response]; exact ignored
  · rw [here, earlyEnds]; rfl

/-- The response of a request keeps the books. -/
theorem response {o : Observer} (books : Books ms o.router) (new : answerIn id ms = none)
    (m : ResponseMeta) (bodies : Bodies) :
    Books (ms ++ [.event (.response id m)]) (o.handle bodies (.response id m)).router := by
  have early := books.earlyEnd new
  obtain ⟨notPending, notIgnored⟩ := books.absent new
  have found := books.ruleFor? m.url
  cases rule : ruleAmong? ms m.url with
  | none =>
    rw [rule] at found
    rw [Observer.handle_unmatched found, onResponse_unmatched id found]
    refine books.of_response new m ⟨?_, ?_, ?_⟩ rfl ?_ ?_ ?_
    · intro other _; rfl
    · intro other h
      dsimp only
      split <;> simp [h]
    · intro other h; simp [find?_without, h]
    · cases endIn id ms <;> simp [notPending, rule, waiting?]
    · cases ended : endIn id ms <;> simp [early, ended, notIgnored, rule, passedOver]
    · simp [find?_without]
  | some rule' =>
    rw [rule] at found
    cases ended : endIn id ms with
    | none =>
      rw [ended] at early
      rw [Observer.handle_matched found early]
      refine books.of_response new m ⟨?_, ?_, ?_⟩ rfl ?_ ?_ ?_
      · intro other h; simp [find?_assign, h]
      · intro other _; rfl
      · intro other h; simp [find?_without, h]
      · simp [find?_assign, rule, ended, waiting?]
      · simp [notIgnored, rule, ended, passedOver]
      · simp [find?_without]
    | some e =>
      rw [ended] at early
      rw [Observer.handle_late found early]
      refine books.of_response new m ⟨?_, ?_, ?_⟩ rfl ?_ ?_ ?_
      · intro other h; simp [find?_without, find?_assign, h]
      · intro other _; rfl
      · intro other h; simp [find?_without, h]
      · simp [find?_without, rule, ended, waiting?]
      · simp [notIgnored, rule, ended, passedOver]
      · simp [find?_without]

/-- An end keeps the books if the tables change for its request alone, and as they should. -/
theorem of_end (books : Books ms r) (new : endIn id ms = none) (ending : LoadingEnd)
    (same : SameBut id r r') (rules : r'.rules = r.rules)
    (pending : find? id r'.pending = none) (ignored : id ∉ r'.ignored)
    (earlyEnds : find? id r'.earlyEnds = held? (answerIn id ms) (some ⟨ms.length, ending⟩)) :
    Books (ms ++ [.event (.ofEnd id ending)]) r' := by
  have here : endIn id (ms ++ [.event (.ofEnd id ending)]) = some ⟨ms.length, ending⟩ := by
    rw [endIn_ofEnd new, if_pos rfl]
  refine books.of_sameBut same rules (rulesIn_concat_event ms _) ?_ ?_ ?_ ?_ ?_
  · intro other _; rw [answerIn_ofEnd]
  · intro other h; rw [endIn_ofEnd new, if_neg h]
  · rw [here, pending]
    rcases answerIn id (ms ++ _) with _ | ⟨_, _, _ | _⟩ <;> rfl
  · rw [here]
    rcases answerIn id (ms ++ _) with _ | ⟨_, _, _ | _⟩ <;> simpa [passedOver] using ignored
  · rw [here, answerIn_ofEnd]; exact earlyEnds

/-- The end of a request keeps the books. -/
theorem ofEnd {o : Observer} (books : Books ms o.router) (new : endIn id ms = none)
    (ending : LoadingEnd) (bodies : Bodies) :
    Books (ms ++ [.event (.ofEnd id ending)]) (o.handle bodies (.ofEnd id ending)).router := by
  have pending := books.pending id
  have ignored := books.ignored id
  have earlyEnds := books.earlyEnds id
  rw [new] at pending ignored earlyEnds
  rcases answered : answerIn id ms with _ | ⟨position, m, _ | rule⟩ <;>
    rw [answered] at pending ignored earlyEnds
  · have absent : id ∉ o.router.ignored := by simp [ignored, passedOver]
    rw [Observer.handle_end_idle ending pending, if_neg absent]
    refine books.of_end new ending ⟨?_, ?_, ?_⟩ rfl pending absent ?_
    · intro other _; rfl
    · intro other _; rfl
    · intro other h; simp [find?_assign, h]
    · simp [find?_assign, answered, held?]
  · have present : id ∈ o.router.ignored := by simp [ignored, passedOver]
    rw [Observer.handle_end_idle ending pending, if_pos present]
    refine books.of_end new ending ⟨?_, ?_, ?_⟩ rfl pending ?_ ?_
    · intro other _; rfl
    · intro other h; simp [h]
    · intro other _; rfl
    · simp
    · rw [answered]; exact earlyEnds
  · have absent : id ∉ o.router.ignored := by simp [ignored, passedOver]
    rw [Observer.handle_end_waiting pending ending]
    refine books.of_end new ending ⟨?_, ?_, ?_⟩ rfl ?_ absent ?_
    · intro other h; simp [find?_without, h]
    · intro other _; rfl
    · intro other _; rfl
    · simp [find?_without]
    · rw [answered]; exact earlyEnds

/-- Every moment keeps the books. -/
theorem attend {o : Observer} {x : Moment} (books : Books ms o.router)
    (once : EachOnce (ms ++ [x])) (bodies : Bodies) :
    Books (ms ++ [x]) (o.attend bodies x).router := by
  match x with
  | .rule rule => exact books.register rule
  | .event (.response id m) => exact books.response once.answer_new m bodies
  | .event (.finished id) =>
    have once' : EachOnce (ms ++ [.event (.ofEnd id .finished)]) := once
    exact books.ofEnd once'.end_new .finished bodies
  | .event (.failed id reason) =>
    have once' : EachOnce (ms ++ [.event (.ofEnd id (.failed reason))]) := once
    exact books.ofEnd once'.end_new (.failed reason) bodies

end Books

end Chrome

end PageScript
