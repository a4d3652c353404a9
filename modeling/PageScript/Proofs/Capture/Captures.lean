import PageScript.Proofs.Capture.Course
import PageScript.Proofs.Capture.KeepingUp

/-!
# What is captured, bodies and all

`captures_account` says what an observer has captured that attended to any moments whatever: one
capture for each complete request and nothing else, in the order in which requests became complete,
with the address, status and headers of the own response. The payload follows the rule: a file of
its derived name, or the body inside the output document. A body was read if loading finished and
the browser's answer hands one out (`HandsOut`); where it was not, `null` stands in the document and
the file is empty.

The bodies and what comes of them are told apart from the code that settles them: `HandsOut` is
about the fields of the browser's answer, and `Completion.capture` and `Completion.download?` say
what becomes of a body that is there or is not. The observer of a job attends to moments like any
other, and it has ended when the job reads its captures.

**What it does not establish.** What a body decodes to, and which bytes the file of a decoded body
has, is the matter of `ResponseBody`; whether the files can be written is told with the downloads.
Of the browser nothing is assumed, so an answer may come for any request and hold anything.
-/

namespace PageScript.Chrome

open Router Observer

/-! ## Bodies -/

/-- An answer to the request for a body hands one out: it holds a text and says whether that is
encoded, and they decode for the content type. -/
def HandsOut (answer : Option Reply) (contentType : String) (body : ResponseBody) : Prop :=
  ∃ v text encoded, answer = some (.ok v) ∧ v.field? "body" = some (.string text) ∧
    v.field? "base64Encoded" = some (.bool encoded) ∧
    ResponseBody.decode text encoded contentType = .ok body

/-- The fields of a body are read if they are there and of their types. -/
theorem BodyReply.ofJson_eq_ok_iff {v : Json} {text : String} {encoded : Bool} :
    ofJson v = .ok (text, encoded) ↔
      v.field? "body" = some (.string text) ∧ v.field? "base64Encoded" = some (.bool encoded) := by
  unfold ofJson required
  cases body : v.field? "body" with
  | none => simp [bind, Except.bind]
  | some b =>
    cases flag : v.field? "base64Encoded" with
    | none => cases b <;> simp [bind, Except.bind, Json.asText, Json.mismatch]
    | some f =>
      cases b <;> cases f <;>
        simp [bind, Except.bind, pure, Except.pure, Json.asText, asFlag, Json.mismatch]

/-- An answer is read as a body exactly if it hands that out. -/
theorem BodyReply.decode_eq_ok_iff {contentType : String} {answer : Option Reply}
    {body : ResponseBody} :
    decode contentType answer = .ok body ↔ HandsOut answer contentType body := by
  unfold HandsOut
  rcases answer with _ | reason | v
  · simp [decode]
  · simp [decode]
  · cases fields : ofJson v with
    | error m =>
      simp only [decode, fields, reduceCtorEq, false_iff]
      rintro ⟨_, text, encoded, ⟨⟩, isBody, isFlag, -⟩
      cases fields.symm.trans (ofJson_eq_ok_iff.mpr ⟨isBody, isFlag⟩)
    | ok read =>
      obtain ⟨text, encoded⟩ := read
      obtain ⟨isBody, isFlag⟩ := ofJson_eq_ok_iff.mp fields
      simp only [decode, fields]
      constructor
      · intro decoded
        refine ⟨v, text, encoded, rfl, isBody, isFlag, ?_⟩
        cases result : ResponseBody.decode text encoded contentType with
        | error e => rw [result] at decoded; cases decoded
        | ok b => rw [result] at decoded; cases decoded; rfl
      · rintro ⟨_, text', encoded', ⟨⟩, isBody', isFlag', decoded⟩
        cases isBody.symm.trans isBody'
        cases isFlag.symm.trans isFlag'
        rw [decoded]
        rfl

/-- The body of a request is read exactly if its loading finished and the answer hands it out. -/
theorem Observer.bodyAfter_eq_ok_iff {bodies : Bodies} {asked : List String} {id : String}
    {m : ResponseMeta} {ending : LoadingEnd} {body : ResponseBody} :
    bodyAfter bodies asked id m ending = .ok body ↔
      ending = .finished ∧ HandsOut (bodies asked id) m.contentType body := by
  cases ending with
  | finished => simp [bodyAfter, BodyReply.decode_eq_ok_iff]
  | failed reason => simp [bodyAfter]

/-- The requests whose bodies are asked for: those that finished loading. -/
def finishedIn (done : List Completion) : List String :=
  done.filterMap fun c =>
    match c.ending with
    | .finished => some c.id
    | .failed _ => none

theorem finishedIn_eq_flatMap (done : List Completion) :
    finishedIn done = done.flatMap fun c => asksAfter c.id c.ending := by
  rw [finishedIn, List.filterMap_eq_flatMap_toList]
  congr 1
  funext c
  cases c.ending <;> rfl

/-! ## Captures and files -/

/-- What is captured of a complete request, its body being there if it was read. -/
def Completion.capture (c : Completion) (body? : Option ResponseBody) : Capture :=
  { url := c.response.url
    status := c.response.status
    headers := c.response.headers
    payload :=
      if c.rule.download then .file (FileName.derive c.response.url c.response.contentType)
      else
        match body? with
        | some body => .inline body.inline
        | none => .inline .null }

/-- The file that is asked for of a complete request, if its rule asks for one. -/
def Completion.download? (c : Completion) (body? : Option ResponseBody) : Option Download :=
  if c.rule.download then
    some
      { name := FileName.derive c.response.url c.response.contentType
        bytes :=
          match body? with
          | some body => body.fileBytes c.rule.pretty
          | none => [] }
  else none

namespace Settlement

/-- The body, if it was read. -/
def body? (s : Settlement) : Option ResponseBody :=
  s.body.toOption

theorem body?_eq_some_iff {s : Settlement} {body : ResponseBody} :
    s.body? = some body ↔ s.body = .ok body := by
  unfold body?
  cases s.body <;> simp [Except.toOption]

theorem capture_eq (s : Settlement) : s.capture = s.completion.capture s.body? := by
  unfold capture captureOf Completion.capture body?
  rw [bodyValue_eq]
  cases s.body <;> rfl

theorem download?_eq (s : Settlement) : s.download? = s.completion.download? s.body? := by
  unfold download? downloadOf? Completion.download? body?
  rw [bodyBytes_eq]
  cases s.body <;> rfl

end Settlement

/-- Requests are settled in order, each when the bodies of those before it have been asked for. -/
theorem getElem?_settlements (bodies : Bodies) (asked : List String) (done : List Completion)
    (k : Nat) :
    (settlements bodies asked done)[k]? = done[k]?.map fun c =>
      ⟨c, bodyAfter bodies (asked ++ finishedIn (done.take k)) c.id c.response c.ending⟩ := by
  induction done generalizing asked k with
  | nil => rfl
  | cons c done ih =>
    cases k with
    | zero => simp [settlements, finishedIn]
    | succ k =>
      simp [settlements, ih, finishedIn_eq_flatMap, List.append_assoc]

/-! ## The account -/

/-- What reaches the observer: a rule of a run, or what the browser tells of a request. -/
inductive Notice where
  | rule (rule : CaptureRule)
  /-- A response, with its headers as the browser gives them. -/
  | response (id url : String) (status : Int) (headers : Json)
  | ended (id : String) (ending : LoadingEnd)

/-- The moment at which the observer attends to a notice. -/
def Notice.moment : Notice → Moment
  | .rule r => .rule r
  | .response id url status headers => .event (.response id (.ofHeaders url status headers))
  | .ended id ending => .event (.ofEnd id ending)

/-- An account of what an observer captured that attended to some notices: the requests `done`, in
the order in which they became complete, and the bodies `read` of them. -/
structure Account (bodies : Bodies) (notices : List Notice) (o : Observer)
    (done : List Completion) (read : List (Option ResponseBody)) : Prop where
  complete : ∀ c, c ∈ done ↔ c.Within (notices.map Notice.moment)
  /-- A request is complete if its response and its end are there, and a rule registered before its
  response has its address. -/
  captured : ∀ id, id ∈ done.map Completion.id ↔
    ∃ (i j : Nat) (m : ResponseMeta) (ending : LoadingEnd),
      (notices.map Notice.moment)[i]? = some (.event (.response id m)) ∧
      (notices.map Notice.moment)[j]? = some (.event (.ofEnd id ending)) ∧
      ∃ rule ∈ rulesIn ((notices.map Notice.moment).take i), rule.applies m.url
  distinct : (done.map Completion.id).Nodup
  /-- They come in the order of the later one of their two events. -/
  ordered : done.Pairwise fun c d => c.moment < d.moment
  /-- Address, status and headers, these in lower case, are those of the own response. -/
  own : ∀ c ∈ done, ∃ url status headers,
    notices[c.answeredAt]? = some (.response c.id url status headers) ∧
      c.response = ⟨url, status, ResponseMeta.lowerHeaders (headers.fields?.getD [])⟩
  /-- The body of a request is asked for once if it finished loading, and not at all otherwise. -/
  asked : o.asked = finishedIn done
  /-- A body was read exactly if loading finished and the browser, asked for it after the bodies of
  the requests before, hands it out. -/
  bodies : read.length = done.length ∧ ∀ k c body?, done[k]? = some c → read[k]? = some body? →
    ∀ body, body? = some body ↔
      c.ending = .finished ∧
        HandsOut (bodies (finishedIn (done.take k)) c.id) c.response.contentType body
  /-- There is one capture for each, in that order. -/
  captures : o.router.captures = List.zipWith Completion.capture done read
  /-- The files asked for are those of the rules that want files. -/
  downloads : downloadsIn o.findings = (List.zipWith Completion.download? done read).filterMap id

theorem eq_response_of_moment {n : Notice} {id : String} {m : ResponseMeta}
    (h : n.moment = .event (.response id m)) :
    ∃ url status headers, n = .response id url status headers ∧
      m = ⟨url, status, ResponseMeta.lowerHeaders (headers.fields?.getD [])⟩ := by
  match n with
  | .rule _ => cases h
  | .response _ url status headers =>
    cases h
    exact ⟨url, status, headers, rfl, rfl⟩
  | .ended _ .finished => cases h
  | .ended _ (.failed _) => cases h

namespace Tally

variable {bodies : Bodies} {ms : List Moment} {o : Observer} {done : List Completion}

/-- What becomes of complete requests follows from them and the bodies that were read. -/
theorem zipWith_settlements (f : Completion → Option ResponseBody → α) (g : Settlement → α)
    (same : ∀ s, g s = f s.completion s.body?) (bodies : Bodies) (done : List Completion) :
    (settlements bodies [] done).map g =
      List.zipWith f done ((settlements bodies [] done).map Settlement.body?) := by
  have completions := map_completion_settlements bodies [] done
  generalize settlements bodies [] done = all at completions
  subst completions
  rw [List.zipWith_map, List.zipWith_self]
  exact List.map_congr_left fun s _ => same s

theorem getElem?_read (bodies : Bodies) {done : List Completion} {k : Nat} {c : Completion}
    {body? : Option ResponseBody} (at_ : done[k]? = some c)
    (read : ((settlements bodies [] done).map Settlement.body?)[k]? = some body?)
    (body : ResponseBody) :
    body? = some body ↔
      c.ending = .finished ∧
        HandsOut (bodies (finishedIn (done.take k)) c.id) c.response.contentType body := by
  rw [List.getElem?_map, getElem?_settlements, at_] at read
  rw [← bodyAfter_eq_ok_iff, ← Option.some.inj read, Settlement.body?_eq_some_iff,
    List.nil_append]

end Tally

/-- Whatever rules are registered and whatever events are handled, in whatever order: as long as
no request has two responses or two ends, each complete request is captured once, in the order in
which requests become complete, and nothing else is; what is captured has the body that was read,
if it could be read. The observer of a job has ended when its captures are read, and what the job is
told is what an observer tells that attended to some moments. -/
theorem captures_account :
    (∀ (bodies : Bodies) (notices : List Notice), EachOnce (notices.map Notice.moment) →
      ∃ done read, Account bodies notices
        (start.attendAll bodies (notices.map Notice.moment)) done read) ∧
    ∀ (d : Driven) (history : History),
      (∀ o, (d.connectionAtEnd history).observer = some o → o.stopped = true) ∧
      ∃ replies ms, let o := start.attendAll (.inOrder replies) ms
        d.observation history = ⟨o.router.captures, o.findings⟩ := by
  refine ⟨fun bodies notices once => ?_, fun d history => ⟨?_, ?_⟩⟩
  · obtain ⟨done, tally⟩ := (tally_start bodies).attendAll (notices.map Notice.moment) once
    rw [List.nil_append] at tally
    refine ⟨done, (settlements bodies [] done).map Settlement.body?, tally.mem_iff once,
      tally.mem_map_id_iff once, tally.nodup_map_id, tally.ordered, fun c mem => ?_, ?_, ⟨?_, ?_⟩,
      ?_, ?_⟩
    · have answered := ((tally.mem_iff once c).mp mem).answered
      rw [List.getElem?_map, Option.map_eq_some_iff] at answered
      obtain ⟨n, at_, moment⟩ := answered
      obtain ⟨url, status, headers, rfl, response⟩ := eq_response_of_moment moment
      exact ⟨url, status, headers, at_, response⟩
    · rw [tally.asked, finishedIn_eq_flatMap]
    · have completions := congrArg List.length (map_completion_settlements bodies [] done)
      rwa [List.length_map] at completions ⊢
    · exact fun k c body? at_ read => Tally.getElem?_read bodies at_ read
    · rw [tally.captures, Tally.zipWith_settlements _ _ Settlement.capture_eq]
    · rw [tally.downloads, ← Tally.zipWith_settlements _ _ Settlement.download?_eq,
        List.filterMap_map]
      rfl
  · exact fun o some => d.stopped_connectionAtEnd history some
  · obtain ⟨replies, past, follows⟩ := d.observation_follows history
    obtain ⟨ms, ledger⟩ := exists_ledger (.inOrder replies) past
    refine ⟨replies, ms, follows.trans ?_⟩
    rw [ledger.work]
    rfl

/-- A rule for the document and one for a file. Of four requests the end of `b` comes before its
response, and no rule is meant for `c` yet when its response comes. -/
def mixedOrder : List Notice :=
  [.ended "b" (.failed "net::ERR_ABORTED"), .rule ⟨"/api/", false, false⟩,
   .response "a" "http://h/api/1" 200 (.object [("Content-Type", .string "application/json")]),
   .response "c" "http://h/c.js" 200 .null, .rule ⟨".js", true, false⟩,
   .response "b" "http://h/api/c.js" 404 .null, .ended "c" .finished,
   .response "d" "http://h/d.js" 200 .null, .ended "d" .finished, .ended "a" .finished]

/-- A browser that answers every request for a body with `true`. -/
def trueBody : Bodies := fun _ _ =>
  some (.ok (.object [("base64Encoded", .bool false), ("body", .string "true")]))

theorem captures_account_mixedOrder :
    EachOnce (mixedOrder.map Notice.moment) ∧
      ∃ done read, Account trueBody mixedOrder
        (start.attendAll trueBody (mixedOrder.map Notice.moment)) done read ∧
        (List.zipWith Completion.capture done read).map
            (fun c => (c.url, (Json.object [Capture.payloadField c.payload]).print)) =
          [("http://h/api/c.js", "\x7b\"response\":null\x7d"),
           ("http://h/d.js", "\x7b\"filename\":\"d.js\"\x7d"),
           ("http://h/api/1", "\x7b\"response\":true\x7d")] ∧
        (List.zipWith Completion.download? done read).filterMap id =
          [⟨"d.js", [0x74, 0x72, 0x75, 0x65]⟩] := by
  refine ⟨by decide, ?_⟩
  obtain ⟨done, read, account⟩ := captures_account.1 trueBody mixedOrder (by decide)
  refine ⟨done, read, account, ?_, ?_⟩
  · rw [← account.captures]
    decide +kernel
  · rw [← account.downloads]
    decide +kernel

end PageScript.Chrome
