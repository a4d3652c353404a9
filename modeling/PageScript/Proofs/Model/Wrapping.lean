import Mathlib.Data.Bool.AllAny
import PageScript.Proofs.Json.Grammar
import PageScript.Proofs.Json.RoundTrip
import PageScript.Proofs.Model.Comparing
import PageScript.Proofs.Model.Outward
import PageScript.Proofs.Text.Encoding
import PageScript.Proofs.Text.Trimming

/-!
# Wrappings of a model's answer

A model is told to answer with a document, and puts blanks or a code fence around it as it pleases
(`Wraps`). Whatever document it is, also one with fences in its texts, it is got out of the wrapping
again, because a document neither begins nor ends with a blank and does not begin with a fence
(`Json.IsValue.ends`). So two servers whose replies differ in the wrappings only have every
instruction carried out alike (`wrappings_change_nothing`).

What is compared of two runs is all but the files and the log: the files keep the replies as they
came.

**What it does not establish.** Replies that are wrapped in other ways, for instance with words
around the fence, are not told.
-/

namespace PageScript

open Run Text

/-! ## Ends of documents -/

namespace Json

/-- A character that is no blank, and with which neither a fence begins nor the label of one. -/
def Apart (c : Char) : Prop :=
  isBlank c = false ∧ c ≠ '\x60' ∧ c ≠ 'j'

instance (c : Char) : Decidable (Apart c) :=
  inferInstanceAs (Decidable (_ ∧ _ ∧ _))

/-- A digit is no blank, and neither a fence nor its label begins with it. -/
theorem apart_of_isDigit {c : Char} (digit : c.isDigit = true) : Apart c := by
  refine ⟨isBlank_of_isAlphanum (by simp [Char.isAlphanum, digit]), ?_, ?_⟩ <;>
  · rintro rfl
    cases digit

/-- A text begins and ends with characters of this kind. -/
structure ApartAtEnds (s : List Char) : Prop where
  head : ∀ c ∈ s.head?, Apart c
  last : ∀ c ∈ s.getLast?, Apart c

/-- A text of such characters is apart at both ends. -/
theorem apartAtEnds_of_forall_mem {s : List Char} (each : ∀ c ∈ s, Apart c) : ApartAtEnds s where
  head c mem := each c (List.mem_of_mem_head? mem)
  last c mem := each c (List.mem_of_getLast? mem)

/-- What stands between brackets is apart at both ends, whatever it is. -/
theorem apartAtEnds_of_brackets {opening closing : Char} (opens : Apart opening)
    (closes : Apart closing) (inside : List Char) :
    ApartAtEnds (opening :: inside ++ [closing]) where
  head c mem := by
    obtain rfl := Option.some.inj mem
    exact opens
  last c mem := by
    rw [List.getLast?_concat] at mem
    obtain rfl := Option.some.inj mem
    exact closes

/-- A document without blanks around it begins and ends with a digit, a sign, a quote, a bracket or
a letter of one of the words. -/
theorem IsValue.ends {s : List Char} (value : IsValue s) : ApartAtEnds s := by
  cases value with
  | word word =>
    have apart : ∀ s ∈ ["null".toList, "true".toList, "false".toList], s.all (Apart ·) :=
      List.all_eq_true.mp (by decide)
    exact apartAtEnds_of_forall_mem (List.all_iff_forall_prop.mp (apart s word))
  | number numeral =>
    exact apartAtEnds_of_forall_mem (numeral.forall_mem (fun _ => apart_of_isDigit)
      (List.all_iff_forall_prop.mp (by decide)))
  | string quoted =>
    obtain ⟨inside, -, rfl⟩ := quoted
    exact apartAtEnds_of_brackets (by decide) (by decide) inside
  | noItems => exact apartAtEnds_of_brackets (by decide) (by decide) _
  | items => exact apartAtEnds_of_brackets (by decide) (by decide) _
  | noFields => exact apartAtEnds_of_brackets (by decide) (by decide) _
  | fields => exact apartAtEnds_of_brackets (by decide) (by decide) _

/-- What is apart at both ends neither begins nor ends with a blank. -/
theorem ApartAtEnds.bare {s : List Char} (ends : ApartAtEnds s) : Bare s where
  head c mem := (ends.head c mem).1
  last c mem := (ends.last c mem).1

end Json

namespace Model

/-! ## Wrappings -/

/-- A text with blanks around it, or in a code fence that may say what is in it, with blanks within
and around the fence. -/
inductive Wraps (s : List Char) : List Char → Prop where
  | blanks {a b : List Char} (before : Blanks a) (after : Blanks b) : Wraps s (a ++ s ++ b)
  | fence {opening a b x y : List Char} (opens : opening ∈ ["```json".toList, "```".toList])
      (before : Blanks a) (after : Blanks b) (first : Blanks x) (last : Blanks y) :
      Wraps s (a ++ (opening ++ (x ++ s ++ y) ++ "```".toList) ++ b)

variable {s c : List Char}

/-- A bare text is got back from between blanks. -/
theorem trim_between {a b : List Char} (before : Blanks a) (after : Blanks b) (bare : Bare s) :
    trim (a ++ s ++ b) = s := by
  rw [trim_append_right after, trim_append_left before, trim_of_bare bare]

/-- A fence that closes is taken off with the blanks within. -/
theorem inside?_fence (opening : List Char) {x y : List Char} (first : Blanks x) (last : Blanks y)
    (bare : Bare s) :
    inside? opening (opening ++ (x ++ s ++ y) ++ "```".toList) = some s := by
  rw [inside?, List.append_assoc, after?_append, Option.bind_some, before?_append,
    Option.map_some, trim_between first last bare]

/-- A text does not begin with what begins otherwise. -/
theorem not_isPrefix_of_head {p s : List Char} {first : Char} (begins : p.head? = some first)
    (other : ∀ c ∈ s.head?, c ≠ first) : ¬ p <+: s := by
  rintro ⟨rest, rfl⟩
  refine other first ?_ rfl
  rw [List.head?_append, begins]
  rfl

/-- After the blanks in a fence a document does not go on like the label of a fence. -/
theorem head_ne_label (ends : Json.ApartAtEnds s) {x rest : List Char} (first : Blanks x)
    (other : ∀ c ∈ rest.head?, c ≠ 'j') : ∀ c ∈ (x ++ s ++ rest).head?, c ≠ 'j' := by
  cases x with
  | cons d x =>
    rintro _ ⟨⟩ rfl
    cases first 'j' List.mem_cons_self
  | nil =>
    cases s with
    | nil => exact other
    | cons d s => exact fun c mem => (ends.head c mem).2.2

/-- A document is got out of any wrapping. -/
theorem unfenceChars_of_wraps (document : Json.IsValue s) (wraps : Wraps s c) :
    unfenceChars c = s := by
  have ends := document.ends
  unfold unfenceChars
  simp only [List.isPrefixOf_iff_prefix]
  cases wraps with
  | blanks before after =>
    have other : ∀ c ∈ s.head?, c ≠ '\x60' := fun c mem => (ends.head c mem).2.1
    have labelled : ¬ "```json".toList <+: s := not_isPrefix_of_head rfl other
    have fenced : ¬ "```".toList <+: s := not_isPrefix_of_head rfl other
    rw [trim_between before after ends.bare, if_neg labelled, if_neg fenced]
  | @fence opening a b x y opens before after first last =>
    have bare : Bare (opening ++ (x ++ s ++ y) ++ "```".toList) := by
      refine ⟨?_, ?_⟩
      · rcases List.mem_pair.mp opens with rfl | rfl <;>
        · rintro _ ⟨⟩
          rfl
      · rw [List.getLast?_append]
        rintro _ ⟨⟩
        rfl
    have inside := inside?_fence opening first last ends.bare
    have begins : opening <+: opening ++ (x ++ s ++ y) ++ "```".toList := by
      rw [List.append_assoc]
      exact List.prefix_append _ _
    rw [trim_between before after bare]
    rcases List.mem_pair.mp opens with rfl | rfl
    · rw [if_pos begins, inside, Option.getD_some]
    · -- What follows the bare fence is not taken for a label.
      have follows : ∀ c ∈ (y ++ "```".toList).head?, c ≠ 'j' := by
        cases y with
        | nil =>
          rintro _ ⟨⟩
          decide
        | cons d y =>
          rintro _ ⟨⟩ rfl
          cases last 'j' List.mem_cons_self
      have labelled : ¬ "```json".toList <+: "```".toList ++ (x ++ s ++ y) ++ "```".toList := by
        have label : "```json".toList = "```".toList ++ "json".toList := rfl
        rw [label, List.append_assoc, List.prefix_append_right_inj, List.append_assoc (x ++ s)]
        exact not_isPrefix_of_head rfl (head_ne_label ends first follows)
      rw [if_neg labelled, if_pos begins, inside, Option.getD_some]

/-! ## Replies in other wrappings -/

/-- The text that a reply holds as its content. -/
def contentText? (reply : Json) : Option String :=
  ((((reply.field "choices").item 0).field "message").field "content").text?

/-- The text of the error that a reply tells of. -/
def errorText? (reply : Json) : Option String :=
  ((reply.field "error").field "message").text?

/-- Two replies are the same, or they have the same status and tell of the same error, and their
contents are one document in two wrappings. -/
inductive Reply.Rewrapped : Reply → Reply → Prop where
  | same (reply : Reply) : Rewrapped reply reply
  | content {status : Nat} {body body' : List UInt8} {reply reply' : Json} {s c c' : List Char}
      (read : Json.parseBytes body = .ok reply) (read' : Json.parseBytes body' = .ok reply')
      (document : Json.IsValue s) (wraps : Wraps s c) (wraps' : Wraps s c')
      (holds : contentText? reply = some (String.ofList c))
      (holds' : contentText? reply' = some (String.ofList c'))
      (error : errorText? reply = errorText? reply') :
      Rewrapped (.answered status body) (.answered status body')

namespace Client

/-- An answer is read from the text of a reply if its status is a success, and blamed on the API
otherwise. -/
theorem answerOf_eq {status : Nat} {reply : Json} {text : String}
    (holds : contentText? reply = some text) :
    answerOf status reply =
      if isSuccess status then document text
      else .error (.model ("API error (" ++ statusText status ++ "): " ++
        (errorText? reply).getD "Unknown API error")) := by
  unfold contentText? at holds
  unfold answerOf content errorText?
  cases isSuccess status with
  | true => simp only [if_true, holds, bind, Except.bind]
  | false => simp only [Bool.false_eq_true, if_false, bind, Except.bind]

/-- Wrappings make no difference to what a reply answers. -/
theorem answerOf_congr {s c c' : List Char} (value : Json.IsValue s) (wraps : Wraps s c)
    (wraps' : Wraps s c') {reply reply' : Json}
    (holds : contentText? reply = some (String.ofList c))
    (holds' : contentText? reply' = some (String.ofList c'))
    (error : errorText? reply = errorText? reply') (status : Nat) :
    answerOf status reply = answerOf status reply' := by
  have same : document (String.ofList c) = document (String.ofList c') := by
    simp only [document, unfence, String.toList_ofList, unfenceChars_of_wraps value wraps,
      unfenceChars_of_wraps value wraps']
  rw [answerOf_eq holds, answerOf_eq holds', error, same]

end Client

end Model

/-! ## States that differ in what is kept -/

namespace RunState

/-- The state without its files and its log. -/
def unkept (s : RunState) : RunState :=
  { s with files := .empty, log := [] }

/-- Nothing but the files and the log tells two states apart. -/
def SameButKept (s t : RunState) : Prop :=
  s.unkept = t.unkept

namespace SameButKept

variable {s t : RunState}

/-- What is no matter of the files and the log is the same. -/
theorem view (h : s.SameButKept t) {α : Type} {view : RunState → α}
    (rest : ∀ s, view s.unkept = view s) : view s = view t := by
  rw [← rest, h, rest]

/-- A change that does not look at the kept files and the log is the same on both sides. -/
theorem congr (h : s.SameButKept t) {f : RunState → RunState}
    (rest : ∀ s, (f s.unkept).unkept = (f s).unkept) : (f s).SameButKept (f t) := by
  rw [SameButKept, ← rest, h, rest]

/-- States that are the same but for what was kept can be compared along a run. -/
theorem recalling : Run.Recalling SameButKept where
  history h := h.view fun _ => rfl
  called call ms h := h.congr (f := fun s => (s.addCall (.page call)).later ms) fun _ => rfl

end SameButKept

end RunState

open RunState (SameButKept)

namespace Model

/-- The next exchange has the next number whether this one could be written or not. -/
theorem InferenceLog.record_fst (log : InferenceLog) (files : FileTree) (purpose time : String)
    (request response : Json) :
    (log.record files purpose time request response).1 = { log with next := log.next + 1 } := by
  unfold record
  dsimp only
  split
  · rfl
  · split <;> rfl

namespace Client

variable (client : Client) (server : Server)

/-- What is kept of two replies makes no difference to anything else. -/
theorem record_sameButKept (request : Request) (reply reply' : Json) :
    Alike SameButKept (client.record request reply)
      ({ client with server := server }.record request reply') := by
  intro s t h
  have inference : s.inference = t.inference := h.view fun _ => rfl
  simp only [record, inference]
  cases t.inference with
  | none => exact ⟨rfl, h⟩
  | some log =>
    have kept := h.congr
      (f := fun s => { s with inference := some { log with next := log.next + 1 } })
      fun _ => rfl
    simp only [InferenceLog.record_fst]
    exact ⟨rfl, kept⟩

variable {client server}

/-- Servers whose replies differ in wrappings only fail alike, or give replies that answer alike. -/
theorem send_rewrapped (rewrapped : ∀ sent, Reply.Rewrapped (client.server sent) (server sent))
    (request : Request) {s t : RunState} (h : s.SameButKept t) :
    let one := client.send request s
    let other := { client with server := server }.send request t
    (∃ e s' t', one = .error e s' ∧ other = .error e t' ∧ s'.SameButKept t') ∨
      ∃ status reply reply' s' t', one = .ok (status, reply) s' ∧
        other = .ok (status, reply') t' ∧ s'.SameButKept t' ∧
        answerOf status reply = answerOf status reply' := by
  have requests : s.requests = t.requests := h.view fun _ => rfl
  have sent := h.congr (f := fun s => { s with requests := t.requests ++ [request] }) fun _ => rfl
  simp only [send, requests]
  cases fitsHeader request.authorization with
  | false => exact .inl ⟨_, _, _, rfl, rfl, h⟩
  | true =>
    have replies := rewrapped (t.requests ++ [request])
    generalize client.server (t.requests ++ [request]) = reply,
      server (t.requests ++ [request]) = reply' at replies
    cases replies with
    | same =>
      cases reply with
      | unreachable => exact .inl ⟨_, _, _, rfl, rfl, h⟩
      | answered status body =>
        cases read : Json.parseBytes body with
        | error e =>
          simp only [read]
          exact .inl ⟨_, _, _, rfl, rfl, sent⟩
        | ok reply =>
          simp only [read]
          exact .inr ⟨_, _, _, _, _, rfl, rfl, sent, rfl⟩
    | @content status _ _ _ _ _ _ _ read read' value wraps wraps' holds holds' error =>
      simp only [read, read']
      have same := answerOf_congr value wraps wraps' holds holds' error status
      exact .inr ⟨_, _, _, _, _, rfl, rfl, sent, same⟩

/-- Both servers' replies complete to the same answer. -/
theorem complete_rewrapped (rewrapped : ∀ sent, Reply.Rewrapped (client.server sent) (server sent))
    (purpose : String) (messages : List Message) :
    Alike SameButKept (client.complete purpose messages)
      ({ client with server := server }.complete purpose messages) := by
  intro s t h
  -- The server is no part of what is asked of it.
  have asked : { client with server := server }.request purpose messages =
      client.request purpose messages := rfl
  unfold complete
  dsimp only
  rw [asked]
  rcases send_rewrapped rewrapped (client.request purpose messages) h with
    ⟨e, s', t', one, other, h⟩ | ⟨status, reply, reply', s', t', one, other, h, same⟩
  · rw [bind_of_error one, bind_of_error other]
    exact ⟨rfl, h⟩
  · rw [bind_of_ok one, bind_of_ok other]
    dsimp only
    rw [same]
    refine ((client.record_sameButKept server _ reply reply').bind fun _ => ?_) s' t' h
    cases answerOf status reply' with
    | ok v => exact alike_pure v
    | error e => exact alike_throw e

/-- Clients of the two servers are matched on any page. -/
theorem matched_rewrapped (rewrapped : ∀ sent, Reply.Rewrapped (client.server sent) (server sent))
    (page : Page) : Matched SameButKept client { client with server := server } page where
  instructions := rfl
  ask call := page.ask_alike call SameButKept.recalling
  askWithin ms what call := page.askWithin_alike call SameButKept.recalling ms what
  completeAct := complete_rewrapped rewrapped "act"
  completeExtract := complete_rewrapped rewrapped "extract"

/-- A document is got out of any wrapping as it is. So servers whose replies differ in the wrappings
only have every instruction carried out alike and all data read off alike: the calls of the page and
their times are the same, the requests too, and it ends with the same outcome or the same failure.
-/
theorem wrappings_change_nothing :
    (∀ s c, Json.IsValue s → Wraps s c → unfence (String.ofList c) = String.ofList s) ∧
      ∀ (client : Client) (server : Server),
        (∀ sent, Reply.Rewrapped (client.server sent) (server sent)) → ∀ page,
          let other := { client with server := server }
          (∀ vars instruction timeout, Alike SameButKept
            (client.act page vars instruction timeout) (other.act page vars instruction timeout)) ∧
          ∀ instruction timeout, Alike SameButKept
            (client.extract page instruction timeout) (other.extract page instruction timeout) := by
  refine ⟨fun s c document wraps => ?_, fun client server rewrapped page => ?_⟩
  · rw [unfence, String.toList_ofList, unfenceChars_of_wraps document wraps]
  · have matched := matched_rewrapped rewrapped page
    exact ⟨matched.act, matched.extract⟩

/-- A reply with a content and nothing else. -/
def replySaying (content : String) : Json :=
  .object [("choices", .array [.object [("message", .object [("content", .string content)])]])]

/-- A client whose model says the same whatever it is asked. -/
def saying (content : String) : Client :=
  .ofServer fun _ => .answered 200 (Text.encode (replySaying content).print.toList)

/-- A reply that says something is read back as itself. -/
theorem parseBytes_replySaying (content : String) :
    Json.parseBytes (Text.encode (replySaying content).print.toList) =
      .ok (replySaying content) := by
  have readable : Json.Readable Json.deepest (replySaying content) := by
    have text : Json.Readable 123 (.string content) := .scalar rfl
    refine .object (List.pairwise_singleton _ _) (List.forall_mem_singleton.mpr ?_)
    refine .array (List.forall_mem_singleton.mpr ?_)
    refine .object (List.pairwise_singleton _ _) (List.forall_mem_singleton.mpr ?_)
    exact .object (List.pairwise_singleton _ _) (List.forall_mem_singleton.mpr text)
  have whole : (replySaying content).Whole := by
    refine .object (List.forall_mem_singleton.mpr ?_)
    refine .array (List.forall_mem_singleton.mpr ?_)
    refine .object (List.forall_mem_singleton.mpr ?_)
    exact .object (List.forall_mem_singleton.mpr (.string content))
  rw [Json.parseBytes, Text.symbols_encode]
  exact Json.parse_print readable whole.exact

/-- Replies that say one document in two wrappings are rewrapped. -/
theorem rewrapped_saying {s : List Char} {content content' : String} (document : Json.IsValue s)
    (wraps : Wraps s content.toList) (wraps' : Wraps s content'.toList) (sent : List Request) :
    Reply.Rewrapped ((saying content).server sent) ((saying content').server sent) := by
  have holds (content : String) :
      contentText? (replySaying content) = some (String.ofList content.toList) := by
    rw [String.ofList_toList]
    rfl
  exact .content (parseBytes_replySaying _) (parseBytes_replySaying _) document wraps wraps'
    (holds content) (holds content') rfl

/-- After the look at the page a key is pressed, whether what names it comes bare or in a fence. -/
theorem wrappings_change_nothing_press :
    let bare := saying " \x7b\"action\":\"press\",\"key\":\"Enter\"\x7d"
    let fenced := saying "```json\n\x7b\"action\":\"press\",\"key\":\"Enter\"\x7d\n```"
    let ended := fenced.act silentPage .empty "send the form" 5000 (.initial ⟨true, .reliable⟩)
    (∀ sent, Reply.Rewrapped (bare.server sent) (fenced.server sent)) ∧
      Run.outcome ended = .ok (some ⟨true, "", "Action performed"⟩) ∧
      (left ended).history.calls.tail = [.page (.keyDown "Enter"), .page (.keyUp "Enter")] := by
  intro bare fenced ended
  let action : Json := .object [("action", .string "press"), ("key", .string "Enter")]
  have document : Json.IsValue action.compact := Json.Layout.tight.isValue action 0
  have space : [' '] ++ action.compact ++ [] =
      " \x7b\"action\":\"press\",\"key\":\"Enter\"\x7d".toList := by decide +kernel
  have fence : [] ++ ("```json".toList ++ (['\n'] ++ action.compact ++ ['\n']) ++ "```".toList)
      ++ [] =
      "```json\n\x7b\"action\":\"press\",\"key\":\"Enter\"\x7d\n```".toList := by decide +kernel
  have wraps := Wraps.blanks (s := action.compact) (a := [' ']) (b := []) (by decide) (by decide)
  have wraps' := Wraps.fence (s := action.compact) (a := []) (b := []) (x := ['\n']) (y := ['\n'])
    List.mem_cons_self (by decide) (by decide) (by decide) (by decide)
  rw [space] at wraps
  rw [fence] at wraps'
  have rewrapped (sent : List Request) : Reply.Rewrapped (bare.server sent) (fenced.server sent) :=
    rewrapped_saying document wraps wraps' sent
  obtain ⟨same, alike⟩ := ((wrappings_change_nothing.2 bare fenced.server rewrapped silentPage).1
    .empty "send the form" 5000) (.initial ⟨true, .reliable⟩) (.initial ⟨true, .reliable⟩) rfl
  have pressed :
      let ended := bare.act silentPage .empty "send the form" 5000 (.initial ⟨true, .reliable⟩)
      Run.outcome ended = .ok (some ⟨true, "", "Action performed"⟩) ∧
        (left ended).history.calls.tail = [.page (.keyDown "Enter"), .page (.keyUp "Enter")] := by
    decide +kernel
  let tail (s : RunState) : List Call := s.history.calls.tail
  have calls := alike.view (show ∀ s, tail s.unkept = tail s from fun _ => rfl)
  exact ⟨rewrapped, same.symm.trans pressed.1, calls.symm.trans pressed.2⟩

end Client

end Model

end PageScript
