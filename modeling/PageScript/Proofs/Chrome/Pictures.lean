import Mathlib.Data.List.Induction
import PageScript.Chrome.Recorder
import PageScript.Proofs.Text.Base64

/-!
# Pictures are kept once and in order

Pictures come, the word to stop is given and the file becomes unwritable at any time; in between,
the recorder takes its turns. `Turned` says all that a turn can do. A turn takes one picture at
most, the one that came first, so the pictures taken come before those that wait, and each has been
acknowledged when the next is taken (`Account`). What is in the file follows from the pictures
taken, up to the first that could not be written (`Filed`). `Account.step` is what one event
preserves and `account_run` what a whole recording does.

**What it does not establish.** A write counts as the recorder is told of it, and an acknowledgement
as sent; what the disk and the browser make of them is left open.
-/

namespace PageScript.Chrome

/-- The pictures that came in some events, first come first. -/
def framesIn (events : List RecordingEvent) : List Frame :=
  events.filterMap fun
    | .frame f => some f
    | _ => none

/-- What frames show, those left out that cannot be decoded. -/
def picturesOf (frames : List Frame) : List (List UInt8) :=
  frames.filterMap Frame.picture?

/-- Frames of later events come later. -/
theorem framesIn_append (events later : List RecordingEvent) :
    framesIn (events ++ later) = framesIn events ++ framesIn later :=
  List.filterMap_append

/-- A frame without a picture adds none. -/
theorem picturesOf_concat_of_none {frames : List Frame} {f : Frame} (none : f.picture? = none) :
    picturesOf (frames ++ [f]) = picturesOf frames := by
  rw [picturesOf, List.filterMap_append, List.filterMap_cons_none none, List.filterMap_nil,
    List.append_nil, picturesOf]

/-- A frame with a picture adds it. -/
theorem picturesOf_concat_of_some {frames : List Frame} {f : Frame} {picture : List UInt8}
    (decoded : f.picture? = some picture) :
    picturesOf (frames ++ [f]) = picturesOf frames ++ [picture] := by
  rw [picturesOf, List.filterMap_append, List.filterMap_cons_some decoded, List.filterMap_nil,
    picturesOf]

/-- A frame shows the bytes that its text is the encoding of. -/
theorem Frame.picture?_eq_some_iff {f : Frame} {picture : List UInt8} :
    f.picture? = some picture ↔ f.data = Base64.text (Base64.encode picture) := by
  have decoded : f.picture? = some picture ↔
      Base64.decode (Text.encode f.data.toList) = .ok picture := by
    unfold Frame.picture?
    cases Base64.decode (Text.encode f.data.toList) <;> simp [Except.toOption]
  have symbols := Base64.encode_toList_text picture
  rw [decoded, Base64.decode_eq_ok_iff]
  constructor
  · exact fun same => String.toList_injective (Text.encode_inj (same.trans symbols.symm))
  · exact fun same => same ▸ symbols

namespace Recorder

variable {r r' : Recorder} {events : List RecordingEvent} {heeds : Bool} {writing : Writing}

/-! ## What a turn does -/

/-- What one turn makes of a recorder. -/
inductive Turned (r : Recorder) (heeds : Bool) (writing : Writing) : Recorder → Prop where
  /-- It takes the picture that came first. -/
  | takes {f : Frame} {rest : List Frame} (running : r.running = true)
      (free : r.stopping = false ∨ heeds = false) (next : r.waiting = f :: rest) :
      Turned r heeds writing ({ r with waiting := rest }.take f writing)
  /-- It ends, as it was told to or because nothing waits and no more pictures can come. -/
  | ends (running : r.running = true)
      (last : r.stopping = true ∧ (heeds = true ∨ r.waiting = []) ∨
        r.closed = true ∧ r.waiting = []) :
      Turned r heeds writing { r with running := false }
  /-- It finds nothing to do, or has ended before. -/
  | rests (idle : r.running = false ∨ r.stopping = false ∧ r.waiting = [] ∧ r.closed = false) :
      Turned r heeds writing r

/-- A turn of the recorder is one of these. -/
theorem turned (r : Recorder) (heeds : Bool) (writing : Writing) :
    Turned r heeds writing (r.turn heeds writing) := by
  rw [turn]
  split
  · rename_i ended
    exact .rests (.inl (by simpa using ended))
  · rename_i running
    have running : r.running = true := by simpa using running
    split
    · rename_i told
      exact .ends running (.inl (by simpa using told))
    · rename_i going
      split
      · rename_i f rest next
        have free := Bool.and_eq_false_iff.mp (Bool.eq_false_iff.mpr going)
        exact .takes running (free.imp_right fun none => (Bool.or_eq_false_iff.mp none).1) next
      · rename_i none
        have going : r.stopping = false := by simpa [none] using going
        split
        · rename_i closed
          exact .ends running (.inr ⟨closed, none⟩)
        · rename_i opened
          exact .rests (.inr ⟨going, none, Bool.eq_false_iff.mpr opened⟩)

/-- Taking a picture acknowledges it, and then does nothing more or appends it to the file. -/
theorem take_cases (r : Recorder) (f : Frame) (writing : Writing) :
    f.picture? = none ∧ r.take f writing = r.acknowledge f ∨
      ∃ picture, f.picture? = some picture ∧
        r.take f writing = (r.acknowledge f).append picture writing := by
  unfold take
  cases decoded : f.picture? with
  | none => exact .inl ⟨rfl, rfl⟩
  | some picture => exact .inr ⟨picture, rfl, rfl⟩

/-- What taking a picture does in any case. -/
structure Took (r : Recorder) (f : Frame) (r' : Recorder) : Prop where
  taken : r'.taken = r.taken ++ [f]
  acknowledged : r'.acknowledged = r.acknowledged ++ [f.session]
  waiting : r'.waiting = r.waiting
  stopping : r'.stopping = r.stopping
  /-- It ends the recording only with a warning. -/
  goes : r.running = true → r'.running = true ∨ r'.log ≠ []

/-- A frame that is taken is acknowledged, and its picture is written if there is one. -/
theorem took (r : Recorder) (f : Frame) (writing : Writing) : Took r f (r.take f writing) := by
  rcases r.take_cases f writing with ⟨-, take⟩ | ⟨picture, -, take⟩
  · rw [take]
    exact ⟨rfl, rfl, rfl, rfl, .inl⟩
  · rw [take]
    cases writing with
    | whole => exact ⟨rfl, rfl, rfl, rfl, .inl⟩
    | failed n trouble => exact ⟨rfl, rfl, rfl, rfl, fun _ => .inr (List.concat_ne_nil _ _)⟩

/-! ## What is in the file -/

/-- What the file of a recorder holds after some events. -/
inductive Filed (events : List RecordingEvent) (r : Recorder) : Prop where
  /-- All pictures were written that could be decoded. -/
  | whole (quiet : r.log = []) (content : r.content = (picturesOf r.taken).flatten)
      (written : r.written = (picturesOf r.taken).length) : Filed events r
  /-- A picture could not be written. Those before it were, and of it the first bytes. -/
  | broken {kept : List Frame} {f : Frame} {picture : List UInt8} {heeds : Bool} {n : Nat}
      {trouble : String} (failed : .turn heeds (.failed n trouble) ∈ events)
      (last : r.taken = kept ++ [f]) (decoded : f.picture? = some picture)
      (content : r.content = (picturesOf kept).flatten ++ picture.take n)
      (written : r.written = (picturesOf kept).length) (warned : r.log = [unwritten trouble])
      (ended : r.running = false) : Filed events r

namespace Filed

/-- The file stays as it is when nothing is taken. -/
theorem later (filed : Filed events r) (more : List RecordingEvent) (taken : r'.taken = r.taken)
    (content : r'.content = r.content) (written : r'.written = r.written) (log : r'.log = r.log)
    (ended : r.running = false → r'.running = false) : Filed (events ++ more) r' := by
  cases filed with
  | whole quiet content' written' =>
    rw [← taken] at content' written'
    exact .whole (log.trans quiet) (content.trans content') (written.trans written')
  | broken failed last decoded content' written' warned ended' =>
    exact .broken (List.mem_append_left _ failed) (taken.trans last) decoded
      (content.trans content') (written.trans written') (log.trans warned) (ended ended')

/-- While a recording goes on, nothing has failed. -/
theorem of_running (filed : Filed events r) (running : r.running = true) :
    r.log = [] ∧ r.content = (picturesOf r.taken).flatten ∧
      r.written = (picturesOf r.taken).length := by
  cases filed with
  | whole quiet content written => exact ⟨quiet, content, written⟩
  | broken _ _ _ _ _ _ ended => cases running.symm.trans ended

/-- The picture that is taken goes to the end of the file. -/
theorem take (filed : Filed events r) (running : r.running = true) (f : Frame) :
    Filed (events ++ [.turn heeds writing]) (r.take f writing) := by
  obtain ⟨quiet, content, written⟩ := filed.of_running running
  rcases r.take_cases f writing with ⟨none, took⟩ | ⟨picture, decoded, took⟩
  · rw [took]
    refine .whole quiet (content.trans ?_) (written.trans ?_)
    · rw [acknowledge, picturesOf_concat_of_none none]
    · rw [acknowledge, picturesOf_concat_of_none none]
  · rw [took]
    cases writing with
    | whole =>
      refine .whole quiet ?_ ?_
      · show r.content ++ picture = (picturesOf (r.taken ++ [f])).flatten
        rw [content, picturesOf_concat_of_some decoded, List.flatten_concat]
      · show r.written + 1 = (picturesOf (r.taken ++ [f])).length
        rw [written, picturesOf_concat_of_some decoded, List.length_append, List.length_singleton]
    | failed n trouble =>
      refine .broken (List.mem_append_right _ (List.mem_singleton.mpr rfl)) rfl decoded ?_ written
        ?_ rfl
      · show r.content ++ picture.take n = _
        rw [content]
      · show r.log ++ [unwritten trouble] = _
        rw [quiet, List.nil_append]

end Filed

/-! ## What a recording does -/

/-- What a recorder has done with the events so far. -/
structure Account (events : List RecordingEvent) (r : Recorder) : Prop where
  /-- What came was taken, in order, or waits. -/
  came : r.taken ++ r.waiting = framesIn events
  /-- What was taken was acknowledged, in order and once. -/
  acknowledged : r.acknowledged = r.taken.map Frame.session
  filed : r.Filed events
  /-- A recording does not end of its own accord. -/
  ended : r.running = false → r.stopping = true ∨ r.closed = true ∨ r.log ≠ []

namespace Account

/-- Taking the next frame keeps the account. -/
theorem take {f : Frame} {rest : List Frame} (account : Account events r)
    (running : r.running = true) (next : r.waiting = f :: rest) :
    Account (events ++ [.turn heeds writing]) ({ r with waiting := rest }.take f writing) := by
  have took := took { r with waiting := rest } f writing
  obtain ⟨quiet, content, written⟩ := account.filed.of_running running
  have filed : Filed events { r with waiting := rest } := .whole quiet content written
  refine ⟨?_, ?_, filed.take running f, fun ended => ?_⟩
  · rw [took.taken, took.waiting, framesIn_append, ← account.came, next, List.append_assoc]
    exact (List.append_nil _).symm
  · rw [took.acknowledged, took.taken, List.map_append]
    exact congrArg (· ++ [f.session]) account.acknowledged
  · exact .inr (.inr ((took.goes running).resolve_left (by rw [ended]; decide)))

/-- A turn keeps the account. -/
theorem turned (account : Account events r) (turned : Turned r heeds writing r') :
    Account (events ++ [.turn heeds writing]) r' := by
  have came : r.taken ++ r.waiting = framesIn (events ++ [.turn heeds writing]) := by
    rw [framesIn_append, account.came]
    exact (List.append_nil _).symm
  cases turned with
  | takes running free next => exact account.take running next
  | ends running last =>
    exact ⟨came, account.acknowledged, account.filed.later _ rfl rfl rfl rfl fun _ => rfl,
      fun _ => last.imp And.left fun ended => .inl ended.1⟩
  | rests idle =>
    exact ⟨came, account.acknowledged, account.filed.later _ rfl rfl rfl rfl id, account.ended⟩

/-- An event keeps the account. -/
theorem step (account : Account events r) (e : RecordingEvent) :
    Account (events ++ [e]) (r.step e) := by
  have came (waiting : List Frame) (now : waiting = r.waiting ++ framesIn [e]) :
      r.taken ++ waiting = framesIn (events ++ [e]) := by
    rw [framesIn_append, ← account.came, now, List.append_assoc]
  cases e with
  | turn heeds writing => exact account.turned (r.turned heeds writing)
  | frame f =>
    exact ⟨came _ rfl, account.acknowledged, account.filed.later _ rfl rfl rfl rfl id,
      account.ended⟩
  | close =>
    exact ⟨came _ (List.append_nil _).symm, account.acknowledged,
      account.filed.later _ rfl rfl rfl rfl id, fun _ => .inr (.inl rfl)⟩
  | stop =>
    exact ⟨came _ (List.append_nil _).symm, account.acknowledged,
      account.filed.later _ rfl rfl rfl rfl id, fun _ => .inl rfl⟩

end Account

/-- Later events go on from where the earlier ones led. -/
theorem run_append (r : Recorder) (events later : List RecordingEvent) :
    r.run (events ++ later) = (r.run events).run later :=
  List.foldl_append

/-- A recording is accounted for, whatever its events are. -/
theorem account_run (events : List RecordingEvent) : Account events (begun.run events) := by
  induction events using List.reverseRecOn with
  | nil => exact ⟨rfl, rfl, .whole rfl rfl rfl, nofun⟩
  | append_singleton events e ih =>
    rw [run_append]
    exact ih.step e

/-! ## Turn after turn -/

/-- A recorder that goes on takes the picture that came first, and goes on if it can be written. -/
theorem turn_of_going {f : Frame} {rest : List Frame} (heeds : Bool) (running : r.running = true)
    (going : r.stopping = false) (next : r.waiting = f :: rest) :
    r.turn heeds .whole = { r with waiting := rest }.take f .whole ∧
      (r.turn heeds .whole).running = true := by
  have turn : r.turn heeds .whole = { r with waiting := rest }.take f .whole := by
    simp [Recorder.turn, running, going, next]
  refine ⟨turn, ?_⟩
  rw [turn]
  rcases take_cases { r with waiting := rest } f .whole with ⟨-, take⟩ | ⟨picture, -, take⟩
  · rw [take]
    exact running
  · rw [take]
    exact running

/-- A recorder that is not told to stop takes one picture a turn as long as pictures wait. -/
theorem taken_run_turns (heeds : Bool) (running : r.running = true) (going : r.stopping = false) :
    (r.run (List.replicate r.waiting.length (.turn heeds .whole))).taken =
      r.taken ++ r.waiting := by
  generalize next : r.waiting = waiting
  induction waiting generalizing r with
  | nil => exact (List.append_nil _).symm
  | cons f rest ih =>
    obtain ⟨turn, goes⟩ := turn_of_going heeds running going next
    have took := took { r with waiting := rest } f .whole
    rw [← turn] at took
    rw [List.length_cons, List.replicate_succ]
    refine (ih goes (took.stopping.trans going) took.waiting).trans ?_
    rw [took.taken, List.append_assoc]
    rfl

/-- A recording that has ended stays so. -/
theorem running_run_of_ended (events : List RecordingEvent) (ended : r.running = false) :
    (r.run events).running = false := by
  induction events generalizing r with
  | nil => exact ended
  | cons e events ih =>
    refine ih (r := r.step e) ?_
    cases e with
    | turn heeds writing => simp [step, turn, ended]
    | frame | close | stop => exact ended

/-- A recorder that was told to stop ends within the turns that it takes to take all that waits, and
one more. -/
theorem running_run_turns (turns : List (Bool × Writing)) (told : r.stopping = true)
    (many : r.waiting.length < turns.length) :
    (r.run (turns.map fun t => .turn t.1 t.2)).running = false := by
  induction turns generalizing r with
  | nil => exact absurd many (Nat.not_lt_zero _)
  | cons t turns ih =>
    have turned := r.turned t.1 t.2
    change ((r.turn t.1 t.2).run _).running = false
    generalize r.turn t.1 t.2 = next at turned
    cases turned with
    | @takes f rest running free next =>
      have took := took { r with waiting := rest } f t.2
      refine ih (took.stopping.trans told) ?_
      rw [took.waiting]
      rw [next, List.length_cons, List.length_cons] at many
      exact Nat.lt_of_succ_lt_succ many
    | ends running last => exact running_run_of_ended _ rfl
    | rests idle =>
      rcases idle with ended | ⟨going, -⟩
      · exact running_run_of_ended _ ended
      · cases told.symm.trans going

/-! ## All of it -/

/-- Whatever comes, whenever the word to stop is given and whichever pictures cannot be written: the
pictures taken are the first that came, each was acknowledged once and in that order, and the file
holds those of them that can be decoded, one after the other and counted, up to the first that could
not be written. A picture can be decoded if its text is the encoding of some bytes. As long as the
recorder is not told to stop and writing works, all that waits is taken in as many turns; once it is
told, it ends within as many and one more. -/
theorem pictures_account (events : List RecordingEvent) :
    let r := begun.run events
    r.taken <+: framesIn events ∧
      r.acknowledged = r.taken.map Frame.session ∧
      r.Filed events ∧
      (∀ f ∈ r.taken, ∀ picture, f.picture? = some picture ↔
        f.data = Base64.text (Base64.encode picture)) ∧
      (r.running = true → r.stopping = false → ∀ heeds,
        (r.run (List.replicate r.waiting.length (.turn heeds .whole))).taken = framesIn events) ∧
      (r.running = false → r.stopping = true ∨ r.closed = true ∨ r.log ≠ []) ∧
      (r.stopping = true → ∀ turns : List (Bool × Writing), r.waiting.length < turns.length →
        (r.run (turns.map fun t => .turn t.1 t.2)).running = false) := by
  intro r
  have account : Account events r := account_run events
  refine ⟨⟨r.waiting, account.came⟩, account.acknowledged, account.filed,
    fun f _ picture => f.picture?_eq_some_iff, fun running going heeds => ?_, account.ended,
    fun told turns many => running_run_turns turns told many⟩
  rw [taken_run_turns heeds running going, account.came]

-- The second picture is no base64 (its last symbol has bits to spare), and the third, taken
-- although the word to stop has come, cannot be written.
example :
    let r := begun.run
      [.frame ⟨3, "YQ=="⟩, .frame ⟨2, "YR=="⟩, .turn false .whole, .stop, .turn false .whole,
       .frame ⟨1, "YmM="⟩, .frame ⟨0, "ZA=="⟩, .turn false (.failed 1 "No space left on device"),
       .turn false .whole]
    r.acknowledged = [3, 2, 1] ∧ r.content = [97, 98] ∧ r.written = 1 ∧ r.running = false := by
  decide

end Recorder

end PageScript.Chrome
