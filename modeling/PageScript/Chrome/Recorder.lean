import PageScript.Base64
import PageScript.Chrome.Peer
import PageScript.Log
import PageScript.Text.Utf8

/-!
# Recording the page

Pictures of the page wait for the recorder as they come. It has two things to attend to, the next
picture and the word to stop, and does one thing a turn; where there is both, either may be first.
To take a picture is to acknowledge it, which makes the browser send the next, and to append it to
the file if it can be decoded. What comes while a picture is taken waits. A picture that cannot be
written ends the recording, as does the word to stop; pictures that wait then are not taken any
more.
-/

namespace PageScript.Chrome

/-- How it turns out to append bytes to a file, as the recorder is told before it goes on. What
counts as written is what was taken over for writing: a file may tell only with the next write that
the one before did not reach the disk, and it is that next write which fails then. -/
inductive Writing where
  /-- All of them were taken over. -/
  | whole
  /-- It failed when so many of them were taken over. -/
  | failed (bytes : Nat) (trouble : String)
  deriving DecidableEq, Repr

/-- What was taken over of bytes that were to be appended. -/
def Writing.appended (bytes : List UInt8) : Writing → List UInt8
  | .whole => bytes
  | .failed n _ => bytes.take n

/-- A recording in the making. -/
structure Recorder where
  /-- The pictures that came and were not taken yet, first come first. -/
  waiting : List Frame
  /-- Whether no more pictures can come. -/
  closed : Bool
  /-- Whether it was told to stop. -/
  stopping : Bool
  running : Bool
  /-- The pictures taken, first taken first. -/
  taken : List Frame
  /-- The acknowledgements sent, first sent first. -/
  acknowledged : List Int
  /-- What was taken over for the file, in order. -/
  content : List UInt8
  /-- How many pictures were written; this is what a recording gives when it has ended. -/
  written : Nat
  /-- What the log tells. -/
  log : List LogLine
  deriving DecidableEq, Repr

/-- Something that reaches a recorder, or a turn of it. -/
inductive RecordingEvent where
  /-- A picture has come. -/
  | frame (frame : Frame)
  /-- No more pictures can come. -/
  | close
  /-- The recording is to be stopped. -/
  | stop
  /-- A turn. `heeds` says that the word to stop is attended to before a picture that waits, and
  `writing` how it turns out to write the picture. -/
  | turn (heeds : Bool) (writing : Writing)
  deriving DecidableEq, Repr

namespace Frame

/-- The picture, if it can be decoded. -/
def picture? (f : Frame) : Option (List UInt8) :=
  (Base64.decode (Text.encode f.data.toList)).toOption

end Frame

namespace Recorder

/-- A recording that has just begun. -/
def begun : Recorder :=
  { waiting := [], closed := false, stopping := false, running := true
    taken := [], acknowledged := [], content := [], written := 0, log := [] }

/-- The warning about a picture that could not be written. -/
def unwritten (trouble : String) : LogLine :=
  .warning ("failed to write video frame: " ++ trouble)

/-- Takes a picture over and acknowledges it. -/
def acknowledge (r : Recorder) (f : Frame) : Recorder :=
  { r with taken := r.taken ++ [f], acknowledged := r.acknowledged ++ [f.session] }

/-- Appends a picture to the file. -/
def append (r : Recorder) (picture : List UInt8) (writing : Writing) : Recorder :=
  let r := { r with content := r.content ++ writing.appended picture }
  match writing with
  | .whole => { r with written := r.written + 1 }
  | .failed _ trouble => { r with log := r.log ++ [unwritten trouble], running := false }

/-- Takes a picture: acknowledges it and appends it to the file. -/
def take (r : Recorder) (f : Frame) (writing : Writing) : Recorder :=
  match f.picture? with
  | none => r.acknowledge f
  | some picture => (r.acknowledge f).append picture writing

/-- One turn. Nothing happens if there is nothing to attend to, or any more. -/
def turn (r : Recorder) (heeds : Bool) (writing : Writing) : Recorder :=
  if !r.running then r
  else if r.stopping && (heeds || r.waiting.isEmpty) then { r with running := false }
  else
    match r.waiting with
    | f :: rest => { r with waiting := rest }.take f writing
    | [] => if r.closed then { r with running := false } else r

/-- Goes on with what comes next. -/
def step (r : Recorder) : RecordingEvent → Recorder
  | .frame f => { r with waiting := r.waiting ++ [f] }
  | .close => { r with closed := true }
  | .stop => { r with stopping := true }
  | .turn heeds writing => r.turn heeds writing

/-- Goes on with all that comes. -/
def run (r : Recorder) (events : List RecordingEvent) : Recorder :=
  events.foldl step r

end Recorder

end PageScript.Chrome
