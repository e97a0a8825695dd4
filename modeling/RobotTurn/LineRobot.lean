import RobotTurn.Runner
import RobotTurn.Text.Blank
import RobotTurn.Text.Lines

/-! A session over lines. The robot answers its payload with one marked line, and then each
line that is not blank, the document of a board, with another. A failed start ends the session
before any board is read. -/
namespace RobotTurn

/-- How a stream fails. A malformed stretch is told with its place and its length. -/
inductive StreamError where
  | notUtf8
  | malformed (start : Nat) (length : Option Nat)
  | full (stream : String)
  | broken (message : String)
  deriving DecidableEq, Repr

def StreamError.message : StreamError → String
  | notUtf8 => "stream did not contain valid UTF-8"
  | malformed start none => s!"incomplete utf-8 byte sequence from index {start}"
  | malformed start (some length) =>
    s!"invalid utf-8 sequence of {length} bytes from index {start}"
  | full stream => s!"{stream} is full"
  | broken message => message

namespace LineRobot

/-- What a line answers: the payload, or a board. -/
inductive Heading where
  | init
  | output
  deriving DecidableEq, Repr

open Json (Wire)

variable {σ α : Type}

/-- The mark that begins a line. -/
def mark : Heading → String
  | .init => "__rr_init:"
  | .output => "__rr_output:"

/-- The line of a reply. -/
def line [Wire α] (heading : Heading) (a : α) : List UInt8 :=
  Utf8.encode (mark heading) ++ Json.encode a ++ [0x0A]

/-- What a session writes: its own lines, and the text that the robot prints between them. -/
inductive Chunk where
  | reply (line : List UInt8)
  | print (text : String)

/-- How a session ends: at the end of its input with the answer to its payload, by a failing
stream, or in the middle of a call. -/
inductive Ending where
  | finished (init : InitReply)
  | failed (e : StreamError)
  | aborted

structure Transcript where
  chunks : List Chunk
  ending : Ending

/-- Puts a chunk in front. -/
def Transcript.after (t : Transcript) (c : Chunk) : Transcript :=
  { t with chunks := c :: t.chunks }

/-- Where lines are written. `room` is how many octets it still takes, without it any
number. -/
structure Sink where
  name : String := "sink"
  room : Option Nat := none

/-- Writes a whole line or fails. -/
def Sink.take (s : Sink) (size : Nat) : Except StreamError Sink :=
  match s.room with
  | none => .ok s
  | some room =>
    if size ≤ room then .ok { s with room := some (room - size) } else .error (.full s.name)

/-- Writes a line and goes on, unless the sink fails. -/
def send (sink : Sink) (line : List UInt8) (next : Sink → Transcript) : Transcript :=
  match sink.take line.length with
  | .error e => ⟨[], .failed e⟩
  | .ok sink => (next sink).after (.reply line)

/-- A line that holds nothing. -/
def skips (line : List UInt8) : Bool :=
  (Utf8.decode? line).any Text.isBlank

/-- Answers the lines of the input, one by one. -/
def serve (runner : Runner σ) (sink : Sink) : List (List UInt8) → Transcript
  | [] => ⟨[], .finished (.ok ())⟩
  | input :: rest =>
    if !Utf8.valid input then ⟨[], .failed .notUtf8⟩
    else
      let request := Text.chomp 0x0A 0x0D input
      if skips request then serve runner sink rest
      else
        let step := runner.turnFrom request
        let answered : Transcript := match step.answer with
          | none => ⟨[], .aborted⟩
          | some reply => send sink (line .output reply) fun sink => serve step.runner sink rest
        answered.after (.print step.printed)

/-- Runs a session over an input. -/
def run (factory : Factory σ) (payload input : List UInt8) (sink : Sink := {}) : Transcript :=
  let (reply, runner) := Runner.load factory payload .idle
  send sink (line .init reply) fun sink =>
    match reply with
    | .error e => ⟨[], .finished (.error e)⟩
    | .ok _ => serve runner sink (Text.rawLines input)

/-- The lines of replies. -/
def Transcript.replies (t : Transcript) : List (List UInt8) :=
  t.chunks.filterMap fun
    | .reply line => some line
    | .print _ => none

/-- The text that the robot printed. -/
def Transcript.printed (t : Transcript) : String :=
  String.join (t.chunks.filterMap fun
    | .reply _ => none
    | .print text => some text)

/-- Everything in the order in which it was written. -/
def Transcript.written (t : Transcript) : List UInt8 :=
  t.chunks.flatMap fun
    | .reply line => line
    | .print text => Utf8.encode text

/-- The answer to a payload that cannot be read. -/
def unreadable (message : String) : Transcript where
  chunks := [.reply (line .init (.error (.io message) : InitReply))]
  ending := .finished (.error (.io message))

/-- Whether a session ended well. -/
def Ending.succeeded : Ending → Bool
  | .finished (.ok _) => true
  | _ => false

end LineRobot
end RobotTurn
