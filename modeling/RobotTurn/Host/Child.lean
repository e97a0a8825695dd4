import RobotTurn.Host.Decoded
import RobotTurn.Host.Session
import RobotTurn.LineRobot

/-! A robot reached over lines: requests go to its input, replies are the marked lines of its
output. Lines without a mark that it writes before a reply are log lines of that turn. -/
namespace RobotTurn.Host

open Json (Wire)

/-- The two streams of a robot. `incoming` holds the lines still to be read, each with its
end, or the failure to read one; `refuses` tells which requests cannot be written, by how many
were made before, so that a request can fail that went through earlier. -/
structure Child where
  incoming : List (Except StreamError (List UInt8))
  refuses : Nat → List UInt8 → Option StreamError := fun _ _ => none
  asked : Nat := 0
  sent : List (List UInt8) := []

namespace Child

/-- A robot whose whole output is known. -/
def ofOutput (output : List UInt8)
    (refuses : Nat → List UInt8 → Option StreamError := fun _ _ => none) : Child :=
  { incoming := (Text.rawLines output).map .ok, refuses }

/-- A line without the line feeds and carriage returns at its end, if it is text. -/
def lineText (raw : Except StreamError (List UInt8)) : Except StreamError (List UInt8) := do
  let raw ← raw
  match Utf8.fault? raw with
  | none => return (raw.reverse.dropWhile fun b => b == 0x0A || b == 0x0D).reverse
  | some (start, length) => throw (.malformed start length)

/-- What follows a mark, if the line begins with it. -/
def body? (heading : LineRobot.Heading) (line : List UInt8) : Option (List UInt8) :=
  let mark := Utf8.encode (LineRobot.mark heading)
  if mark.isPrefixOf line then some (line.drop mark.length) else none

/-- Reads the first line as the answer to the payload. -/
def start (c : Child) : Answer Unit × Child :=
  match c.incoming with
  | [] => ({ reply := .error .noData }, c)
  | raw :: rest =>
    let reply := match lineText raw with
      | .error e => .error (.io e.message)
      | .ok line =>
        match body? .init line with
        | none => .error .noInit
        | some body => readReply body
    ({ reply }, { c with incoming := rest })

/-- Reads up to the next reply. The lines before it go to the end of its log; they are lost
if there is no reply. -/
def await (strays : List String) :
    List (Except StreamError (List UInt8)) →
      TurnReply × List (Except StreamError (List UInt8))
  | [] => (.error .noData, [])
  | raw :: rest =>
    match lineText raw with
    | .error e => (.error (.io e.message), rest)
    | .ok line =>
      match body? .output line with
      | some body =>
        ((readReply body).map (TurnReport.noting · strays), rest)
      | none => await (strays ++ [Utf8.lossy line]) rest

/-- The line of a request. -/
def request (b : Board) : List UInt8 :=
  Json.encode b ++ [0x0A]

/-- Writes a request and reads its reply. -/
def play (b : Board) (c : Child) : Answer TurnReport × Child :=
  let asked := c.asked + 1
  match c.refuses c.asked (request b) with
  | some e => ({ reply := .error (.io e.message) }, { c with asked })
  | none =>
    let (reply, rest) := await [] c.incoming
    ({ reply }, { c with incoming := rest, asked, sent := c.sent ++ [request b] })

end Child

namespace Session

def initChild (s : Session Child) :
    Except HostError (Answer Unit) × Session Child :=
  s.init (m := Id) Child.start

def turnChild (s : Session Child) (b : Board) :
    Except HostError (Answer TurnReport) × Session Child :=
  s.turn (m := Id) (Child.play b)

end Session
end RobotTurn.Host
