import RobotTurn.Command.Request
import RobotTurn.Host.Cache
import RobotTurn.Host.Child
import RobotTurn.Host.Sandbox

/-! The command line: plays a robot over a file of boards, one document per line, and prints
its replies as the marked lines of a line robot. The whole file is read before a robot is
started. -/
namespace RobotTurn.Command

open Host (Compiler Directory Guest HostError Child Sandbox Session Settings)
open Json (Wire)

/-- What the commands work on. A file is given by its content or by the system's message;
`directory` is a cache, if there can be one at that path, and `origin` is who writes there; a
started program turns its whole input into its whole output. -/
structure World (μ σ : Type) where
  file : String → Except String (List UInt8)
  directory : String → Option Directory
  origin : Host.Publish.Origin := {}
  program : String → List String → Option (List UInt8 → List UInt8)
  compiler : Compiler μ
  guest : μ → Guest σ

/-- How a command ends, and the cache that it leaves. -/
structure Result where
  code : Nat
  output : List UInt8 := []
  error : Option String := none
  cache : Option Directory := none

namespace Result

/-- Ends with a complaint. -/
def refuse (error : String) (output : List UInt8 := []) : Result :=
  { code := 1, output, error := some error }

/-- The result of a command line of the wrong form. -/
def misuse : Result := { code := 2 }

/-- Tells what was asked for. -/
def tell (text : String) : Result := { code := 0, output := Utf8.encode text }

end Result

/-- Adds the board of a line to those of the lines before it. A blank line has none. -/
def addLine (path : String) (boards : List Board) : String × Nat → Except String (List Board)
  | (line, n) =>
    if Text.isBlank line then .ok boards
    else match Json.decode Board (Utf8.encode line) with
      | .ok b => .ok (boards ++ [b])
      | .error _ => .error s!"{path}:{n}: invalid turn state"

/-- The boards of a file. Lines are counted from one, blank ones too. -/
def readBoards (path : String) (content : Except String (List UInt8)) :
    Except String (List Board) :=
  match content.toOption.bind Utf8.decode? with
  | none => .error s!"failed to read {path}"
  | some text => ((Text.lines text).zipIdx 1).foldlM (addLine path) []

def readPayload (file : String → Except String (List UInt8)) (o : Options) :
    Except String (List UInt8) :=
  match o.payload with
  | none => .ok []
  | some path => (file path).mapError fun _ => s!"failed to read {path}"

/-- The boards and the payload of a game in a sandbox. -/
def readGame (file : String → Except String (List UInt8)) (states : String) (o : Options) :
    Except String (List Board × List UInt8) := do
  let boards ← readBoards states (file states)
  let payload ← readPayload file o
  return (boards, payload)

section Sandboxed

variable {μ σ : Type} (w : World μ σ)

/-- Loads a guest, through the cache if there is one. -/
def loadGuest (path : String) (o : Options) :
    Except String μ × Option Directory :=
  let failed := s!"failed to load {path}"
  match w.file path with
  | .error _ => (.error failed, none)
  | .ok source =>
    match o.cache with
    | none => ((w.compiler.fresh source).mapError fun _ => failed, none)
    | some cache =>
      match w.directory cache with
      | none => (.error failed, none)
      | some dir =>
        let (guest, dir) := w.compiler.load dir source w.origin
        (guest.mapError fun _ => failed, some dir)

/-- Plays boards in a sandbox. A turn that never ends is given up if there is a timeout. -/
def playSandbox (timeout : Bool) (s : Session (Sandbox σ)) (output : List UInt8) :
    List Board → Option Result
  | [] => some { code := 0, output }
  | b :: rest =>
    match s.turnSandbox b with
    | none =>
      if timeout then
        let given : TurnReply := .error .internal
        some { code := 1, output := output ++ LineRobot.line .output given }
      else none
    | some (.error e, _) => some (.refuse e.message output)
    | some (.ok answer, s) =>
      playSandbox timeout s (output ++ LineRobot.line .output answer.reply) rest

/-- Starts a guest in a sandbox and plays boards. Nothing comes of a guest that never ends. -/
def runGuest (guest : Guest σ) (payload : List UInt8) (boards : List Board) (o : Options) :
    Option Result :=
  let settings : Settings := { maxMemory := o.maxMemory.getD (2 ^ 64 - 1) }
  match Sandbox.launch settings guest with
  | .error e => some (.refuse e.message)
  | .ok s =>
    match s.initSandbox payload with
    | none => none
    | some (.error e, _) => some (.refuse e.message)
    | some (.ok answer, s) =>
      let output := LineRobot.line .init answer.reply
      match answer.reply with
      | .error _ => some { code := 1, output }
      | .ok _ => playSandbox o.turnTimeout.isSome s output boards

def runSandbox (path states : String) (o : Options) : Option Result :=
  match readGame w.file states o with
  | .error e => some (.refuse e)
  | .ok (boards, payload) =>
    match loadGuest w path o with
    | (.error e, cache) => some { Result.refuse e with cache }
    | (.ok guest, cache) =>
      (runGuest (w.guest guest) payload boards o).map fun r => { r with cache }

end Sandboxed

/-- Plays boards over lines. -/
def playChild (s : Session Child) (output : List UInt8) : List Board → Result
  | [] => { code := 0, output }
  | b :: rest =>
    match s.turnChild b with
    | (.error e, _) => .refuse e.message output
    | (.ok answer, s) => playChild s (output ++ LineRobot.line .output answer.reply) rest

/-- Plays boards with a started program. -/
def runProgram (program : List UInt8 → List UInt8) (boards : List Board) : Result :=
  let s : Session Child := { link := .ofOutput (program (boards.flatMap Child.request)) }
  match s.initChild with
  | (.error e, _) => .refuse e.message
  | (.ok answer, s) =>
    let output := LineRobot.line .init answer.reply
    match answer.reply with
    | .error _ => { code := 1, output }
    | .ok _ => playChild s output boards

def runChild {μ σ : Type} (w : World μ σ) (states program : String)
    (arguments : List String) : Result :=
  match readBoards states (w.file states) with
  | .error e => .refuse e
  | .ok boards =>
    match w.program program arguments with
    | none => .refuse s!"failed to start {program}"
    | some program => runProgram program boards

/-- Runs a command line. There is no result if a guest never ends. -/
def run {μ σ : Type} (w : World μ σ) (args : List String) : Option Result :=
  match parse args with
  | none => some .misuse
  | some (.sandbox guest states o) => runSandbox w guest states o
  | some (.process states program arguments) => some (runChild w states program arguments)
  | some (.help topic) => some (.tell topic.page.text)
  | some .version => some (.tell version)

/-- A robot as a program of its own. The first argument names the file of its payload. -/
def robot {σ : Type} (factory : Factory σ) (file : String → Except String (List UInt8))
    (args : List String) (input : List UInt8) : LineRobot.Transcript :=
  match args with
  | [] => LineRobot.run factory [] input
  | path :: _ =>
    match file path with
    | .error message => LineRobot.unreadable message
    | .ok payload => LineRobot.run factory payload input

/-- What a robot's program leaves behind. -/
def robotResult (t : LineRobot.Transcript) : Result :=
  { code := if t.ending.succeeded then 0 else 1, output := t.written }

end RobotTurn.Command
