import RobotTurn.Command
import RobotTurn.Demo
import RobotTurn.Host.Bare

/-! The program: reads what the command line names, runs the command, and writes what comes of
it. Called by the name of the demo robot, it is that robot. -/
namespace RobotTurn.Main

open Command (Request Result World)
open Host (Bare Directory)

def demoName : String := "demo"

/-- The system's words for a failure. -/
def systemMessage : IO.Error → String
  | .noFileOrDirectory .. => "No such file or directory (os error 2)"
  | .permissionDenied _ code details | .inappropriateType _ code details
  | .invalidArgument _ code details => s!"{details} (os error {code})"
  | e => toString e

def readFile (path : String) : IO (Except String (List UInt8)) := do
  try
    return .ok (← IO.FS.readBinFile path).toList
  catch e =>
    return .error (systemMessage e)

/-- Files by name, read once. -/
def readFiles (paths : List String) : IO (String → Except String (List UInt8)) := do
  let found ← paths.mapM fun path => return (path, ← readFile path)
  return fun path => (found.lookup path).getD (.error "No such file or directory (os error 2)")

partial def readAll (input : IO.FS.Stream) (read : ByteArray) : IO ByteArray := do
  let more ← input.read 65536
  if more.isEmpty then return read else readAll input (read ++ more)

/-- What a cache holds for a guest; nothing if there can be no directory. -/
def openCache (dir : String) (source : List UInt8) : IO (Option Directory) := do
  try
    IO.FS.createDirAll dir
    let entry := Bare.compiler.entry source
    match ← readFile s!"{dir}/{entry}" with
    | .ok content => return some ((∅ : Directory).insert entry content)
    | .error _ => return some ∅
  catch _ => return none

/-- The cache for a request whose other files can be read. -/
def prepareCache (file : String → Except String (List UInt8)) :
    Request → IO (Option Directory)
  | .sandbox guest states o =>
    match o.cache, Command.readGame file states o, file guest with
    | some dir, .ok _, .ok source => openCache dir source
    | _, _, _ => return none
  | _ => return none

/-- Puts each file of a cache in place by way of a temporary one. -/
def storeCache (dir : String) (files : Directory) : IO Unit := do
  for (name, content) in files.entries do
    let temporary := s!"{dir}/{name}.tmp"
    IO.FS.writeBinFile temporary ⟨content.toArray⟩
    IO.FS.rename temporary s!"{dir}/{name}"

def finish (r : Result) : IO UInt32 := do
  let output ← IO.getStdout
  output.write ⟨r.output.toArray⟩
  output.flush
  if let some e := r.error then IO.eprintln s!"Error: {e}"
  return r.code.toUInt32

/-- Reads what a request needs and runs it. -/
def play (args : List String) (request : Request) : IO UInt32 := do
  let file ← readFiles request.files
  let cache ← prepareCache file request
  let world : World Bare Unit :=
    { file
      directory := fun _ => cache
      program := fun name args =>
        if name = demoName then
          some fun input => (Command.robot Demo.robot file args input).written
        else none
      compiler := Bare.compiler
      guest := Bare.guest () }
  match Command.run world args with
  | none => return 1
  | some r =>
    if let (some dir, some files) := (request.cache?, r.cache) then storeCache dir files
    finish r

/-- The demo robot over the standard streams. -/
def playDemo (args : List String) : IO UInt32 := do
  let file ← readFiles (args.take 1)
  let input ← readAll (← IO.getStdin) .empty
  finish (Command.robotResult (Command.robot Demo.robot file args input.toList))

end RobotTurn.Main

open RobotTurn in
def main (args : List String) : IO UInt32 := do
  let name := (← IO.appPath).fileName
  if name = some Main.demoName then Main.playDemo args
  else match Command.parse args with
    | none => Main.finish .misuse
    | some request => Main.play args request
