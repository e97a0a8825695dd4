import RobotTurn.Command
import RobotTurn.Script.Files
import RobotTurn.Script.Shell

/-! The programs of a system that can stand in for a robot. The command line starts them, and a
shell can call it in turn. -/
namespace RobotTurn.Script

/-- What a program writes, given its arguments and its whole input. -/
abbrev Program := List String → List UInt8 → List UInt8

namespace Program

/-- The octets of a file; none if it cannot be read. -/
def contentOf (t : Files) (path : String) : List UInt8 :=
  (t.read path).toOption.getD []

/-- Runs the text that is given or lies in a file; without one, the input is the text. -/
def shell (t : Files) (callee : Shell.Callee) : Program
  | "-c" :: text :: _, input => Shell.run callee text input
  | path :: _, input => Shell.run callee (Utf8.lossy (contentOf t path)) input
  | [], input => Shell.run callee (Utf8.lossy input) []

/-- Writes the files one after the other; a dash stands for the input. -/
def concatenate (t : Files) : Program
  | [], input => input
  | paths, input => paths.flatMap fun p => if p = "-" then input else contentOf t p

/-- Writes its arguments on a line. -/
def echo : Program
  | "-n" :: words, _ => Utf8.encode (" ".intercalate words)
  | words, _ => Utf8.encode (" ".intercalate words ++ "\n")

def silent : Program := fun _ _ => []

/-- The places that programs lie at. -/
def folders : List String := ["/bin/", "/usr/bin/"]

/-- The name of a program: a bare one, or one with its place. -/
def bareName (name : String) : String :=
  match folders.find? (name.startsWith ·) with
  | some folder => (name.drop folder.length).toString
  | none => name

/-- The program of a name. -/
def named? (t : Files) (callee : Shell.Callee) (name : String) : Option Program :=
  match bareName name with
  | "sh" | "bash" => some (shell t callee)
  | "cat" => some (concatenate t)
  | "echo" => some echo
  | "true" | "false" => some silent
  | _ => none

/-- The command line as a program that is called. It works on its own world, with the limit of the
caller and the directories that the caller has made. A call that never ends fails. -/
def commandLine {μ σ : Type} (w : Command.World μ σ) : Shell.Callee := fun room made arguments =>
  let directory path := (w.directory path).map fun dir => (made.find? path).getD dir
  match Command.run { w with directory, origin := { room } } arguments with
  | none => {}
  | some r =>
    { succeeded := r.code = 0
      written := r.output
      directory := do
        let request ← Command.parse arguments
        return (← request.cache?, ← r.cache) }

end Program
end RobotTurn.Script
