import RobotTurn.Dict
import RobotTurn.Host.Session

/-! Writing a file so that readers see the old content or the whole new one. A writer fills a
temporary file of its own and then renames it into place; writers take turns in any order and
any step may fail. -/
namespace RobotTurn.Host

/-- File names and contents. -/
abbrev Directory := Dict (List UInt8)

namespace Publish

/-- A path without the extension of its last name. A dot in front of a name begins none. -/
def stem (path : String) : String :=
  match path.toList.reverse.dropWhile fun c => c ≠ '.' && c ≠ '/' with
  | '.' :: c :: front => if c = '/' then path else String.ofList (c :: front).reverse
  | _ => path

/-- What tells a call from all others: its process, and how many calls that has made before. -/
structure Ticket where
  process : Nat := 0
  number : Nat := 0
  deriving DecidableEq, Repr

/-- The path of the file that a call fills. -/
def temporary (path : String) (t : Ticket) : String :=
  s!"{stem path}.cwasm.tmp-{t.process}-{t.number}"

/-- How a call ends. A file that could not be put in place is cleared away; where no message says
what failed, another writer has put one there. A file that could not be filled is not cleared away:
`written` octets of it are there. -/
inductive Ending where
  | published
  | cleared (refusal : Option String)
  | uncreated (message : String)
  | unfilled (written : Nat) (message : String)
  deriving DecidableEq, Repr

def Ending.fault? : Ending → Option HostError
  | published => none
  | cleared refusal => refusal.map .io
  | uncreated message | unfilled _ message => some (.io message)

/-- Where a writer is in its work. -/
inductive Stage where
  | creating
  | filling
  | renaming
  | clearing (refusal : Option String)
  | returned (ending : Ending)
  deriving DecidableEq, Repr

structure Writer where
  path : String
  content : List UInt8
  ticket : Ticket := {}
  stage : Stage := .creating
  deriving DecidableEq, Repr

def Writer.temporary (w : Writer) : String := Publish.temporary w.path w.ticket

/-- What the call has come back with, if it has failed. -/
def Writer.fault? (w : Writer) : Option HostError :=
  match w.stage with
  | .returned ending => ending.fault?
  | _ => none

/-- How the file system treats a step. A file may already have been filled in part when filling it
fails; `taken` is the refusal to rename because of a file that is there. -/
inductive Fate where
  | done
  | taken
  | failed (message : String) (written : Nat)
  deriving DecidableEq, Repr

/-- The next step of a writer. To put the file in the place of one that another writer has put there
counts as success. -/
def Writer.step (w : Writer) (dir : Directory) (fate : Fate) : Writer × Directory :=
  match w.stage, fate with
  | .creating, .failed message _ => ({ w with stage := .returned (.uncreated message) }, dir)
  | .creating, _ => ({ w with stage := .filling }, dir.insert w.temporary [])
  | .filling, .failed message n =>
    ({ w with stage := .returned (.unfilled n message) }, dir.insert w.temporary (w.content.take n))
  | .filling, _ => ({ w with stage := .renaming }, dir.insert w.temporary w.content)
  | .renaming, .failed message _ => ({ w with stage := .clearing (some message) }, dir)
  | .renaming, .taken => ({ w with stage := .clearing none }, dir)
  | .renaming, .done =>
    match dir.find? w.temporary with
    | none =>
      ({ w with stage := .clearing (some "No such file or directory (os error 2)") }, dir)
    | some written =>
      ({ w with stage := .returned .published }, (dir.erase w.temporary).insert w.path written)
  | .clearing refusal, _ =>
    ({ w with stage := .returned (.cleared refusal) }, dir.erase w.temporary)
  | .returned _, _ => (w, dir)

/-- A process that writes: its ticket for the next call, and the most octets that a file can be
filled with. -/
structure Origin where
  ticket : Ticket := {}
  room : Option Nat := none

/-- How the file system treats the filling of a file. -/
def Origin.filling (o : Origin) (content : List UInt8) : Fate :=
  match o.room with
  | none => .done
  | some n =>
    if content.length ≤ n then .done else .failed "File too large (os error 27)" n

/-- Writes a file with no other writer about. Nothing but the room can be lacking. -/
def write (o : Origin) (path : String) (content : List UInt8) (dir : Directory) :
    Writer × Directory :=
  [.done, o.filling content, .done, .done].foldl (fun s fate => s.1.step s.2 fate)
    ({ path, content, ticket := o.ticket }, dir)

/-- Writers at work in one directory, in the order in which they were called. -/
structure Scene where
  dir : Directory
  writers : List Writer := []

inductive Event where
  | call (process : Nat) (path : String) (content : List UInt8)
  | step (writer : Nat) (fate : Fate)
  deriving DecidableEq, Repr

/-- How many calls a process has made. -/
def Scene.calls (s : Scene) (process : Nat) : Nat :=
  (s.writers.map (·.ticket)).countP (·.process = process)

/-- A call takes the next number of its process; then its writer goes on step by step. -/
def Scene.step (s : Scene) : Event → Scene
  | .call process path content =>
    let ticket := { process, number := s.calls process }
    { s with writers := s.writers ++ [{ path, content, ticket }] }
  | .step i fate =>
    match s.writers[i]? with
    | none => s
    | some w =>
      let next := w.step s.dir fate
      { dir := next.2, writers := s.writers.set i next.1 }

def Scene.run (s : Scene) (events : List Event) : Scene :=
  events.foldl Scene.step s

end Publish
end RobotTurn.Host
