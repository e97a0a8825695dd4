import RobotTurn.Host.Publish
import RobotTurn.Text.Blank
import RobotTurn.Text.Lines

/-! Line programs of a few commands: they write lines, read lines and stop, and they can call the
program that has started them. -/
namespace RobotTurn.Script.Shell

open Host (Directory)

/-- A part of a word. -/
inductive Piece where
  | plain (c : Char)
  | variable (name : String)
  deriving DecidableEq, Repr

abbrev Word := List Piece

inductive Quote where
  | none
  | single
  | double
  deriving DecidableEq, Repr

/-- A text being split: the open word, the open command and the closed commands, all in
reverse. `naming` holds the name of a variable under way. -/
structure Split where
  quote : Quote := .none
  naming : Option (List Char) := none
  word : Option Word := none
  command : List Word := []
  commands : List (List Word) := []

namespace Split

def push (s : Split) (p : Piece) : Split :=
  { s with word := some (p :: s.word.getD []) }

/-- Ends the name of a variable. -/
def endName (s : Split) : Split :=
  match s.naming with
  | none => s
  | some name => { s.push (.variable (String.ofList name.reverse)) with naming := none }

def endWord (s : Split) : Split :=
  match s.word with
  | none => s
  | some w => { s with word := none, command := w.reverse :: s.command }

def endCommand (s : Split) : Split :=
  let s := s.endWord
  if s.command.isEmpty then s
  else { s with command := [], commands := s.command.reverse :: s.commands }

/-- Reads a character that does not belong to a name. -/
def plain (s : Split) (c : Char) : Split :=
  match s.quote with
  | .single => if c = '\'' then { s with quote := .none } else s.push (.plain c)
  | .double =>
    if c = '"' then { s with quote := .none }
    else if c = '$' then { s with naming := some [] }
    else s.push (.plain c)
  | .none =>
    if c = '\'' then { s with quote := .single, word := some (s.word.getD []) }
    else if c = '"' then { s with quote := .double, word := some (s.word.getD []) }
    else if c = '$' then { s with naming := some [] }
    else if c = '\n' ∨ c = ';' then s.endCommand
    else if c = ' ' ∨ c = '\t' then s.endWord
    else s.push (.plain c)

def step (s : Split) (c : Char) : Split :=
  match s.naming with
  | some name =>
    if c.isAlphanum ∨ c = '_' then { s with naming := some (c :: name) } else s.endName.plain c
  | none => s.plain c

/-- The commands of a text, each a list of words. -/
def ofText (text : String) : List (List Word) :=
  (text.toList.foldl step {}).endName.endCommand.commands.reverse

end Split

/-- A command without a body. A limit is on the blocks that a file can be filled with. -/
inductive Plain where
  | write (words : List Word) (newline : Bool)
  | read (name : String)
  | stop
  | limit (blocks : Nat)
  | call (arguments : List Word)
  | remove (directory : Word)
  | onSuccess (p : Plain)
  deriving DecidableEq, Repr

inductive Step where
  | plain (p : Plain)
  | loop (name : String) (body : List Plain)
  deriving DecidableEq, Repr

def Word.ofText (s : String) : Word := s.toList.map .plain

def Word.text (vars : Dict String) (w : Word) : String :=
  String.join (w.map fun
    | .plain c => String.singleton c
    | .variable name => (vars.find? name).getD "")

/-- The word for the program that has started this one. -/
def caller : Word :=
  Word.ofText "/proc/" ++ .variable "PPID" :: Word.ofText "/exe"

/-- The name that a read fills: the last word. -/
def readName (words : List Word) : String :=
  (words.getLast?.map (Word.text ∅)).getD ""

/-- A program under construction: its steps in reverse, and the loop that is open. -/
structure Draft where
  steps : List Step := []
  body : Option (String × List Plain) := none

namespace Draft

def add (d : Draft) (p : Plain) : Draft :=
  match d.body with
  | none => { d with steps := .plain p :: d.steps }
  | some (name, body) => { d with body := some (name, body ++ [p]) }

/-- A command that is not a loop; nothing if it is not known. -/
def plain? (words : List Word) : Option Plain :=
  match words.map (Word.text ∅), words with
  | "echo" :: "-n" :: _, _ :: _ :: rest => some (.write rest false)
  | "echo" :: _, _ :: rest => some (.write rest true)
  | "exit" :: _, _ => some .stop
  | "read" :: _, words => some (.read (readName words))
  | ["ulimit", "-f", blocks], _ => blocks.toNat?.map .limit
  | ["rmdir", _], [_, directory] => some (.remove directory)
  | _, first :: arguments => if first = caller then some (.call arguments) else none
  | _, _ => none

/-- Adds commands of which each needs the one before it to succeed. What is not known does nothing,
and neither does what needs it. -/
def chain (d : Draft) (guarded : Bool) : List (List Word) → Draft
  | [] => d
  | words :: rest =>
    match plain? words with
    | none => d
    | some p => (d.add (if guarded then .onSuccess p else p)).chain true rest

def command (d : Draft) (words : List Word) : Draft :=
  let words := if words.head? = some (Word.ofText "do") then words.tail else words
  match words.map (Word.text ∅) with
  | "while" :: "read" :: _ => { d with body := some (readName words, []) }
  | ["done"] =>
    match d.body with
    | none => d
    | some (name, body) => { steps := .loop name body :: d.steps, body := none }
  | _ => d.chain false ((words.filter (· ≠ Word.ofText "2>/dev/null")).splitOn (Word.ofText "&&"))

end Draft

def parse (text : String) : List Step :=
  ((Split.ofText text).foldl Draft.command {}).steps.reverse

/-- What comes of a call: whether it succeeds, what it writes, and the directory that it leaves. -/
structure Called where
  succeeded : Bool := false
  written : List UInt8 := []
  directory : Option (String × Directory) := none

/-- A program that can be called, given the most octets that it can fill a file with and the
directories that there are. -/
abbrev Callee := Option Nat → Dict Directory → List String → Called

/-- A program at work: the lines not yet read, the variables, the limit on files, the directories
that have been made, and what it has written. -/
structure State where
  lines : List String
  vars : Dict String := ∅
  room : Option Nat := none
  made : Dict Directory := ∅
  written : String := ""
  succeeded : Bool := true
  stopped : Bool := false

/-- The octets of a block. -/
def block : Nat := 512

def Plain.run (callee : Callee) (p : Plain) (s : State) : State :=
  if s.stopped then s
  else match p with
    | .stop => { s with stopped := true }
    | .write words newline =>
      let text := " ".intercalate (words.map (Word.text s.vars))
      { s with
        written := s.written ++ text ++ if newline then "\n" else ""
        succeeded := true }
    | .read name =>
      match s.lines with
      | [] => { s with succeeded := false }
      | line :: rest =>
        { s with lines := rest, vars := s.vars.insert name (Text.trim line), succeeded := true }
    | .limit blocks => { s with room := some (blocks * block), succeeded := true }
    | .call arguments =>
      let called := callee s.room s.made (arguments.map (Word.text s.vars))
      { s with
        made := called.directory.elim s.made fun (path, dir) => s.made.insert path dir
        written := s.written ++ Utf8.lossy called.written
        succeeded := called.succeeded }
    | .remove directory =>
      let path := directory.text s.vars
      if (s.made.find? path).any (·.isEmpty) then
        { s with made := s.made.erase path, succeeded := true }
      else { s with succeeded := false }
    | .onSuccess p => if s.succeeded then p.run callee s else s

variable (callee : Callee)

/-- Runs a body for each line, at most as often as given. -/
def repeatBody (name : String) (body : List Plain) : Nat → State → State
  | 0, s => s
  | more + 1, s =>
    if s.stopped ∨ s.lines.isEmpty then s
    else
      repeatBody name body more
        (body.foldl (fun s p => p.run callee s) ((Plain.read name).run callee s))

def Step.run (s : State) : Step → State
  | .plain p => p.run callee s
  | .loop name body => repeatBody callee name body s.lines.length s

/-- What a program writes, given the program that has started it and its whole input. -/
def run (program : String) (input : List UInt8) : List UInt8 :=
  let lines := Text.lines (Utf8.lossy input)
  Utf8.encode (((parse program).foldl (Step.run callee) { lines }).written)

end RobotTurn.Script.Shell
