/-! A system's files, and what it says when a path does not lead to one of them. A place is the
list of names that lead to it from the top. -/
namespace RobotTurn.Script

/-- Why a path cannot be read. -/
inductive PathError where
  | missing
  | notDirectory
  | isDirectory
  | nameTooLong
  deriving DecidableEq, Repr

def PathError.message : PathError → String
  | missing => "No such file or directory (os error 2)"
  | notDirectory => "Not a directory (os error 20)"
  | isDirectory => "Is a directory (os error 21)"
  | nameTooLong => "File name too long (os error 36)"

abbrev Place := List String

/-- Files and directories by place. Paths start at `home`, unless they start at the top. -/
structure Files where
  files : List (Place × List UInt8)
  directories : List Place := []
  home : Place := []

namespace Files

/-- The file that stands for a program's own input. -/
def inputPath : String := "/dev/stdin"

/-- A system in whose home the given files lie. -/
def ofHome (files : List (String × List UInt8)) (input : List UInt8) : Files :=
  let home := ["tmp", "home"]
  { files := (["dev", "null"], []) :: (["dev", "stdin"], input) ::
      files.map fun (name, bs) => (home ++ name.splitOn "/", bs)
    directories := [home, ["bin"], ["etc"], ["usr", "bin"]]
    home }

def content? (t : Files) (place : Place) : Option (List UInt8) :=
  t.files.lookup place

def isFile (t : Files) (place : Place) : Bool :=
  (t.content? place).isSome

/-- Whether a place is above a file or a directory, or is a directory. -/
def isDirectory (t : Files) (place : Place) : Bool :=
  !t.isFile place &&
    (t.directories.any (place.isPrefixOf ·) || t.files.any (place.isPrefixOf ·.1))

/-- The most octets of a name. -/
def longestName : Nat := 255

/-- The most octets of a path. -/
def longestPath : Nat := 4095

/-- Where a path starts, and the names that it goes through. -/
def route (t : Files) (path : String) : Place × List String :=
  (if path.startsWith "/" then [] else t.home, path.splitOn "/")

/-- Follows names from a place. Every name but the last has to lead to a directory; behind a
file not even an empty name can follow. -/
def follow (t : Files) (place : Place) : List String → Except PathError Place
  | [] => .ok place
  | name :: rest =>
    if t.isFile place then .error .notDirectory
    else if name = "" ∨ name = "." then t.follow place rest
    else if name = ".." then t.follow place.dropLast rest
    else if longestName < name.utf8ByteSize then .error .nameTooLong
    else
      let next := place ++ [name]
      if t.isFile next || t.isDirectory next then t.follow next rest else .error .missing

/-- The content of the file that a path leads to. -/
def read (t : Files) (path : String) : Except PathError (List UInt8) := do
  if path.isEmpty then throw .missing
  if longestPath < path.utf8ByteSize then throw .nameTooLong
  let (place, names) := t.route path
  match t.content? (← t.follow place names) with
  | some bs => return bs
  | none => throw .isDirectory

/-- Whether directories can be made for all names from a place on: no file is in the way. -/
def canMake (t : Files) (place : Place) : List String → Bool
  | [] => !t.isFile place
  | name :: rest =>
    if t.isFile place then false
    else if name = "" ∨ name = "." then t.canMake place rest
    else if name = ".." then t.canMake place.dropLast rest
    else name.utf8ByteSize ≤ longestName && t.canMake (place ++ [name]) rest

/-- Whether a path is a directory or can be made one. -/
def canHold (t : Files) (path : String) : Bool :=
  let (place, names) := t.route path
  path.utf8ByteSize ≤ longestPath && t.canMake place names

end Files
end RobotTurn.Script
