import RobotTurn.Command.Help

/-! What a command line asks for. Arguments are read from left to right, and the first that is
wrong or asks for help decides. -/
namespace RobotTurn.Command

-- Powers of numbers are the core library's, as for `Double`.
attribute [instance (high), default_instance high] instPowNat

structure Options where
  payload : Option String := none
  cache : Option String := none
  maxMemory : Option Nat := none
  turnTimeout : Option Nat := none
  deriving DecidableEq, Repr

/-- What a command line asks for. -/
inductive Request where
  | sandbox (guest states : String) (options : Options)
  | process (states program : String) (arguments : List String)
  | help (topic : Topic)
  | version
  deriving DecidableEq, Repr

/-- The files that a request reads, or that its program may read. -/
def Request.files : Request → List String
  | .sandbox guest states o => guest :: states :: o.payload.toList
  | .process states _ arguments => states :: arguments.take 1
  | _ => []

/-- The directory that a request keeps guests in. -/
def Request.cache? : Request → Option String
  | .sandbox _ _ o => o.cache
  | _ => none

/-- Whether an argument is an option and not a value. A single dash is a value. -/
def isOption (arg : String) : Bool :=
  arg.startsWith "-" && arg != "-"

/-- Whether an argument asks for help. Of short options written together the first counts. -/
def asksHelp (arg : String) : Bool :=
  arg == "--help" || arg.startsWith "-h"

/-- Whether an argument asks for the version. -/
def asksVersion (arg : String) : Bool :=
  arg == "--version" || arg.startsWith "-V"

/-- A word of 64 bits, with or without a plus sign. -/
def word? (s : String) : Option Nat := do
  let digits := match s.toList with
    | '+' :: cs => cs
    | cs => cs
  if digits.isEmpty || !digits.all Char.isDigit then none
  else
    let n := digits.foldl (fun n c => n * 10 + (c.toNat - '0'.toNat)) 0
    if n < 2 ^ 64 then some n else none

/-- A path is not empty. -/
def path? (s : String) : Option String :=
  if s.isEmpty then none else some s

/-- Sets an option, which has to be known and not yet set. -/
def Options.set (o : Options) (name value : String) : Option Options :=
  match name with
  | "--payload" => do
    guard o.payload.isNone
    return { o with payload := ← path? value }
  | "--cache" => do
    guard o.cache.isNone
    return { o with cache := ← path? value }
  | "--max-memory" => do
    guard o.maxMemory.isNone
    return { o with maxMemory := ← word? value }
  | "--turn-timeout" => do
    guard o.turnTimeout.isNone
    return { o with turnTimeout := ← word? value }
  | _ => none

/-- Splits an option that carries its value. -/
def splitOption (arg : String) : String × Option String :=
  match arg.toList.span (· != '=') with
  | (name, _ :: value) => (String.ofList name, some (String.ofList value))
  | (name, []) => (String.ofList name, none)

/-- Reads a game in a sandbox: two paths, and options between them. After a double dash all
arguments are paths. -/
def readSandbox (paths : List String) (o : Options) : List String → Option Request
  | [] =>
    match paths with
    | [guest, states] => some (.sandbox guest states o)
    | _ => none
  | "--" :: rest => do
    match paths ++ (← rest.mapM path?) with
    | [guest, states] => return .sandbox guest states o
    | _ => none
  | arg :: rest =>
    if !isOption arg then do
      guard (paths.length < 2)
      readSandbox (paths ++ [← path? arg]) o rest
    else if asksHelp arg then some (.help .sandbox)
    else
      match splitOption arg, rest with
      | (name, some value), rest => do readSandbox paths (← o.set name value) rest
      | (name, none), value :: rest =>
        if isOption value then none else do readSandbox paths (← o.set name value) rest
      | (_, none), [] => none

/-- Reads a game with a program: a path, and behind a double dash the program. -/
def readProcess (path : Option String) : List String → Option Request
  | [] => none
  | "--" :: rest =>
    match path, rest with
    | some states, program :: arguments => some (.process states program arguments)
    | _, _ => none
  | arg :: rest =>
    if !isOption arg then do
      guard path.isNone
      readProcess (some (← path? arg)) rest
    else if asksHelp arg then some (.help .process)
    else none

/-- Reads a command line; nothing if it is not of the right form. -/
def parse : List String → Option Request
  | "wasm" :: args => readSandbox [] {} args
  | "process" :: args => readProcess none args
  | ["help"] => some (.help .everything)
  | ["help", "wasm"] => some (.help .sandbox)
  | ["help", "process"] => some (.help .process)
  | ["help", "help"] => some (.help .help)
  | arg :: _ =>
    if asksHelp arg then some (.help .everything)
    else if asksVersion arg then some .version
    else none
  | [] => none

end RobotTurn.Command
