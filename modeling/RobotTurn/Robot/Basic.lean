import RobotTurn.Robot.Act

/-! Robots: the entry points that a program defines, and the factories that build programs
from what they are given at the start. -/
namespace RobotTurn

/-- A callable of a program. `line` is where it is defined; failures without a line of their
own point there. -/
structure EntryPoint (σ : Type) where
  params : Nat
  line : Option UInt64 := none
  body : List Value → Act σ Value

namespace EntryPoint

variable {σ : Type}

def turnName : String := "turn"
def initName : String := "init"

def argument (args : List Value) (n : Nat) : Value :=
  args[n]?.getD .null

/-- The turn of a unit as `turn(state, unit)`; no action is null. -/
def turn (body : Board → Entity → Act σ (Option Action)) : EntryPoint σ where
  params := 2
  body args := do
    let board ← .ofExcept ((argument args 0).asBoard turnName)
    let unit ← .ofExcept ((argument args 1).asEntity turnName)
    return .ofOption .action (← body board unit)

/-- The turn of a unit as `turn(state, unit, debug)`. -/
def turnWithDebug (body : Board → Entity → Act σ (Option Action)) : EntryPoint σ :=
  { turn body with params := 3 }

/-- The start of a session as `init(state)`. -/
def init (body : Board → Act σ Unit) : EntryPoint σ where
  params := 1
  body args := do
    body (← .ofExcept ((argument args 0).asBoard initName))
    return .null

end EntryPoint

/-- A program and the state that its calls share. -/
structure Robot (σ : Type) where
  source : String
  entries : Dict (EntryPoint σ) := ∅
  state : σ

namespace Robot

variable {σ : Type}

/-- The file name of programs that give none. -/
def defaultSource : String := "<robot>"

/-- A program without entry points. -/
def blank (state : σ) : Robot σ := { source := defaultSource, state }

/-- Defines an entry point, over an earlier one of the same name. -/
def define (r : Robot σ) (name : String) (e : EntryPoint σ) : Robot σ :=
  { r with entries := r.entries.insert name e }

def entry? (r : Robot σ) (name : String) : Option (EntryPoint σ) :=
  r.entries.find? name

end Robot

/-- Builds a robot from its payload. -/
abbrev Factory (σ : Type) := List UInt8 → Except Failure (Robot σ)

end RobotTurn
