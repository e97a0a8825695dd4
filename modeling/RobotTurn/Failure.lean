import RobotTurn.Value.Basic

/-! How robot code fails, and the report of a failure that reaches the other side. A line
once attached to a failure stays; the frames of a runtime failure are kept in order. -/
namespace RobotTurn

structure Frame where
  file : String
  line : UInt64
  function : Option String
  deriving DecidableEq, Repr, Inhabited

namespace Frame

def text (f : Frame) : String :=
  let called := match f.function with
    | none => ""
    | some name => s!", in {name}"
  s!"\n  File \"{f.file}\", line {f.line}{called}"

end Frame

/-- A line and a column, if it is known; lines count from one. -/
abbrev Mark := UInt64 × Option UInt64

structure Span where
  start : Mark
  stop : Option Mark
  deriving DecidableEq, Repr, Inhabited

def Span.ofLine (line : UInt64) : Span := ⟨(line, none), none⟩

/-- A failure as it is told to the other side. -/
structure Report where
  span : Option Span
  summary : String
  details : Option String
  deriving DecidableEq, Repr, Inhabited

inductive Failure.Cause where
  | mismatch (context expected : String) (found : Value.Kind)
  | violation (message : String)
  | runtime (message : String) (trace : List Frame)
  deriving DecidableEq, Repr

structure Failure where
  cause : Failure.Cause
  line : Option UInt64 := none
  deriving DecidableEq, Repr

namespace Failure

/-- An argument of the wrong kind. -/
def mismatch (context expected : String) (found : Value.Kind) : Failure :=
  { cause := .mismatch context expected found }

/-- A breach of the rules between robot and host. -/
def violation (message : String) : Failure :=
  { cause := .violation message }

def runtime (message : String) : Failure :=
  { cause := .runtime message [] }

/-- Attaches a line unless one is attached already. -/
def located (f : Failure) (line : Option UInt64) : Failure :=
  { f with line := f.line <|> line }

/-- Adds a frame to the trace. Only runtime failures have one. -/
def framed (f : Failure) (frame : Frame) : Failure :=
  match f.cause with
  | .runtime message trace => { f with cause := .runtime message (trace ++ [frame]) }
  | _ => f

def trace (f : Failure) : List Frame :=
  match f.cause with
  | .runtime _ trace => trace
  | _ => []

def summary (f : Failure) : String :=
  match f.cause with
  | .mismatch context expected found =>
    s!"TypeMismatch: {context} argument must be {expected}, got {found.name}"
  | .violation message => s!"ContractViolation: {message}"
  | .runtime message _ => s!"RuntimeError: {message}"

/-- The line to point at in a program whose own file is `source`: the attached one, else
that of the first frame in the file. -/
def lineIn (f : Failure) (source : String) : Option UInt64 :=
  f.line <|> (f.trace.find? (·.file = source)).map (·.line)

def details (f : Failure) : Option String :=
  if f.trace.isEmpty then none
  else some ("Traceback (most recent call last):" ++ String.join (f.trace.map (·.text)) ++
    "\n" ++ f.summary)

def report (f : Failure) (source : String) : Report :=
  { span := (f.lineIn source).map .ofLine
    summary := f.summary
    details := f.details }

@[simp] theorem located_none (f : Failure) : f.located none = f := by
  simp [located]

theorem located_of_line (f : Failure) (line : Option UInt64) {n : UInt64}
    (h : f.line = some n) : f.located line = f := by
  simp [located, h]
  rw [← h]

@[simp] theorem summary_located (f : Failure) (line : Option UInt64) :
    (f.located line).summary = f.summary := rfl

end Failure
end RobotTurn
