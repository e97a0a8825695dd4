import RobotTurn.Value.Checked

/-! What robot code does in one call. A call leaves events, an outcome and the state that the
next call finds. Nothing that happens in a call depends on anything but its arguments, that
state, and whether the call has a debug handle. -/
namespace RobotTurn

/-- Something a call did that others can see. The last four go through the debug handle. -/
inductive Event where
  | log (line : String)
  | print (text : String)
  | set (key value : String)
  | record (key value : Value)
  | inspect (e : Entity)
  | locate (v : Value)

/-- The failure of a debug operation with an argument of the wrong kind. -/
def Event.breach? : Event → Option Failure
  | record (.text _) _ => none
  | record key _ => some (.violation s!"debug keys must be strings, got {key.kind.name}")
  | locate v =>
    match v.asEntity "debug.locate" with
    | .ok _ => none
    | .error f => some f
  | _ => none

/-- How a call ended. A panic may carry no message; an abandoned call never came back. -/
inductive Outcome (α : Type) where
  | returned (a : α)
  | failed (f : Failure)
  | panicked (message : Option String)
  | abandoned

structure Run (σ α : Type) where
  events : List Event := []
  outcome : Outcome α
  state : σ

/-- Robot code: told whether it has a debug handle, and the state that it finds. -/
def Act (σ α : Type) := Bool → σ → Run σ α

namespace Act

variable {σ α β : Type}

def pure (a : α) : Act σ α := fun _ s => { outcome := .returned a, state := s }

/-- Runs the second part only if the first returns. -/
def bind (x : Act σ α) (f : α → Act σ β) : Act σ β := fun debug s =>
  let r := x debug s
  match r.outcome with
  | .returned a =>
    let r' := f a debug r.state
    { r' with events := r.events ++ r'.events }
  | .failed e => { r with outcome := .failed e }
  | .panicked message => { r with outcome := .panicked message }
  | .abandoned => { r with outcome := .abandoned }

instance : Monad (Act σ) where
  pure := pure
  bind := bind

def fail (f : Failure) : Act σ α := fun _ s => { outcome := .failed f, state := s }

def panic (message : Option String) : Act σ α := fun _ s =>
  { outcome := .panicked message, state := s }

def abandon : Act σ α := fun _ s => { outcome := .abandoned, state := s }

def ofExcept : Except Failure α → Act σ α
  | .ok a => pure a
  | .error f => fail f

def getState : Act σ σ := fun _ s => { outcome := .returned s, state := s }

def setState (s : σ) : Act σ Unit := fun _ _ => { outcome := .returned (), state := s }

/-- Leaves an event; one that breaches the rules of the debug handle fails as well. -/
def emit (e : Event) : Act σ Unit := fun _ s =>
  { events := [e]
    outcome := match e.breach? with
      | none => .returned ()
      | some f => .failed f
    state := s }

def log (line : String) : Act σ Unit := emit (.log line)

/-- Several values on one line. -/
def logValues (vs : List Value) : Act σ Unit :=
  log (" ".intercalate (vs.map Value.shown))

def print (text : String) : Act σ Unit := emit (.print text)

/-- Asks for the debug handle, which only a call with a debug parameter has. -/
def debug : Act σ Unit := fun debug s =>
  { outcome :=
      if debug then .returned ()
      else .failed (.violation
        "debug is only available to a turn that takes a debug parameter")
    state := s }

/-- The failure of a part, if it fails, in place of failing. -/
def attempt (x : Act σ α) : Act σ (Except Failure α) := fun debug s =>
  let r := x debug s
  { r with outcome := match r.outcome with
      | .returned a => .returned (.ok a)
      | .failed f => .returned (.error f)
      | .panicked message => .panicked message
      | .abandoned => .abandoned }

end Act
end RobotTurn
