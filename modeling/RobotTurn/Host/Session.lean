import RobotTurn.Reply

/-! The host's end of a session: one start, then turns if it went well. The link to the robot
differs from host to host and is reached through an effect of the host's own. -/
namespace RobotTurn.Host

/-- A failure on the host's side. What the robot does wrong is part of its reply. -/
inductive HostError where
  | engine (detail : String)
  | io (message : String)
  | missingExport (name : String)
  | notInitialized
  | alreadyInitialized
  | faulted
  deriving DecidableEq, Repr

def HostError.message : HostError → String
  | engine detail => s!"wasm error: {detail}"
  | io message => message
  | missingExport name => s!"guest does not export `{name}`"
  | notInitialized => "session has not been initialized"
  | alreadyInitialized => "session is already initialized"
  | faulted => "session faulted during init"

/-- A reply, and what the robot wrote beside it. -/
structure Answer (α : Type) where
  reply : Except SessionError α
  diagnostics : String := ""

inductive Phase where
  | fresh
  | ready
  | faulted
  deriving DecidableEq, Repr

/-- The phase after the start. -/
def Phase.after {α : Type} : Except SessionError α → Phase
  | .ok _ => ready
  | .error _ => faulted

/-- A session over a link to a robot. -/
structure Session (α : Type) where
  phase : Phase := .fresh
  link : α

namespace Session

variable {m : Type → Type} [Monad m] {α : Type}

/-- Starts the robot. Only a fresh session does; any other is left as it is. -/
def init (s : Session α) (start : α → m (Answer Unit × α)) :
    m (Except HostError (Answer Unit) × Session α) :=
  match s.phase with
  | .fresh => do
    let (answer, link) ← start s.link
    return (.ok answer, { phase := .after answer.reply, link })
  | _ => return (.error .alreadyInitialized, s)

/-- Plays a turn. Whatever comes of it, the session stays ready. -/
def turn (s : Session α) (play : α → m (Answer TurnReport × α)) :
    m (Except HostError (Answer TurnReport) × Session α) :=
  match s.phase with
  | .fresh => return (.error .notInitialized, s)
  | .faulted => return (.error .faulted, s)
  | .ready => do
    let (answer, link) ← play s.link
    return (.ok answer, { s with link })

end Session
end RobotTurn.Host
