import RobotTurn.Reply
import RobotTurn.Robot.Ledger
import RobotTurn.Wire.Reply

/-! The session of one robot. It is idle until a robot is put in, ready once the robot's entry
points have been checked, and failed for good after a failure to start. The robot's own
`init` needs a board, so it runs in the first turn. -/
namespace RobotTurn

/-- `initDue` stands until the robot's `init`, if it has one, has returned. -/
inductive Runner (σ : Type) where
  | idle
  | ready (robot : Robot σ) (initDue : Bool)
  | failed (e : SessionError)

/-- One call of an entry point. -/
structure Call where
  entry : String
  arguments : List Value

/-- What a step of a session came to: the calls made, the text printed by them and the
session afterwards. There is no answer if a call was abandoned. -/
structure Step (σ α : Type) where
  answer : Option α
  calls : List Call := []
  printed : String := ""
  runner : Runner σ

namespace Robot

variable {σ : Type}

/-- What keeps a robot from playing. -/
def fault? (r : Robot σ) : Option Failure :=
  match r.entry? EntryPoint.turnName with
  | none => some (.violation "the program must define a `turn` function")
  | some turn =>
    if ¬ (2 ≤ turn.params ∧ turn.params ≤ 3) then
      some ((Failure.violation <| "`turn` must take (state, unit) or (state, unit, debug), " ++
        s!"but it takes {turn.params} parameters").located turn.line)
    else match r.entry? EntryPoint.initName with
      | none => none
      | some init =>
        if init.params = 1 then none
        else some ((Failure.violation
          s!"`init` must take (state), but it takes {init.params} parameters").located init.line)

end Robot

namespace Runner

variable {σ : Type}

/-- A turn under way. Once a call has been abandoned nothing more happens in it. -/
structure Progress (σ : Type) where
  state : σ
  report : TurnReport := {}
  calls : List Call := []
  printed : String := ""
  abandoned : Bool := false

namespace Progress

/-- Calls an entry point. Its lines and inspections count whatever becomes of it. -/
def call (p : Progress σ) (name : String) (e : EntryPoint σ) (debug : Bool)
    (arguments : List Value) : Progress σ × Ledger × Option (Except Failure Value) :=
  let run := e.body arguments debug p.state
  let ledger := Ledger.ofEvents debug run.events
  let result := EntryPoint.settle e.line run.outcome
  ({ state := run.state
     report := { p.report with
       logs := p.report.logs ++ ledger.logs
       inspections := p.report.inspections ++ ledger.inspections }
     calls := p.calls ++ [⟨name, arguments⟩]
     printed := p.printed ++ ledger.printed
     abandoned := result.isNone }, ledger, result)

/-- Enters the outcome of a unit. A table without entries is left out. -/
def enter (p : Progress σ) (id : String) (reply : ActionReply) (table : Dict String) :
    Progress σ :=
  { p with report := { p.report with
      actions := p.report.actions.insert id reply
      tables := if table.isEmpty then p.report.tables else p.report.tables.insert id table } }

/-- The turn of one unit. -/
def visit (source : String) (turn : EntryPoint σ) (b : Board) (p : Progress σ) (id : String) :
    Progress σ :=
  if p.abandoned then p
  else match b.entity? id with
    | none => p
    | some unit =>
      let (p, ledger, result) :=
        p.call EntryPoint.turnName turn (turn.params = 3) [.board b, .entity unit]
      match result with
      | none => p
      | some result =>
        let verdict := EntryPoint.verdict turn.line ledger.breach result
        p.enter id (verdict.mapError (·.report source)) ledger.table

/-- The turns of all units on a roster, each after the one before. -/
def visitAll (source : String) (turn : EntryPoint σ) (b : Board) (p : Progress σ)
    (ids : List String) : Progress σ :=
  ids.foldl (visit source turn b) p

/-- Ends a turn with an answer, unless it was abandoned. -/
def finish (p : Progress σ) (robot : Robot σ) (initDue : Bool) : Step σ TurnReply where
  answer := if p.abandoned then none else some (.ok p.report)
  calls := p.calls
  printed := p.printed
  runner := .ready { robot with state := p.state } initDue

end Progress

/-- The turn of a robot whose `init` is done. -/
def play (robot : Robot σ) (b : Board) (p : Progress σ) : Step σ TurnReply :=
  match robot.entry? EntryPoint.turnName with
  | none =>
    { answer := some (.error .internal), calls := p.calls, printed := p.printed
      runner := .ready { robot with state := p.state } false }
  | some turn => (p.visitAll robot.source turn b (b.roster b.team)).finish robot false

/-- The first turn of a robot. An abandoned `init` is still due, a failed one ends the
session. -/
def start (robot : Robot σ) (b : Board) : Step σ TurnReply :=
  match robot.entry? EntryPoint.initName with
  | none => play robot b { state := robot.state }
  | some init =>
    let (p, _, result) :=
      Progress.call { state := robot.state } EntryPoint.initName init false [.board b]
    match result with
    | none => p.finish robot true
    | some (.error f) =>
      let e := SessionError.initFailed (f.report robot.source)
      { answer := some (.error e), calls := p.calls, printed := p.printed, runner := .failed e }
    | some (.ok _) => play robot b p

/-- Runs one turn. -/
def turn (r : Runner σ) (b : Board) : Step σ TurnReply :=
  match r with
  | idle => { answer := some (.error .noInit), runner := r }
  | failed e => { answer := some (.error e), runner := r }
  | ready robot true => start robot b
  | ready robot false => play robot b { state := robot.state }

def isReady : Runner σ → Bool
  | ready .. => true
  | _ => false

/-- Whether a turn may run at all. -/
def check : Runner σ → InitReply
  | idle => .error .noInit
  | failed e => .error e
  | ready .. => .ok ()

/-- Fails the session, whatever it was. -/
def fault (_ : Runner σ) (e : SessionError) : InitReply × Runner σ :=
  (.error e, .failed e)

/-- Puts a robot in. Only an idle session takes one. -/
def init (r : Runner σ) (robot : Robot σ) : InitReply × Runner σ :=
  match r with
  | idle =>
    match robot.fault? with
    | none => (.ok (), .ready robot true)
    | some f => r.fault (.initFailed (f.report robot.source))
  | _ => (.error .internal, r)

/-- Puts in the robot that a payload describes. -/
def load (factory : Factory σ) (payload : List UInt8) (r : Runner σ) : InitReply × Runner σ :=
  match factory payload with
  | .ok robot => r.init robot
  | .error f => r.fault (.initFailed (f.report Robot.defaultSource))

/-- Reads a board and runs its turn. The session's own error comes before that of the
document. -/
def turnFrom (r : Runner σ) (input : List UInt8) : Step σ TurnReply :=
  match r.check with
  | .error e => { answer := some (.error e), runner := r }
  | .ok _ =>
    match Json.decode Board input with
    | .error e => { answer := some (.error (.badData e.message)), runner := r }
    | .ok b => r.turn b

end Runner
end RobotTurn
