import RobotTurn.Robot.Basic

/-! What one call of an entry point comes to: its lines, its debug table and the verdict on
it. A breach of the debug handle's rules decides the unit, however the call ended. -/
namespace RobotTurn

/-- The events of one call, sorted by where they go. -/
structure Ledger where
  logs : List String := []
  printed : String := ""
  table : Dict String := ∅
  inspections : List String := []
  breach : Option Failure := none

namespace Ledger

/-- Enters an event of a call with or without a debug handle. -/
def enter (debug : Bool) (l : Ledger) (e : Event) : Ledger :=
  match e with
  | .log line => { l with logs := l.logs ++ [line] }
  | .print text => { l with printed := l.printed ++ text }
  | .set key value => if debug then { l with table := l.table.insert key value } else l
  | .inspect e => if debug then { l with inspections := l.inspections ++ [e.id] } else l
  | .record key value =>
    if debug then
      match key with
      | .text key => { l with table := l.table.insert key value.shown }
      | _ => { l with breach := l.breach <|> e.breach? }
    else l
  | .locate v =>
    if debug then
      match v with
      | .entity e => { l with inspections := l.inspections ++ [e.id] }
      | _ => { l with breach := l.breach <|> e.breach? }
    else l

def ofEvents (debug : Bool) (events : List Event) : Ledger :=
  events.foldl (enter debug) {}

end Ledger

namespace EntryPoint

variable {σ : Type}

/-- A finished call, its failure pointing at the entry point unless it has a line. Nothing
is known of an abandoned call. -/
def settle (line : Option UInt64) : Outcome Value → Option (Except Failure Value)
  | .returned v => some (.ok v)
  | .failed f => some (.error (f.located line))
  | .panicked message =>
    some (.error ((Failure.runtime (message.getD "the program panicked")).located line))
  | .abandoned => none

/-- A unit's order: an action, or null for none. -/
def order : Value → Except Failure (Option Action)
  | .action a => .ok (some a)
  | .null => .ok none
  | v => .error (.violation s!"`turn` must return an Action or null, got {v.kind.name}")

/-- The verdict on a unit's call. -/
def verdict (line : Option UInt64) (breach : Option Failure) (result : Except Failure Value) :
    Except Failure (Option Action) :=
  match breach with
  | some f => .error (f.located line)
  | none => result.bind order

end EntryPoint
end RobotTurn
