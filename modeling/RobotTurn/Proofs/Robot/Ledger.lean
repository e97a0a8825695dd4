import RobotTurn.Proofs.Dict
import RobotTurn.Robot.Ledger
import Mathlib.Data.List.Induction

/-! What the events of a call leave behind, one kind at a time (`ofEvents_eq`). -/
namespace RobotTurn

namespace Event

/-- The line that an event logs. -/
def line? : Event → Option String
  | log line => some line
  | _ => none

/-- The text that an event prints. -/
def text? : Event → Option String
  | print text => some text
  | _ => none

/-- What an event enters in the debug table. -/
def entry? : Event → Option (String × String)
  | set key value => some (key, value)
  | record (.text key) value => some (key, value.shown)
  | _ => none

/-- The id that an event points at. -/
def inspected? : Event → Option String
  | inspect e => some e.id
  | locate (.entity e) => some e.id
  | _ => none

end Event

namespace Ledger

theorem ofEvents_append_singleton (debug : Bool) (es : List Event) (e : Event) :
    ofEvents debug (es ++ [e]) = enter debug (ofEvents debug es) e := by
  rw [ofEvents, List.foldl_append]
  rfl

/-- Lines and texts count in every call, the rest only in a call with a debug handle. -/
theorem ofEvents_eq (debug : Bool) (events : List Event) :
    ofEvents debug events = {
      logs := events.filterMap Event.line?
      printed := String.join (events.filterMap Event.text?)
      table := if debug then Dict.ofList (events.filterMap Event.entry?) else ∅
      inspections := if debug then events.filterMap Event.inspected? else []
      breach := if debug then events.findSome? Event.breach? else none } := by
  induction events using List.reverseRecOn with
  | nil => cases debug <;> rfl
  | append_singleton es e ih =>
    rw [ofEvents_append_singleton, ih]
    cases e with
    | record key value =>
      cases key <;> cases debug <;>
        simp [enter, Event.line?, Event.text?, Event.entry?, Event.inspected?, Event.breach?,
          List.filterMap_cons, Dict.ofList_append_singleton]
    | locate v =>
      cases v <;> cases debug <;>
        simp [enter, Event.line?, Event.text?, Event.entry?, Event.inspected?, Event.breach?,
          List.filterMap_cons, Value.asEntity]
    | _ =>
      cases debug <;>
        simp [enter, Event.line?, Event.text?, Event.entry?, Event.inspected?, Event.breach?,
          List.filterMap_cons, Dict.ofList_append_singleton, String.join_append]

end Ledger
end RobotTurn
