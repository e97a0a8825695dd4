import RobotTurn.Reply
import RobotTurn.Wire.World

/-! The written forms of replies. -/
namespace RobotTurn

open Json (Wire Reader Record Choice Field DecodeError)

/-- Lines and columns are words of 64 bits. -/
instance : Wire UInt64 where
  toJson n := .int n.toNat
  read := Wire.word64 "usize"

/-- The members of a span read so far. -/
structure Span.Draft where
  start : Option Mark := none
  stop : Option (Option Mark) := none

def Span.record : Record Span.Draft Span where
  name := "ErrorLoc"
  draft := {}
  fields := [
    { name := "start", isSet := (·.start.isSome)
      read := fun d => do return { d with start := some (← Wire.read) } },
    { name := "end", isSet := (·.stop.isSome)
      read := fun d => do return { d with stop := some (← Wire.read) } }]
  finish d := do
    let start ← Record.need "start" d.start
    return { start, stop := d.stop.join }

instance : Wire Span where
  toJson s := .object [("start", Wire.toJson s.start), ("end", Wire.toJson s.stop)]
  read := Span.record.read

/-- The members of a report read so far. -/
structure Report.Draft where
  span : Option (Option Span) := none
  summary : Option String := none
  details : Option (Option String) := none

def Report.record : Record Report.Draft Report where
  name := "ErrorEnvelope"
  draft := {}
  fields := [
    { name := "loc", isSet := (·.span.isSome)
      read := fun d => do return { d with span := some (← Wire.read) } },
    { name := "summary", isSet := (·.summary.isSome)
      read := fun d => do return { d with summary := some (← Wire.read) } },
    { name := "details", isSet := (·.details.isSome)
      read := fun d => do return { d with details := some (← Wire.read) } }]
  finish d := do
    let summary ← Record.need "summary" d.summary
    return { span := d.span.join, summary, details := d.details.join }

instance : Wire Report where
  toJson r := .object [("loc", Wire.toJson r.span), ("summary", Wire.toJson r.summary),
    ("details", Wire.toJson r.details)]
  read := Report.record.read

instance : Wire SessionError where
  toJson
    | .initFailed report => .object [("InitError", Wire.toJson report)]
    | .internal => .text "InternalError"
    | .noData => .text "NoData"
    | .noInit => .text "NoInitError"
    | .badData message => .object [("DataError", Wire.toJson message)]
    | .io message => .object [("IO", Wire.toJson message)]
  read := Choice.read { variants := [
    ("InitError", .holding (.initFailed <$> Wire.read)),
    ("InternalError", .bare .internal),
    ("NoData", .bare .noData),
    ("NoInitError", .bare .noInit),
    ("DataError", .holding (.badData <$> Wire.read)),
    ("IO", .holding (.io <$> Wire.read))] }

/-- The members of a turn report read so far. -/
structure TurnReport.Draft where
  actions : Option (Dict ActionReply) := none
  logs : Option (List String) := none
  tables : Option (Dict (Dict String)) := none
  inspections : Option (List String) := none

def TurnReport.record : Record TurnReport.Draft TurnReport where
  name := "TurnOutput"
  draft := {}
  fields := [
    { name := "robot_actions", isSet := (·.actions.isSome)
      read := fun d => do return { d with actions := some (← Wire.read) } },
    { name := "logs", isSet := (·.logs.isSome), omittable := true
      read := fun d => do return { d with logs := some (← Wire.read) } },
    { name := "debug_tables", isSet := (·.tables.isSome), omittable := true
      read := fun d => do return { d with tables := some (← Wire.read) } },
    { name := "debug_inspections", isSet := (·.inspections.isSome), omittable := true
      read := fun d => do return { d with inspections := some (← Wire.read) } }]
  finish d := do
    let actions ← Record.need "robot_actions" d.actions
    return { actions, logs := d.logs.getD [], tables := d.tables.getD ∅
             inspections := d.inspections.getD [] }

instance : Wire TurnReport where
  toJson r := .object [("robot_actions", Wire.toJson r.actions), ("logs", Wire.toJson r.logs),
    ("debug_tables", Wire.toJson r.tables), ("debug_inspections", Wire.toJson r.inspections)]
  read := TurnReport.record.read

end RobotTurn
