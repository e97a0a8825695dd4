import RobotTurn.Robot.Basic
import RobotTurn.Script.Expression

/-! Robots whose entry points are scripts: for each unit and turn a list of statements. -/
namespace RobotTurn.Script

inductive Statement where
  | log (line : String)
  | logValues (es : List Expression)
  | logCalls
  | logArguments
  | set (key : String) (e : Expression)
  | record (key value : Expression) (quiet : Bool)
  | locate (e : Expression) (quiet : Bool)
  | inspect (e : Expression)
  | probeDebug
  | attempt (e : Expression)
  | fail (f : Failure)
  | panic (message : Option String)
  | answer (e : Expression)

/-- How often each entry point has been called. -/
abbrev Counters := Dict Nat

abbrev Scripted := Act Counters

/-- Drops a failure, if that is wanted. -/
def hush (quiet : Bool) (x : Scripted Unit) : Scripted Unit := do
  if quiet then discard x.attempt else x

/-- One statement of the call with the given number. A value ends the call. -/
def Statement.run (count : Nat) (args : List Value) : Statement → Scripted (Option Value)
  | log line => do
    .log line
    return none
  | logValues es => do
    .logValues (← .ofExcept (evaluateAll args es))
    return none
  | logCalls => do
    .log s!"call {count}"
    return none
  | logArguments => do
    .log s!"{args.length} args"
    return none
  | set key e => do
    let v ← .ofExcept (e.evaluate args)
    .debug
    .emit (.set key v.shown)
    return none
  | record key value quiet => do
    .debug
    let k ← .ofExcept (key.evaluate args)
    let v ← .ofExcept (value.evaluate args)
    hush quiet (.emit (.record k v))
    return none
  | locate e quiet => do
    .debug
    let v ← .ofExcept (e.evaluate args)
    hush quiet (.emit (.locate v))
    return none
  | inspect e => do
    match ← .ofExcept (e.evaluate args) with
    | .entity unit => do
      .debug
      .emit (.inspect unit)
      return none
    | _ => return none
  | probeDebug => do
    match ← Act.attempt .debug with
    | .ok _ => .log "debug ok"
    | .error f => .log f.summary
    return none
  | attempt e => do
    match e.evaluate args with
    | .ok v => .log v.shown
    | .error f => .log f.summary
    return none
  | fail f => .fail f
  | panic message => .panic message
  | answer e => some <$> .ofExcept (e.evaluate args)

/-- Runs statements up to the first that gives a value; falling off the end gives null. -/
def runAll (count : Nat) (args : List Value) : List Statement → Scripted Value
  | [] => return .null
  | s :: rest => do
    match ← s.run count args with
    | some v => return v
    | none => runAll count args rest

/-- Statements by key: `<id>@<turn>`, `<id>`, `@<turn>` or `*`. -/
abbrev Plays := List (String × List Statement)

/-- The statements for a call: those of the first key that is there. -/
def choose (plays : Plays) (args : List Value) : List Statement :=
  let id := match argument args 1 with
    | .entity e => e.id
    | _ => ""
  let turn := match argument args 0 with
    | .board b => toString b.turn
    | _ => ""
  ([s!"{id}@{turn}", id, s!"@{turn}", "*"].findSome? fun key => plays.lookup key).getD []

/-- Counts the call and runs its statements. -/
def play (name : String) (plays : Plays) (args : List Value) : Scripted Value := do
  let counters ← .getState
  let count := (counters.find? name).getD 0 + 1
  .setState (counters.insert name count)
  runAll count args (choose plays args)

/-- How an entry point takes its arguments and gives its result. -/
inductive Form where
  | raw (params : Nat)
  | turn
  | turnWithDebug
  | init
  deriving DecidableEq, Repr

structure Entry where
  name : String
  form : Form
  line : Option UInt64 := none
  plays : Plays

/-- A value that is no action counts as none. -/
def actionOf : Value → Option Action
  | .action a => some a
  | _ => none

def Entry.point (e : Entry) : EntryPoint Counters :=
  let turn (b : Board) (unit : Entity) : Scripted (Option Action) :=
    actionOf <$> play e.name e.plays [.board b, .entity unit]
  let point : EntryPoint Counters := match e.form with
    | .raw params => { params, body := play e.name e.plays }
    | .turn => .turn turn
    | .turnWithDebug => .turnWithDebug turn
    | .init => .init fun b => discard (play e.name e.plays [.board b])
  { point with line := e.line }

/-- A robot of scripted entry points. -/
def robot (source : Option String) (entries : List Entry) : Robot Counters :=
  entries.foldl (fun r e => r.define e.name e.point)
    { Robot.blank (∅ : Counters) with source := source.getD Robot.defaultSource }

end RobotTurn.Script
