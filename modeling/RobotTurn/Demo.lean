import RobotTurn.Robot.Basic
import RobotTurn.Text.Blank
import RobotTurn.Utf8

/-! Robots to try a host with. The payload names the mode: a hunter, which is also what an
empty payload gives, a patrol, or a fragile hunter that panics for some units. -/
namespace RobotTurn.Demo

/-- Where the units of a patrol are heading. -/
abbrev Headings := Dict Direction

/-- Whether one entity comes before another as a target: fewer steps away, or as many and
first by id. -/
def closer (here : Point) (a b : Entity) : Bool :=
  here.walk a.point < here.walk b.point ||
    (here.walk a.point == here.walk b.point && a.id < b.id)

def nearest? (here : Point) : List Entity → Option Entity
  | [] => none
  | e :: es => some (es.foldl (fun best e => if closer here e best then e else best) e)

/-- The unit's target: the nearest of the other team. -/
def target? (b : Board) (unit : Entity) : Option Entity :=
  nearest? unit.point (b.entitiesOf b.otherTeam)

/-- The first of ahead, right and left whose cell holds nothing. -/
def sidestep? (b : Board) (here : Point) (toward : Direction) : Option Direction :=
  [toward, toward.right, toward.left].find? fun d => (b.entityAt? (here.step d)).isNone

/-- Attacks a target that is one step away and approaches one that is not. -/
def approach (b : Board) (here : Point) (target : Entity) : Option Action :=
  let toward := here.toward target.point
  if here.walk target.point = 1 then some (.attack toward)
  else (sidestep? b here toward).map .move

/-- The turn of a hunter, which notes its target. -/
def hunt {σ : Type} (b : Board) (unit : Entity) : Act σ (Option Action) := do
  match target? b unit with
  | none => return none
  | some target => do
    .debug
    .emit (.set "target" target.id)
    .emit (.inspect target)
    return approach b unit.point target

def hunter : Robot Headings :=
  (Robot.blank ∅)
    |>.define EntryPoint.initName
      (.init fun b => .log s!"hunting for team {b.team.name}")
    |>.define EntryPoint.turnName (.turnWithDebug hunt)

/-- A hunter that panics for units whose ids start with `boom`. -/
def fragile : Robot Headings :=
  (Robot.blank ∅).define EntryPoint.turnName <| .turnWithDebug fun b unit => do
    if unit.id.startsWith "boom" then .panic (some s!"{unit.id} blew up") else hunt b unit

/-- The column where a patrol turns back west. -/
def eastEdge : Int64 := 17

/-- The heading of a unit of a patrol in column `x`, given the one it had. -/
def turnAt (x : Int64) (heading : Direction) : Direction :=
  if eastEdge ≤ x then .west else if x ≤ 0 then .east else heading

/-- A unit that is seen for the first time is heading east. -/
def heading (hs : Headings) (unit : Entity) : Direction :=
  turnAt unit.point.x ((hs.find? unit.id).getD .east)

def patrol : Robot Headings :=
  (Robot.blank ∅).define EntryPoint.turnName <| .turn fun _ unit => do
    let hs ← .getState
    let d := heading hs unit
    .setState (hs.insert unit.id d)
    .print s!"{unit.id} at x={unit.point.x}\n"
    return some (.move d)

/-- The robot of a mode. -/
def robot : Factory Headings := fun payload =>
  match Utf8.decode? payload with
  | none => .error (.runtime "init payload is not UTF-8")
  | some text =>
    let mode := Text.trim text
    if mode = "" ∨ mode = "hunt" then .ok hunter
    else if mode = "patrol" then .ok patrol
    else if mode = "fragile" then .ok fragile
    else .error (.runtime s!"unknown mode `{mode}`")

end RobotTurn.Demo
