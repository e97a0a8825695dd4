import RobotTurn.Dict
import RobotTurn.Geometry
import RobotTurn.Team

/-! The world as a robot sees it in one turn: who is where, and whose units move. A board
read from outside is `Consistent`, so none of its rosters and cells names a stranger. -/
namespace RobotTurn

inductive Entity.Role where
  | unit (team : Team) (health : UInt32)
  | terrain
  deriving DecidableEq, Repr, Inhabited

structure Entity where
  id : String
  point : Point
  role : Entity.Role
  deriving DecidableEq, Repr, Inhabited

namespace Entity

/-- Whether an entity is a unit. -/
inductive Kind where
  | unit | terrain
  deriving DecidableEq, Repr, Inhabited

def Kind.all : List Kind := [unit, terrain]

def Kind.name : Kind → String
  | unit => "Unit"
  | terrain => "Terrain"

def kind (e : Entity) : Kind :=
  match e.role with
  | .unit .. => .unit
  | .terrain => .terrain

def team? (e : Entity) : Option Team :=
  match e.role with
  | .unit team _ => some team
  | .terrain => none

def health? (e : Entity) : Option UInt32 :=
  match e.role with
  | .unit _ health => some health
  | .terrain => none

def text (e : Entity) : String :=
  match e.role with
  | .unit team health => s!"<Unit {e.id} {e.point.text} team={team.name} health={health}>"
  | .terrain => s!"<Terrain {e.id} {e.point.text}>"

end Entity

/-- A row of the grid: the id in each cell, west to east. -/
abbrev Row := List (Option String)

/-- `entities` is keyed by id, and `grid` holds the rows from north to south. -/
structure Board where
  turn : UInt64
  team : Team
  red : List String
  blue : List String
  entities : Dict Entity
  grid : List Row
  deriving DecidableEq, Inhabited

/-- What keeps a document from being a board. -/
inductive BoardError where
  | unitWithout (id field : String)
  | terrainWith (id field : String)
  | misfiled (key id : String)
  | unknownRostered (team : Team) (id : String)
  | strangerRostered (team : Team) (id : String)
  | unknownPlaced (x y : Nat) (id : String)
  deriving DecidableEq, Repr

def BoardError.message : BoardError → String
  | unitWithout id field => s!"unit {id} is missing its {field}"
  | terrainWith id field => s!"terrain {id} must not carry a {field}"
  | misfiled key id => s!"object keyed as {key} has id {id}"
  | unknownRostered team id => s!"{team.name} roster lists {id}, which is not a known object"
  | strangerRostered team id =>
    s!"{team.name} roster lists {id}, which is not a unit of that team"
  | unknownPlaced x y id => s!"grid cell ({x}, {y}) refers to unknown object {id}"

namespace Board

/-- The ids of a team in the order in which they move. -/
def roster (b : Board) : Team → List String
  | .red => b.red
  | .blue => b.blue

def entity? (b : Board) (id : String) : Option Entity :=
  b.entities.find? id

/-- The entities on a team's roster, once for each time they are listed. -/
def entitiesOf (b : Board) (t : Team) : List Entity :=
  (b.roster t).filterMap b.entity?

/-- The id in the cell at a point; beyond the grid every cell is empty. -/
def idAt? (b : Board) (p : Point) : Option String :=
  if p.x < 0 ∨ p.y < 0 then none
  else do
    let row ← b.grid[p.y.toInt.toNat]?
    (← row[p.x.toInt.toNat]?)

def entityAt? (b : Board) (p : Point) : Option Entity :=
  (b.idAt? p).bind b.entity?

def otherTeam (b : Board) : Team := b.team.opposite

/-- Every entity is filed under its id, every rostered id names a unit of that team, and
every cell is empty or names an entity. -/
structure Consistent (b : Board) : Prop where
  filed : ∀ e ∈ b.entities.entries, e.1 = e.2.id
  rostered : ∀ t, ∀ id ∈ b.roster t, ∃ e, b.entity? id = some e ∧ e.team? = some t
  placed : ∀ row ∈ b.grid, ∀ id, some id ∈ row → (b.entity? id).isSome

def filingError? (b : Board) : Option BoardError :=
  b.entities.entries.findSome? fun (key, e) =>
    if key = e.id then none else some (.misfiled key e.id)

def rosterError? (b : Board) (t : Team) : Option BoardError :=
  (b.roster t).findSome? fun id =>
    match b.entity? id with
    | none => some (.unknownRostered t id)
    | some e => if e.team? = some t then none else some (.strangerRostered t id)

def cellError? (b : Board) (x y : Nat) : Option String → Option BoardError
  | none => none
  | some id => if (b.entity? id).isSome then none else some (.unknownPlaced x y id)

def gridError? (b : Board) : Option BoardError :=
  b.grid.zipIdx.findSome? fun (row, y) =>
    row.zipIdx.findSome? fun (cell, x) => b.cellError? x y cell

/-- The first inconsistency, in the order filing, red roster, blue roster, grid. -/
def error? (b : Board) : Option BoardError :=
  b.filingError? <|> b.rosterError? .red <|> b.rosterError? .blue <|> b.gridError?

end Board
end RobotTurn
