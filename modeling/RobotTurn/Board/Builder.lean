import RobotTurn.Board.Basic

/-! Boards put together entity by entity. -/
namespace RobotTurn.Board

/-- The entities to place, in order, on a square grid. -/
structure Builder where
  team : Team
  turn : UInt64 := 1
  size : Nat := 19
  entities : List Entity := []
  deriving DecidableEq

namespace Builder

def add (b : Builder) (e : Entity) : Builder :=
  { b with entities := b.entities ++ [e] }

/-- What a builder can be told. -/
inductive Call where
  | turn (n : UInt64)
  | size (n : Nat)
  | unit (id : String) (point : Point) (team : Team) (health : UInt32)
  | terrain (id : String) (point : Point)

def perform (b : Builder) : Call → Builder
  | .turn n => { b with turn := n }
  | .size n => { b with size := n }
  | .unit id point team health => b.add ⟨id, point, .unit team health⟩
  | .terrain id point => b.add ⟨id, point, .terrain⟩

/-- The builder for a team that has been told some things, one after the other. -/
def after (team : Team) (calls : List Call) : Builder :=
  calls.foldl perform { team }

/-- Puts an id into its cell. Off the grid nothing changes. -/
def mark (grid : List Row) (e : Entity) : List Row :=
  if e.point.x < 0 ∨ e.point.y < 0 then grid
  else grid.modify e.point.y.toInt.toNat fun row => row.set e.point.x.toInt.toNat (some e.id)

/-- Each unit joins the roster of its team, each entity takes its cell from an earlier one,
and a later entity replaces an earlier one of the same id. -/
def build (b : Builder) : Board :=
  let ids (t : Team) := (b.entities.filter (·.team? = some t)).map (·.id)
  { turn := b.turn
    team := b.team
    red := ids .red
    blue := ids .blue
    entities := .ofList (b.entities.map fun e => (e.id, e))
    grid := b.entities.foldl mark (.replicate b.size (.replicate b.size none)) }

end Builder
end RobotTurn.Board
