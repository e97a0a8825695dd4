import RobotTurn.Double.Basic

/-! Points of the arena and the four directions between them. The y axis grows downward, so
north is `(0, -1)`. Sums of points wrap at 64 bits; distances and directions are those of
the exact integers. -/
namespace RobotTurn

structure Point where
  x : Int64
  y : Int64
  deriving DecidableEq, Repr, Inhabited

inductive Direction where
  | north | east | south | west
  deriving DecidableEq, Repr, Inhabited

namespace Direction

/-- Clockwise from north. -/
def all : List Direction := [north, east, south, west]

def name : Direction → String
  | north => "North"
  | east => "East"
  | south => "South"
  | west => "West"

/-- A quarter turn clockwise. -/
def right : Direction → Direction
  | north => east
  | east => south
  | south => west
  | west => north

/-- A quarter turn counter-clockwise. -/
def left : Direction → Direction
  | north => west
  | east => north
  | south => east
  | west => south

def opposite : Direction → Direction
  | north => south
  | east => west
  | south => north
  | west => east

/-- The step of length one. -/
def vector : Direction → Point
  | north => ⟨0, -1⟩
  | east => ⟨1, 0⟩
  | south => ⟨0, 1⟩
  | west => ⟨-1, 0⟩

@[simp] theorem left_right (d : Direction) : d.right.left = d := by cases d <;> rfl
@[simp] theorem right_left (d : Direction) : d.left.right = d := by cases d <;> rfl
@[simp] theorem right_right (d : Direction) : d.right.right = d.opposite := by cases d <;> rfl
@[simp] theorem opposite_opposite (d : Direction) : d.opposite.opposite = d := by
  cases d <;> rfl

end Direction

namespace Point

def text (p : Point) : String :=
  s!"({p.x}, {p.y})"

/-- The sum, each coordinate wrapping. -/
def add (p q : Point) : Point := ⟨p.x + q.x, p.y + q.y⟩

/-- The difference, each coordinate wrapping. -/
def sub (p q : Point) : Point := ⟨p.x - q.x, p.y - q.y⟩

/-- The multiple, each coordinate wrapping. -/
def scale (p : Point) (n : Int64) : Point := ⟨p.x * n, p.y * n⟩

/-- The neighbour one step away; at the edge of the range it wraps. -/
def step (p : Point) (d : Direction) : Point := p.add d.vector

/-- The neighbours in the order of `Direction.all`. -/
def around (p : Point) : List Point := Direction.all.map p.step

/-- The distance between two coordinates. Without a sign a word has room for it. -/
def gap (a b : Int64) : UInt64 :=
  if a < b then b.toUInt64 - a.toUInt64 else a.toUInt64 - b.toUInt64

/-- The sum of two words, or the largest word if it wraps. -/
def cappedSum (m n : UInt64) : UInt64 :=
  if m + n < m then 0xFFFFFFFFFFFFFFFF else m + n

/-- The number of steps between two points, at most `2 ^ 64 - 1`. -/
def walk (p q : Point) : UInt64 := cappedSum (gap p.x q.x) (gap p.y q.y)

/-- The straight distance between two points. -/
def distance (p q : Point) : Double :=
  .diagonal (gap p.x q.x).toNat (gap p.y q.y).toNat

/-- The direction in which `q` lies from `p`: the first of west, south, north and east whose
quarter of the plane, both diagonals included, holds it. A point lies west of itself. -/
def toward (p q : Point) : Direction :=
  let dx := gap p.x q.x
  let dy := gap p.y q.y
  if q.x ≤ p.x ∧ dy ≤ dx then .west
  else if p.y < q.y ∧ dx ≤ dy then .south
  else if q.y < p.y ∧ dx ≤ dy then .north
  else .east

end Point
end RobotTurn
