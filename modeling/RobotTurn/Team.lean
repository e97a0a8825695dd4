/-! The two teams. -/
namespace RobotTurn

inductive Team where
  | red | blue
  deriving DecidableEq, Repr, Inhabited

namespace Team

def all : List Team := [red, blue]

def opposite : Team → Team
  | red => blue
  | blue => red

def name : Team → String
  | red => "Red"
  | blue => "Blue"

@[simp] theorem opposite_opposite (t : Team) : t.opposite.opposite = t := by cases t <;> rfl

end Team
end RobotTurn
