import RobotTurn.Geometry

/-! What a unit does in a turn: move, attack or heal in a direction. -/
namespace RobotTurn

inductive Action.Kind where
  | move | attack | heal
  deriving DecidableEq, Repr, Inhabited

structure Action where
  kind : Action.Kind
  direction : Direction
  deriving DecidableEq, Repr, Inhabited

namespace Action

def Kind.all : List Kind := [move, attack, heal]

def Kind.name : Kind → String
  | move => "Move"
  | attack => "Attack"
  | heal => "Heal"

def move (d : Direction) : Action := ⟨.move, d⟩
def attack (d : Direction) : Action := ⟨.attack, d⟩
def heal (d : Direction) : Action := ⟨.heal, d⟩

def text (a : Action) : String :=
  s!"<{a.kind.name} {a.direction.name}>"

end Action
end RobotTurn
