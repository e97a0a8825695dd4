import RobotTurn.Action
import RobotTurn.Board.Basic
import RobotTurn.Double.Shortest

/-! The values that robot code takes and returns. Their kinds are known only when they run. -/
namespace RobotTurn

inductive Value where
  | null
  | bool (b : Bool)
  | int (n : Int64)
  | double (x : Double)
  | text (s : String)
  | point (p : Point)
  | direction (d : Direction)
  | team (t : Team)
  | entity (e : Entity)
  | action (a : Action)
  | board (b : Board)
  | list (vs : List Value)
  deriving Inhabited

namespace Value

inductive Kind where
  | null | bool | int | double | text | point | direction | team | entity | action | board | list
  deriving DecidableEq, Repr, Inhabited

def Kind.name : Kind → String
  | null => "null"
  | bool => "bool"
  | int => "int"
  | double => "float"
  | text => "string"
  | point => "Coords"
  | direction => "Direction"
  | team => "Team"
  | entity => "Obj"
  | action => "Action"
  | board => "State"
  | list => "list"

def kind : Value → Kind
  | null => .null
  | bool _ => .bool
  | int _ => .int
  | double _ => .double
  | text _ => .text
  | point _ => .point
  | direction _ => .direction
  | team _ => .team
  | entity _ => .entity
  | action _ => .action
  | board _ => .board
  | list _ => .list

def isNull : Value → Bool
  | null => true
  | _ => false

/-- Numbers are shown without an exponent, whole ones without a point. A half goes up. -/
def numbers : Double.Layout := ⟨.up, fun _ => true, ""⟩

mutual

/-- The text of a value in logs and tables. -/
def shown : Value → String
  | null => "null"
  | bool b => toString b
  | int n => toString n
  | double x => x.text numbers
  | text s => s
  | point p => p.text
  | direction d => d.name
  | team t => t.name
  | entity e => e.text
  | action a => a.text
  | board b => s!"<State turn={b.turn} team={b.team.name}>"
  | list vs => "[" ++ ", ".intercalate (shownAll vs) ++ "]"

def shownAll : List Value → List String
  | [] => []
  | v :: vs => v.shown :: shownAll vs

end

mutual

/-- Whether two values are the same. Values of different kinds never are, nor is a NaN the
same as anything. -/
def same : Value → Value → Bool
  | null, null => true
  | bool a, bool b => a == b
  | int a, int b => a == b
  | double a, double b => a.equals b
  | text a, text b => a == b
  | point a, point b => a == b
  | direction a, direction b => a == b
  | team a, team b => a == b
  | entity a, entity b => a == b
  | action a, action b => a == b
  | board a, board b => a == b
  | list a, list b => sameAll a b
  | _, _ => false

def sameAll : List Value → List Value → Bool
  | [], [] => true
  | a :: as, b :: bs => a.same b && sameAll as bs
  | _, _ => false

end

/-- The value of an optional one; nothing is null. -/
def ofOption (f : α → Value) : Option α → Value
  | none => null
  | some a => f a

end Value
end RobotTurn
