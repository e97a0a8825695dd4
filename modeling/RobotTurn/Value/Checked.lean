import RobotTurn.Failure

/-! Operations on arguments whose kinds are checked when they run. A wrong kind is a
mismatch that names the operation. -/
namespace RobotTurn

namespace Value

def asInt (v : Value) (context : String) : Except Failure Int64 :=
  match v with
  | int n => .ok n
  | v => .error (.mismatch context "int" v.kind)

def asText (v : Value) (context : String) : Except Failure String :=
  match v with
  | text s => .ok s
  | v => .error (.mismatch context "string" v.kind)

def asPoint (v : Value) (context : String) : Except Failure Point :=
  match v with
  | point p => .ok p
  | v => .error (.mismatch context "Coords" v.kind)

def asDirection (v : Value) (context : String) : Except Failure Direction :=
  match v with
  | direction d => .ok d
  | v => .error (.mismatch context "Direction" v.kind)

def asTeam (v : Value) (context : String) : Except Failure Team :=
  match v with
  | team t => .ok t
  | v => .error (.mismatch context "Team" v.kind)

def asEntity (v : Value) (context : String) : Except Failure Entity :=
  match v with
  | entity e => .ok e
  | v => .error (.mismatch context "Obj" v.kind)

def asAction (v : Value) (context : String) : Except Failure Action :=
  match v with
  | action a => .ok a
  | v => .error (.mismatch context "Action" v.kind)

def asBoard (v : Value) (context : String) : Except Failure Board :=
  match v with
  | board b => .ok b
  | v => .error (.mismatch context "State" v.kind)

/-- A point, or the step in a direction. -/
def asOffset (v : Value) (context : String) : Except Failure Point :=
  match v with
  | point p => .ok p
  | direction d => .ok d.vector
  | v => .error (.mismatch context "Coords or Direction" v.kind)

end Value

namespace Point

def addChecked (p : Point) (v : Value) : Except Failure Point :=
  p.add <$> v.asOffset "Coords.add"

def subChecked (p : Point) (v : Value) : Except Failure Point :=
  p.sub <$> v.asOffset "Coords.sub"

def scaleChecked (p : Point) (v : Value) : Except Failure Point :=
  p.scale <$> v.asInt "Coords.mul"

def distanceChecked (p : Point) (v : Value) : Except Failure Double :=
  p.distance <$> v.asPoint "Coords.distance_to"

def walkChecked (p : Point) (v : Value) : Except Failure UInt64 :=
  p.walk <$> v.asPoint "Coords.walking_distance_to"

def towardChecked (p : Point) (v : Value) : Except Failure Direction :=
  p.toward <$> v.asPoint "Coords.direction_to"

end Point

namespace Action

def moveChecked (v : Value) : Except Failure Action := move <$> v.asDirection "move"
def attackChecked (v : Value) : Except Failure Action := attack <$> v.asDirection "attack"
def healChecked (v : Value) : Except Failure Action := heal <$> v.asDirection "heal"

end Action

namespace Board

def rosterChecked (b : Board) (v : Value) : Except Failure (List String) :=
  b.roster <$> v.asTeam "State.ids_by_team"

def entitiesOfChecked (b : Board) (v : Value) : Except Failure (List Entity) :=
  b.entitiesOf <$> v.asTeam "State.objs_by_team"

def entityChecked (b : Board) (v : Value) : Except Failure (Option Entity) :=
  b.entity? <$> v.asText "State.obj_by_id"

def idAtChecked (b : Board) (v : Value) : Except Failure (Option String) :=
  b.idAt? <$> v.asPoint "State.id_by_coords"

def entityAtChecked (b : Board) (v : Value) : Except Failure (Option Entity) :=
  b.entityAt? <$> v.asPoint "State.obj_by_coords"

end Board
end RobotTurn
