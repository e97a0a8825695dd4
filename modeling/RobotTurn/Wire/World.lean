import RobotTurn.Action
import RobotTurn.Json.Shape

/-! The written forms of boards and of what stands on them. -/
namespace RobotTurn

open Json (Wire Reader Record Choice Field DecodeError)

namespace Wire

def word64 (expected : String) : Reader UInt64 :=
  (·.toNat.toUInt64) <$> Reader.integer 0 (2 ^ 64 - 1) expected

end Wire

instance : Wire Int64 where
  toJson n := .int n.toInt
  read := Int64.ofInt <$> Reader.integer (-2 ^ 63) (2 ^ 63 - 1) "i64"

instance : Wire UInt32 where
  toJson n := .int n.toNat
  read := (·.toNat.toUInt32) <$> Reader.integer 0 (2 ^ 32 - 1) "u32"

instance : Wire Point where
  toJson p := .list [Wire.toJson p.x, Wire.toJson p.y]
  read := (fun p => ⟨p.1, p.2⟩) <$> Reader.pair (Wire.read : Reader Int64) Wire.read

instance : Wire Direction where
  toJson d := .text d.name
  read := (Choice.names Direction.all Direction.name).read

instance : Wire Team where
  toJson t := .text t.name
  read := (Choice.names Team.all Team.name).read

instance : Wire Action.Kind where
  toJson k := .text k.name
  read := (Choice.names Action.Kind.all Action.Kind.name).read

/-- The members of an action read so far. -/
structure Action.Draft where
  kind : Option Action.Kind := none
  direction : Option Direction := none

def Action.record : Record Action.Draft Action where
  name := "Action"
  draft := {}
  fields := [
    { name := "type", isSet := (·.kind.isSome)
      read := fun d => do return { d with kind := some (← Wire.read) } },
    { name := "direction", isSet := (·.direction.isSome)
      read := fun d => do return { d with direction := some (← Wire.read) } }]
  finish d := do
    let kind ← Record.need "type" d.kind
    let direction ← Record.need "direction" d.direction
    return { kind, direction }

instance : Wire Action where
  toJson a := .object [("type", Wire.toJson a.kind), ("direction", Wire.toJson a.direction)]
  read := Action.record.read

instance : Wire Entity.Kind where
  toJson k := .text k.name
  read := (Choice.names Entity.Kind.all Entity.Kind.name).read

namespace Entity

/-- An entity as it is written, before team and health are held against its kind. -/
structure Written where
  id : String
  point : Point
  kind : Kind
  label : Option String
  team : Option Team
  health : Option UInt32
  deriving DecidableEq

/-- A unit has a team and a health, terrain has neither. -/
def Written.role (w : Written) : Except BoardError Role :=
  match w.kind, w.team, w.health with
  | .unit, none, _ => .error (.unitWithout w.id "team")
  | .unit, some _, none => .error (.unitWithout w.id "health")
  | .unit, some team, some health => .ok (.unit team health)
  | .terrain, some _, _ => .error (.terrainWith w.id "team")
  | .terrain, none, some _ => .error (.terrainWith w.id "health")
  | .terrain, none, none => .ok .terrain

def Written.entity (w : Written) : Except BoardError Entity :=
  w.role.map fun role => { id := w.id, point := w.point, role }

def written (e : Entity) : Written where
  id := e.id
  point := e.point
  kind := e.kind
  label := some (match e.role with | .unit .. => "Soldier" | .terrain => "Wall")
  team := e.team?
  health := e.health?

@[simp] theorem entity_written (e : Entity) : e.written.entity = .ok e := by
  cases e with
  | mk id point role => cases role <;> rfl

/-- The members of an entity read so far. An optional member counts as read once it has
been seen, null or not. -/
structure Draft where
  id : Option String := none
  point : Option Point := none
  kind : Option Kind := none
  label : Option (Option String) := none
  team : Option (Option Team) := none
  health : Option (Option UInt32) := none

def Draft.finish (d : Draft) : Except DecodeError Written := do
  let id ← Record.need "id" d.id
  let point ← Record.need "coords" d.point
  let kind ← Record.need "obj_type" d.kind
  return { id, point, kind, label := d.label.join, team := d.team.join, health := d.health.join }

/-- The error of the world as an error of its document. -/
def checked {α : Type} : Except BoardError α → Except DecodeError α
  | .error e => .error (.board e)
  | .ok a => .ok a

def record : Record Draft Entity where
  name := "WireObject"
  draft := {}
  fields := [
    { name := "id", isSet := (·.id.isSome)
      read := fun d => do return { d with id := some (← Wire.read) } },
    { name := "coords", isSet := (·.point.isSome)
      read := fun d => do return { d with point := some (← Wire.read) } },
    { name := "obj_type", isSet := (·.kind.isSome)
      read := fun d => do return { d with kind := some (← Wire.read) } },
    { name := "type", isSet := (·.label.isSome), omittable := true
      read := fun d => do return { d with label := some (← Wire.read) } },
    { name := "team", isSet := (·.team.isSome), omittable := true
      read := fun d => do return { d with team := some (← Wire.read) } },
    { name := "health", isSet := (·.health.isSome), omittable := true
      read := fun d => do return { d with health := some (← Wire.read) } }]
  finish d := do checked (← d.finish).entity

/-- The members of a written entity. Absent ones are left out. -/
def Written.members (w : Written) : List (String × Json) :=
  [("id", Wire.toJson w.id), ("coords", Wire.toJson w.point),
    ("obj_type", Wire.toJson w.kind)] ++
  (w.label.map fun s => ("type", Wire.toJson s)).toList ++
  (w.team.map fun t => ("team", Wire.toJson t)).toList ++
  (w.health.map fun h => ("health", Wire.toJson h)).toList

end Entity

instance : Wire Entity where
  toJson e := .object e.written.members
  read := Entity.record.read

namespace Board

/-- The rosters of a document: each team's last one stays. -/
structure Rosters where
  red : List String := []
  blue : List String := []

def Rosters.put (r : Rosters) (t : Team) (ids : List String) : Rosters :=
  match t with
  | .red => { r with red := ids }
  | .blue => { r with blue := ids }

/-- The team that a key names. -/
def teamKey (name : String) : Reader Team :=
  match Team.all.find? (·.name = name) with
  | some t => pure t
  | none => Reader.fail (.unknownVariant name (Team.all.map Team.name))

def readRosters : Reader Rosters :=
  Reader.mapping teamKey Wire.read Rosters.put {}

/-- The members of a board read so far. -/
structure Draft where
  turn : Option UInt64 := none
  team : Option Team := none
  rosters : Option Rosters := none
  entities : Option (Dict Entity) := none
  grid : Option (List Row) := none

def Draft.finish (d : Draft) : Except DecodeError Board := do
  let turn ← Record.need "turn" d.turn
  let team ← Record.need "team" d.team
  let rosters := d.rosters.getD {}
  return { turn, team, red := rosters.red, blue := rosters.blue
           entities := d.entities.getD ∅, grid := d.grid.getD [] }

/-- The board itself, if it is consistent. -/
def consistent? (b : Board) : Except BoardError Board :=
  match b.error? with
  | some e => .error e
  | none => .ok b

def record : Record Draft Board where
  name := "WireState"
  draft := {}
  fields := [
    { name := "turn", isSet := (·.turn.isSome)
      read := fun d => do return { d with turn := some (← Wire.word64 "u64") } },
    { name := "team", isSet := (·.team.isSome)
      read := fun d => do return { d with team := some (← Wire.read) } },
    { name := "teams", isSet := (·.rosters.isSome), omittable := true
      read := fun d => do return { d with rosters := some (← readRosters) } },
    { name := "objs", isSet := (·.entities.isSome), omittable := true
      read := fun d => do return { d with entities := some (← Wire.read) } },
    { name := "grid", isSet := (·.grid.isSome), omittable := true
      read := fun d => do return { d with grid := some (← Wire.read) } }]
  finish d := do Entity.checked (← d.finish).consistent?

end Board

instance : Wire Board where
  toJson b := .object [
    ("turn", .int b.turn.toNat),
    ("team", Wire.toJson b.team),
    ("teams", .object (Team.all.map fun t => (t.name, Wire.toJson (b.roster t)))),
    ("objs", Wire.toJson b.entities),
    ("grid", Wire.toJson b.grid)]
  read := Board.record.read

end RobotTurn
