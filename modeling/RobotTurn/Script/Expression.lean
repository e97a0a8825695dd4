import RobotTurn.Value.Checked

/-! Expressions over the arguments of a call, and the operations that they apply. -/
namespace RobotTurn.Script

/-- An operation of some of its arguments. -/
abbrev Operation := List Value → Except Failure Value

inductive Expression where
  | value (v : Value)
  | argument (n : Nat)
  | apply (f : Operation) (args : List Expression)
  | list (items : List Expression)
  deriving Inhabited

/-- An argument; one that is not there is null. -/
def argument (args : List Value) (n : Nat) : Value :=
  args[n]?.getD .null

mutual

/-- Evaluates an expression. Of several failures the leftmost counts. -/
def Expression.evaluate (args : List Value) : Expression → Except Failure Value
  | .value v => .ok v
  | .argument n => .ok (Script.argument args n)
  | .apply f es => do f (← evaluateAll args es)
  | .list es => .list <$> evaluateAll args es

def evaluateAll (args : List Value) : List Expression → Except Failure (List Value)
  | [] => .ok []
  | e :: es => do
    let v ← e.evaluate args
    return v :: (← evaluateAll args es)

end

namespace Operation

/-- An operation on a first argument of some kind, with the second as it comes. -/
def on {α : Type} (self : Value → String → Except Failure α)
    (f : α → Value → Except Failure Value) : Operation := fun args => do
  f (← self (argument args 0) "self") (argument args 1)

/-- An operation on one argument that cannot fail. -/
def of {α : Type} (self : Value → String → Except Failure α) (f : α → Value) : Operation :=
  on self fun a _ => .ok (f a)

/-- An operation on any value. -/
def any (f : Value → Value) : Operation := fun args => .ok (f (argument args 0))

/-- The first argument as a value of some kind; the second names the context. -/
def cast {α : Type} (as : Value → String → Except Failure α) (f : α → Value) : Operation :=
  fun args =>
    let context := match argument args 1 with
      | .text s => s
      | _ => "ctx"
    f <$> as (argument args 0) context

def list {α : Type} (f : α → Value) (as : List α) : Value := .list (as.map f)

/-- Whether an entity is a unit, by name. -/
def kindText (e : Entity) : Value := .text e.kind.name

def pointOperations : List (String × Operation) := [
  ("coords.add", on Value.asPoint fun p v => .point <$> p.addChecked v),
  ("coords.sub", on Value.asPoint fun p v => .point <$> p.subChecked v),
  ("coords.mul", on Value.asPoint fun p v => .point <$> p.scaleChecked v),
  ("coords.distance_to", on Value.asPoint fun p v => .double <$> p.distanceChecked v),
  ("coords.direction_to", on Value.asPoint fun p v => .direction <$> p.towardChecked v),
  ("coords.walking_distance_to",
    on Value.asPoint fun p v => (fun n => .text (toString n)) <$> p.walkChecked v),
  ("coords.add_dir", on Value.asPoint fun p v => do return .point (p.step (← v.asDirection "self"))),
  ("coords.sub_dir",
    on Value.asPoint fun p v => do return .point (p.sub (← v.asDirection "self").vector)),
  ("coords.around", of Value.asPoint fun p => list .point p.around)]

def directionOperations : List (String × Operation) := [
  ("dir.to_vector", of Value.asDirection fun d => .point d.vector),
  ("dir.opposite", of Value.asDirection fun d => .direction d.opposite),
  ("dir.cw", of Value.asDirection fun d => .direction d.right),
  ("dir.ccw", of Value.asDirection fun d => .direction d.left),
  ("dir.name", of Value.asDirection fun d => .text d.name),
  ("dir.all", fun _ => .ok (list .direction Direction.all))]

def teamOperations : List (String × Operation) := [
  ("team.opposite", of Value.asTeam fun t => .team t.opposite),
  ("team.name", of Value.asTeam fun t => .text t.name),
  ("team.all", fun _ => .ok (list .team Team.all))]

def valueOperations : List (String × Operation) := [
  ("value.kind", any fun v => .text v.kind.name),
  ("value.display", any fun v => .text v.shown),
  ("value.is_null", any fun v => .bool v.isNull),
  ("value.eq", fun args => .ok (.bool ((argument args 0).same (argument args 1)))),
  ("value.as_int", cast Value.asInt .int),
  ("value.as_str", cast Value.asText .text),
  ("value.as_coords", cast Value.asPoint .point),
  ("value.as_direction", cast Value.asDirection .direction),
  ("value.as_team", cast Value.asTeam .team),
  ("value.as_obj", cast Value.asEntity .entity),
  ("value.as_state", cast Value.asBoard .board)]

def actionOperations : List (String × Operation) := [
  ("action.move", fun args => .action <$> Action.moveChecked (argument args 0)),
  ("action.attack", fun args => .action <$> Action.attackChecked (argument args 0)),
  ("action.heal", fun args => .action <$> Action.healChecked (argument args 0)),
  ("action.kind", of Value.asAction fun a => .text a.kind.name),
  ("action.direction", of Value.asAction fun a => .direction a.direction)]

def entityOperations : List (String × Operation) := [
  ("obj.id", of Value.asEntity fun e => .text e.id),
  ("obj.coords", of Value.asEntity fun e => .point e.point),
  ("obj.kind", of Value.asEntity kindText),
  ("obj.team", of Value.asEntity fun e => .ofOption .team e.team?),
  ("obj.health", of Value.asEntity fun e =>
    .ofOption (fun h : UInt32 => .int (Int64.ofNat h.toNat)) e.health?)]

def boardOperations : List (String × Operation) := [
  ("state.turn", of Value.asBoard fun b => .text (toString b.turn)),
  ("state.our_team", of Value.asBoard fun b => .team b.team),
  ("state.other_team", of Value.asBoard fun b => .team b.otherTeam),
  ("state.ids_by_team", on Value.asBoard fun b v => list .text <$> b.rosterChecked v),
  ("state.objs_by_team", on Value.asBoard fun b v => list .entity <$> b.entitiesOfChecked v),
  ("state.obj_by_id", on Value.asBoard fun b v => .ofOption .entity <$> b.entityChecked v),
  ("state.id_by_coords", on Value.asBoard fun b v => .ofOption .text <$> b.idAtChecked v),
  ("state.obj_by_coords", on Value.asBoard fun b v => .ofOption .entity <$> b.entityAtChecked v)]

def all : List (String × Operation) :=
  pointOperations ++ directionOperations ++ teamOperations ++ valueOperations ++
    actionOperations ++ entityOperations ++ boardOperations

/-- The operation of a name. -/
def named? (name : String) : Option Operation :=
  all.lookup name

end Operation
end RobotTurn.Script
