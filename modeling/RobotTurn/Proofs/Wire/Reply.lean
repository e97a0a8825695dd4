import RobotTurn.Host.Decoded
import RobotTurn.Proofs.Wire.World
import RobotTurn.Wire.Reply

/-! Replies are read back as they were written, with everything that they hold. -/
namespace RobotTurn

open Json (Wire Lawful Solid Reads Folds Record Reader Choice)

instance : Lawful UInt64 where
  reads n := Wire.reads_word64 "usize" n

instance : Solid UInt64 := ⟨nofun⟩

instance : Lawful Span where
  reads s := by
    refine Record.reads (d := { start := some s.start, stop := some s.stop }) ?_ rfl
    refine .cons (Record.member_ok rfl rfl ((Lawful.reads s.start).bind_pure _)) ?_
    exact .cons (Record.member_ok rfl rfl ((Lawful.reads s.stop).bind_pure _)) (.nil _)

instance : Solid Span := ⟨nofun⟩

instance : Lawful Report where
  reads r := by
    refine Record.reads (d := { span := some r.span, summary := some r.summary
                                details := some r.details }) ?_ rfl
    refine .cons (Record.member_ok rfl rfl ((Lawful.reads r.span).bind_pure _)) ?_
    refine .cons (Record.member_ok rfl rfl ((Lawful.reads r.summary).bind_pure _)) ?_
    exact .cons (Record.member_ok rfl rfl ((Lawful.reads r.details).bind_pure _)) (.nil _)

instance : Lawful SessionError where
  reads
    | .initFailed report =>
      Choice.reads_holding rfl ((Lawful.reads report).map SessionError.initFailed)
    | .internal => Choice.reads_bare rfl
    | .noData => Choice.reads_bare rfl
    | .noInit => Choice.reads_bare rfl
    | .badData message => Choice.reads_holding rfl ((Lawful.reads message).map SessionError.badData)
    | .io message => Choice.reads_holding rfl ((Lawful.reads message).map SessionError.io)

instance : Lawful TurnReport where
  reads r := by
    refine Record.reads (d := { actions := some r.actions, logs := some r.logs
                                tables := some r.tables
                                inspections := some r.inspections }) ?_ rfl
    refine .cons (Record.member_ok rfl rfl ((Lawful.reads r.actions).bind_pure _)) ?_
    refine .cons (Record.member_ok rfl rfl ((Lawful.reads r.logs).bind_pure _)) ?_
    refine .cons (Record.member_ok rfl rfl ((Lawful.reads r.tables).bind_pure _)) ?_
    exact .cons (Record.member_ok rfl rfl ((Lawful.reads r.inspections).bind_pure _)) (.nil _)

/-- A host reads a reply as it was written. -/
theorem Host.readReply_encode {α : Type} [Wire α] [Lawful α] (reply : Except SessionError α) :
    Host.readReply (Json.encode reply) = reply := by
  rw [Host.readReply, Json.decode_encode]

end RobotTurn
