import RobotTurn.Wire.Reply

/-! Replies as a host reads them. -/
namespace RobotTurn.Host

open Json (Wire)

/-- The reply that a document holds. One that cannot be read is an error of its own. -/
def readReply {α : Type} [Wire α] (bs : List UInt8) : Except SessionError α :=
  match Json.decode (Except SessionError α) bs with
  | .error e => .error (.badData e.message)
  | .ok reply => reply

end RobotTurn.Host
