import RobotTurn.Utf8

/-! What a guest writes to one of its streams, up to a capacity. What does not fit is counted
and dropped; the guest does not notice. -/
namespace RobotTurn.Host

structure Capture where
  capacity : Nat
  kept : List UInt8 := []
  dropped : Nat := 0
  deriving DecidableEq, Repr

/-- The streams that lead to a capture: one is polled and says how many octets it took, the other
takes what it is handed and says nothing. -/
inductive Port where
  | polled
  | handed
  deriving DecidableEq, Repr

namespace Capture

def append (c : Capture) (bs : List UInt8) : Capture :=
  let room := c.capacity - c.kept.length
  { c with kept := c.kept ++ bs.take room, dropped := c.dropped + (bs.length - room) }

/-- Writes through a stream. All octets count as taken, the dropped ones too. -/
def write (c : Capture) (port : Port) (bs : List UInt8) : Option Nat × Capture :=
  match port with
  | .polled => (some bs.length, c.append bs)
  | .handed => (none, c.append bs)

def clear (c : Capture) : Capture :=
  { capacity := c.capacity }

/-- The text kept, how many octets were dropped, and the emptied capture. -/
def drain (c : Capture) : (String × Nat) × Capture :=
  ((Utf8.lossy c.kept, c.dropped), c.clear)

/-- The text kept and the emptied capture. -/
def take (c : Capture) : String × Capture :=
  (c.drain.1.1, c.drain.2)

end Capture
end RobotTurn.Host
