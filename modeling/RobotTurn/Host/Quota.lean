/-! The limits of one guest. It is asked before a memory or a table grows; a growth that it
refuses does not happen. -/
namespace RobotTurn.Host

/-- `peak` is the largest memory size allowed so far, in octets. -/
structure Quota where
  maxMemory : Nat
  peak : Nat := 0
  deriving DecidableEq, Repr

namespace Quota

/-- The number of table elements allowed: as many as fit in the memory at 64 octets each, but
never fewer than 1024. -/
def maxTable (q : Quota) : Nat :=
  max (q.maxMemory / 64) 1024

/-- Asks for a memory of the given size. -/
def grantMemory (q : Quota) (desired : Nat) : Bool × Quota :=
  if desired ≤ q.maxMemory then (true, { q with peak := max q.peak desired }) else (false, q)

/-- Asks for a table of the given size. -/
def grantsTable (q : Quota) (desired : Nat) : Bool :=
  desired ≤ q.maxTable

end Quota
end RobotTurn.Host
