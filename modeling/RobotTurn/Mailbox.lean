import RobotTurn.Runner

/-! A session reached through one buffer of octets. The caller reserves the buffer and fills
it with a request, a call leaves its reply there, and the caller reads as many octets as the
call returns. The buffer always belongs to the last call: a reply left there is the request
of the next one. -/
namespace RobotTurn

/-- Where a call is cut short: before its request has been read, or after the given number of
octets of its reply. -/
inductive Cut where
  | reading
  | replying (written : Nat)
  deriving DecidableEq, Repr

structure Mailbox (σ : Type) where
  factory : Factory σ
  runner : Runner σ := .idle
  buffer : List UInt8 := []

namespace Mailbox

variable {σ : Type}

/-- A call: the length it returns, if it returns at all. -/
structure Exchange (σ : Type) where
  length : Option UInt32
  calls : List Call := []
  printed : String := ""
  mailbox : Mailbox σ

/-- Reserves a buffer, zero in every octet. -/
def reserve (m : Mailbox σ) (size : UInt32) : Mailbox σ :=
  { m with buffer := .replicate size.toNat 0 }

/-- Overwrites octets of the buffer. Those that would lie behind its end are dropped. -/
def poke (m : Mailbox σ) (offset : Nat) (bs : List UInt8) : Mailbox σ :=
  let whole := m.buffer.take offset ++ bs ++ m.buffer.drop (offset + bs.length)
  { m with buffer := whole.take m.buffer.length }

/-- The number of octets that a poke changes. -/
def pokeable (m : Mailbox σ) (offset : Nat) (bs : List UInt8) : Nat :=
  min bs.length (m.buffer.length - offset)

/-- Reserves a buffer for a request and fills it. -/
def write (m : Mailbox σ) (bs : List UInt8) : Mailbox σ :=
  (m.reserve bs.length.toUInt32).poke 0 bs

/-- The length that a call returns for its reply; one that does not fit in the word is
returned as zero. -/
def lengthWord (reply : List UInt8) : UInt32 :=
  if reply.length < 2 ^ 32 then reply.length.toUInt32 else 0

/-- Leaves a reply, or the front of it. -/
def answer (m : Mailbox σ) (cut : Option Cut) (reply : List UInt8) :
    Option UInt32 × Mailbox σ :=
  match cut with
  | some (.replying n) => (none, { m with buffer := reply.take n })
  | _ => (some (lengthWord reply), { m with buffer := reply })

/-- Takes the buffer as the payload of the session. -/
def init (m : Mailbox σ) (cut : Option Cut := none) : Exchange σ :=
  if cut = some .reading then { length := none, mailbox := { m with buffer := [] } }
  else
    let (reply, runner) := Runner.load m.factory m.buffer m.runner
    let (length, mailbox) := answer { m with runner, buffer := [] } cut (Json.encode reply)
    { length, mailbox }

/-- Takes the buffer as the document of a board. A request is read only in a session that may
run turns. -/
def turn (m : Mailbox σ) (cut : Option Cut := none) : Exchange σ :=
  if cut = some .reading ∧ m.runner.isReady then { length := none, mailbox := m }
  else
    let step := m.runner.turnFrom m.buffer
    let m := { m with runner := step.runner }
    match step.answer with
    | none => { length := none, calls := step.calls, printed := step.printed, mailbox := m }
    | some reply =>
      let (length, mailbox) := m.answer cut (Json.encode reply)
      { length, calls := step.calls, printed := step.printed, mailbox }

end Mailbox
end RobotTurn
