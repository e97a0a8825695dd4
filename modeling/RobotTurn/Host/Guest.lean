import RobotTurn.Host.Capture
import RobotTurn.Host.Quota
import RobotTurn.Host.Session

/-! Guests: programs that see nothing but a memory of their own, two streams to write to and an
environment to read. A guest's code is the tree of what it asks of its machine, so whatever it
does is one of the steps below. -/
namespace RobotTurn.Host

/-- A memory in octets. It never shrinks, and grows by pages up to `maximum`. -/
structure Memory where
  size : Nat
  maximum : Nat
  cell : Nat → UInt8

namespace Memory

def page : Nat := 65536

/-- The most pages that a memory can have. -/
def mostPages : Nat := 65536

def zero (pages : Nat) (maximum : Nat := mostPages) : Memory :=
  { size := pages * page, maximum := maximum * page, cell := fun _ => 0 }

/-- The octets of a stretch that lies inside the memory. -/
def read? (m : Memory) (address length : Nat) : Option (List UInt8) :=
  if address + length ≤ m.size then some ((List.range' address length).map m.cell) else none

/-- Overwrites a stretch that lies inside the memory. -/
def write? (m : Memory) (address : Nat) (bs : List UInt8) : Option Memory :=
  if address + bs.length ≤ m.size then
    let data := bs.toArray
    some { m with cell := fun a =>
      if address ≤ a ∧ a < address + data.size then data.getD (a - address) 0 else m.cell a }
  else none

end Memory

inductive Stream where
  | stdout
  | stderr
  deriving DecidableEq, Repr

/-- What a guest runs on; `own` is its state outside the memory. -/
structure Machine (σ : Type) where
  memory : Memory
  table : Nat
  quota : Quota
  stdout : Capture
  stderr : Capture
  environment : List (String × String)
  own : σ

namespace Machine

variable {σ : Type}

def print (m : Machine σ) (bs : List UInt8) : Stream → Machine σ
  | .stdout => { m with stdout := m.stdout.append bs }
  | .stderr => { m with stderr := m.stderr.append bs }

/-- Grows the memory if the quota and the memory's own maximum allow it. The quota is asked
first, but never about no growth at all. -/
def growMemory (m : Machine σ) (pages : UInt32) : Bool × Machine σ :=
  if pages = 0 then (true, m)
  else
    let size := m.memory.size + pages.toNat * Memory.page
    let (granted, quota) := m.quota.grantMemory size
    if granted && size ≤ m.memory.maximum then
      (true, { m with quota, memory := { m.memory with size } })
    else (false, { m with quota })

/-- Grows the table if the quota allows it. -/
def growTable (m : Machine σ) (count : UInt32) : Bool × Machine σ :=
  let size := m.table + count.toNat
  if count = 0 then (true, m)
  else if m.quota.grantsTable size then (true, { m with table := size })
  else (false, m)

end Machine

/-- Code that returns a value, traps, or never comes back. A stretch of memory that is loaded
or stored has to lie inside the memory, or the code traps. -/
inductive Code (σ : Type) (α : Type) where
  | done (a : α)
  | trap
  | hang
  | get (next : σ → Code σ α)
  | set (s : σ) (next : Code σ α)
  | print (stream : Stream) (bs : List UInt8) (next : Code σ α)
  | load (address length : Nat) (next : List UInt8 → Code σ α)
  | store (address : Nat) (bs : List UInt8) (next : Code σ α)
  | environment (next : List (String × String) → Code σ α)
  | growMemory (pages : UInt32) (next : Bool → Code σ α)
  | growTable (count : UInt32) (next : Bool → Code σ α)

/-- How code ends. -/
inductive Halt (α : Type) where
  | returned (a : α)
  | trapped
  | hung

namespace Code

variable {σ α β : Type}

def bind (f : α → Code σ β) : Code σ α → Code σ β
  | done a => f a
  | trap => trap
  | hang => hang
  | get next => get fun s => (next s).bind f
  | set s next => set s (next.bind f)
  | print stream bs next => print stream bs (next.bind f)
  | load address length next => load address length fun bs => (next bs).bind f
  | store address bs next => store address bs (next.bind f)
  | environment next => environment fun vars => (next vars).bind f
  | growMemory pages next => growMemory pages fun ok => (next ok).bind f
  | growTable count next => growTable count fun ok => (next ok).bind f

instance : Monad (Code σ) where
  pure := done
  bind c f := c.bind f

/-- Runs code. What it did before a trap stays done. -/
def run : Code σ α → Machine σ → Halt α × Machine σ
  | done a, m => (.returned a, m)
  | trap, m => (.trapped, m)
  | hang, m => (.hung, m)
  | get next, m => (next m.own).run m
  | set s next, m => next.run { m with own := s }
  | print stream bs next, m => next.run (m.print bs stream)
  | load address length next, m =>
    match m.memory.read? address length with
    | none => (.trapped, m)
    | some bs => (next bs).run m
  | store address bs next, m =>
    match m.memory.write? address bs with
    | none => (.trapped, m)
    | some memory => next.run { m with memory }
  | environment next, m => (next m.environment).run m
  | growMemory pages next, m =>
    let (ok, m) := m.growMemory pages
    (next ok).run m
  | growTable count next, m =>
    let (ok, m) := m.growTable count
    (next ok).run m

end Code

/-- An export that a host looks for. -/
inductive Export (α : Type) where
  | missing
  | mistyped
  | callable (a : α)

/-- The export, or why it cannot be called. -/
def Export.resolve {α : Type} (e : Export α) (name : String) : Except HostError α :=
  match e with
  | missing => .error (.missingExport name)
  | mistyped => .error (.engine s!"export `{name}` has the wrong signature")
  | callable a => .ok a

/-- The memory that a guest starts with: `image` lies at `base`, the rest is zero. -/
structure Plan where
  pages : Nat
  maximum : Nat := Memory.mostPages
  base : Nat := 0
  image : List UInt8 := []
  exported : Bool := true

/-- A loaded guest, from which machines are started. -/
structure Guest (σ : Type) where
  plan : Option Plan := none
  table : Nat := 0
  start : Export (Code σ Unit) := .missing
  reserve : Export (UInt32 → Code σ UInt32) := .missing
  address : Export (Code σ UInt32) := .missing
  init : Export (Code σ UInt32) := .missing
  turn : Export (Code σ UInt32) := .missing
  own : σ

end RobotTurn.Host
