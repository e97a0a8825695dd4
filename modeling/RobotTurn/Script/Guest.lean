import RobotTurn.Host.Guest

/-! Guests whose calls are scripts: lists of deeds. All octets that a guest prints or answers
lie in its memory, behind a stretch that is left free. -/
namespace RobotTurn.Script

open Host (Code Guest)

/-- Something a guest does in a call. -/
inductive Deed where
  | print (stream : Option Host.Stream) (bs : List UInt8)
  | echo (stream : Option Host.Stream)
  | listEnvironment (stream : Option Host.Stream)
  | reply (bs : List UInt8)
  | replyAt (address length : UInt32)
  | grow (pages : UInt32) (needed : Bool)
  | growTable (count : UInt32)
  | stop
  | spin

/-- A guest by what it does. `turns` holds what it does in single turns besides. -/
structure Tale where
  pages : Nat := 2
  inputAddress : UInt32 := 65536
  initReply : List UInt8
  turnReply : List UInt8
  init : List Deed := []
  turn : List Deed := []
  turns : List (Nat × List Deed) := []
  start : Option (List Deed) := none
  missing : List String := []
  mistyped : Bool := false

/-- A stretch of memory. -/
structure Spot where
  address : UInt32
  length : UInt32

/-- What a guest keeps outside its memory. -/
structure Own where
  request : UInt32 := 0
  reply : Spot := ⟨0, 0⟩
  turns : Nat := 0

/-- Where constants begin. -/
def imageBase : Nat := 1024

/-- A guest under construction: its constants so far. -/
abbrev Layout := StateM (List UInt8)

/-- Lays octets down behind the ones before. -/
def lay (bs : List UInt8) : Layout Spot := do
  let image ← get
  set (image ++ bs)
  return { address := (imageBase + image.length).toUInt32, length := bs.length.toUInt32 }

abbrev Routine := Code Own Unit

/-- Prints a stretch of memory. A stream that is not there takes nothing, and an empty stretch
is not looked at, wherever it lies. -/
def display (stream : Option Host.Stream) (spot : Spot) : Routine :=
  match stream with
  | none => pure ()
  | some stream =>
    if spot.length = 0 then pure ()
    else .load spot.address.toNat spot.length.toNat fun bs => .print stream bs (.done ())

def select (spot : Spot) : Routine :=
  .get fun own => .set { own with reply := spot } (.done ())

/-- Goes on only if a growth succeeded. -/
def require (ok : Bool) : Routine :=
  if ok then pure () else .trap

/-- The variables one after the other, each closed by a zero. -/
def environmentOctets (vars : List (String × String)) : List UInt8 :=
  vars.flatMap fun v => Utf8.encode v.1 ++ [0x3D] ++ Utf8.encode v.2 ++ [0]

def Deed.routine (input : UInt32) : Deed → Layout Routine
  | print stream bs => do return display stream (← lay bs)
  | echo stream => return .get fun own => display stream ⟨input, own.request⟩
  | listEnvironment stream =>
    return match stream with
      | none => pure ()
      | some stream => .environment fun vars => .print stream (environmentOctets vars) (.done ())
  | reply bs => do return select (← lay bs)
  | replyAt address length => return select ⟨address, length⟩
  | grow pages needed => return .growMemory pages fun ok => require (ok || !needed)
  | growTable count => return .growTable count require
  | stop => return .trap
  | spin => return .hang

/-- Deeds one after the other. -/
def routine (input : UInt32) : List Deed → Layout Routine
  | [] => return pure ()
  | d :: ds => do
    let first ← d.routine input
    let rest ← routine input ds
    return do
      first
      rest

def routines (input : UInt32) : List (Nat × List Deed) → Layout (List (Nat × Routine))
  | [] => return []
  | (n, ds) :: rest => do
    let first ← routine input ds
    return (n, first) :: (← routines input rest)

/-- Ends a call with the length of the reply selected last. -/
def replyLength : Code Own UInt32 := .get fun own => .done own.reply.length

/-- Takes the room for a request. -/
def reserve (input length : UInt32) : Code Own UInt32 :=
  .get fun own => .set { own with request := length } (.done input)

/-- A turn: the deeds of every turn, then those of its number. -/
def turnCall (reply : Spot) (every : Routine) (single : List (Nat × Routine)) :
    Code Own UInt32 := do
  let n ← .get fun own =>
    .set { own with turns := own.turns + 1, reply } (.done (own.turns + 1))
  every
  (single.lookup n).getD (pure ())
  replyLength

def initCall (reply : Spot) (deeds : Routine) : Code Own UInt32 := do
  select reply
  deeds
  replyLength

namespace Tale

/-- The guest of a tale and its constants. -/
def build (t : Tale) : Layout (Guest Own) := do
  let initReply ← lay t.initReply
  let turnReply ← lay t.turnReply
  let init ← routine t.inputAddress t.init
  let every ← routine t.inputAddress t.turn
  let single ← routines t.inputAddress t.turns
  let start ← match t.start with
    | none => pure none
    | some deeds => some <$> routine t.inputAddress deeds
  let given {α : Type} (name : String) (a : α) : Host.Export α :=
    if name ∈ t.missing then .missing else .callable a
  return {
    table := 1
    start := (start.map Host.Export.callable).getD .missing
    reserve := given "__rr_prealloc" (reserve t.inputAddress)
    address := given "__rr_io_addr" (.get fun own => .done own.reply.address)
    init := match given "__rr_init" (initCall initReply init) with
      | .callable call => if t.mistyped then .mistyped else .callable call
      | e => e
    turn := given "__rr_run_turn" (turnCall turnReply every single)
    own := {} }

def guest (t : Tale) : Guest Own :=
  let (guest, image) := t.build.run []
  let exported := "memory" ∉ t.missing
  { guest with plan := some { pages := t.pages, base := imageBase, image, exported } }

/-- Loads a tale, whose memory has to be one that can be. -/
def compile (t : Tale) : Except String (Guest Own) :=
  if t.pages ≤ Host.Memory.mostPages then .ok t.guest else .error "memory too large"

end Tale
end RobotTurn.Script
