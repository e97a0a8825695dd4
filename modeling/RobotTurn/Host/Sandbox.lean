import RobotTurn.Host.Decoded
import RobotTurn.Host.Guest
import RobotTurn.Text.Lines

/-! Robots in a sandbox. A request is written to where the guest reserves room for it, and the
reply is read from where the guest says it lies. What a turn prints goes to the end of its
log, and what it writes to the other stream stands beside the reply. -/
namespace RobotTurn.Host

/-- What every machine of a guest is started with. -/
structure Settings where
  maxMemory : Nat := 2 ^ 64 - 1
  capacity : Nat := 1024 * 1024
  environment : List (String × String) := []

/-- Sets a variable. A variable set again stays in its place with the later value. -/
def Settings.define (s : Settings) (name value : String) : Settings :=
  if s.environment.any (·.1 = name) then
    { s with environment := s.environment.map fun v => if v.1 = name then (name, value) else v }
  else { s with environment := s.environment ++ [(name, value)] }

/-- The exports of a guest, found to be callable. -/
structure Entrances (σ : Type) where
  start : Option (Code σ Unit)
  reserve : UInt32 → Code σ UInt32
  init : Code σ UInt32
  turn : Code σ UInt32
  address : Code σ UInt32

structure Sandbox (σ : Type) where
  entrances : Entrances σ
  machine : Machine σ

namespace Sandbox

variable {σ : Type}

/-- The first export that cannot be called is the one reported. A start is not needed. -/
def resolve (g : Guest σ) : Except HostError (Entrances σ) := do
  if !(g.plan.any (·.exported)) then throw (.missingExport "memory")
  let start ← match g.start with
    | .missing => pure none
    | e => some <$> e.resolve "_initialize"
  let reserve ← g.reserve.resolve "__rr_prealloc"
  let address ← g.address.resolve "__rr_io_addr"
  let init ← g.init.resolve "__rr_init"
  let turn ← g.turn.resolve "__rr_run_turn"
  return { start, reserve, init, turn, address }

/-- The machine that a guest starts on. -/
def boot (settings : Settings) (g : Guest σ) : Except HostError (Machine σ) := do
  let plan := g.plan.getD { pages := 0 }
  let size := plan.pages * Memory.page
  let (granted, quota) := Quota.grantMemory { maxMemory := settings.maxMemory } size
  if !granted then
    throw (.engine s!"memory minimum size of {plan.pages} pages exceeds memory limits")
  if !quota.grantsTable g.table then
    throw (.engine s!"table minimum size of {g.table} elements exceeds table limits")
  match (Memory.zero plan.pages plan.maximum).write? plan.base plan.image with
  | none => throw (.engine "wasm trap: out of bounds memory access")
  | some memory =>
    let stream : Capture := { capacity := settings.capacity }
    return { memory, table := g.table, quota, stdout := stream, stderr := stream
             environment := settings.environment, own := g.own }

/-- A fresh session. Sessions of one guest share nothing. -/
def launch (settings : Settings) (g : Guest σ) : Except HostError (Session (Sandbox σ)) := do
  let machine ← boot settings g
  let entrances ← resolve g
  return { link := { entrances, machine } }

theorem boot_of_launch {settings : Settings} {g : Guest σ} {s : Session (Sandbox σ)}
    (launched : launch settings g = .ok s) : boot settings g = .ok s.link.machine := by
  unfold launch at launched
  cases booted : boot settings g with
  | error e => rw [booted] at launched; cases launched
  | ok machine =>
    rw [booted] at launched
    cases resolved : resolve g with
    | error e => rw [resolved] at launched; cases launched
    | ok entrances =>
      rw [resolved] at launched
      cases launched
      rfl

/-- One request and its reply, as code of the guest. -/
def exchange (e : Entrances σ) (entry : Code σ UInt32) (request : List UInt8) :
    Code σ (List UInt8) :=
  if 2 ^ 32 ≤ request.length then .trap
  else do
    let room ← e.reserve request.length.toUInt32
    .store room.toNat request (.done ())
    let length ← entry
    let address ← e.address
    .load address.toNat length.toNat .done

/-- What a host makes of an ended exchange; nothing if it never ends. -/
def judge {α : Type} [Json.Wire α] : Halt (List UInt8) → Option (Except SessionError α)
  | .returned bs => some (readReply bs)
  | .trapped => some (.error .internal)
  | .hung => none

/-- Takes the diagnostics out of a machine. -/
def takeStderr (m : Machine σ) : String × Machine σ :=
  let (text, stderr) := m.stderr.take
  (text, { m with stderr })

/-- Takes the lines printed out of a machine. -/
def takeLines (m : Machine σ) : List String × Machine σ :=
  let (text, stdout) := m.stdout.take
  (Text.lines text, { m with stdout })

/-- Starts the guest with a payload. What it prints is dropped. -/
def start (payload : List UInt8) (s : Sandbox σ) : Option (Answer Unit × Sandbox σ) := do
  let code := do
    s.entrances.start.getD (pure ())
    exchange s.entrances s.entrances.init payload
  let (halt, machine) := code.run s.machine
  let reply ← judge halt
  let (_, machine) := takeLines machine
  let (diagnostics, machine) := takeStderr machine
  return ({ reply, diagnostics }, { s with machine })

/-- Plays a turn. The streams start out empty; what is printed in a turn without a report
stays in the stream until the next one. -/
def play (b : Board) (s : Sandbox σ) : Option (Answer TurnReport × Sandbox σ) := do
  let machine := { s.machine with
    stdout := s.machine.stdout.clear
    stderr := s.machine.stderr.clear }
  let (halt, machine) := (exchange s.entrances s.entrances.turn (Json.encode b)).run machine
  let reply : TurnReply ← judge halt
  let (reply, machine) := match reply with
    | .error e => (Except.error e, machine)
    | .ok r =>
      let (lines, machine) := takeLines machine
      (.ok (r.noting lines), machine)
  let (diagnostics, machine) := takeStderr machine
  return ({ reply, diagnostics }, { s with machine })

end Sandbox

namespace Session

variable {σ : Type}

def initSandbox (s : Session (Sandbox σ)) (payload : List UInt8) :
    Option (Except HostError (Answer Unit) × Session (Sandbox σ)) :=
  s.init (Sandbox.start payload)

def turnSandbox (s : Session (Sandbox σ)) (b : Board) :
    Option (Except HostError (Answer TurnReport) × Session (Sandbox σ)) :=
  s.turn (Sandbox.play b)

/-- The largest memory that the quota has allowed, in octets. -/
def peak (s : Session (Sandbox σ)) : Nat :=
  s.link.machine.quota.peak

end Session
end RobotTurn.Host
