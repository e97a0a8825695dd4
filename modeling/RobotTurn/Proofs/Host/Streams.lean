import RobotTurn.Proofs.Host.Capture
import RobotTurn.Proofs.Host.Lifecycle

/-! What a guest writes in one turn stays in that turn. The streams are emptied before a turn, so its
log and its diagnostics are made of the octets written while it is played, and of no others
(`streams_never_leak`). -/
namespace RobotTurn.Host

variable {σ α : Type}

/-! ## What code writes -/

/-- The writes of some code, in order, when it runs on a machine. -/
def Code.writes : Code σ α → Machine σ → List (Stream × List UInt8)
  | done _, _ => []
  | trap, _ => []
  | hang, _ => []
  | get next, m => (next m.own).writes m
  | set s next, m => next.writes { m with own := s }
  | print stream bs next, m => (stream, bs) :: next.writes (m.print bs stream)
  | load address length next, m =>
    match m.memory.read? address length with
    | none => []
    | some bs => (next bs).writes m
  | store address bs next, m =>
    match m.memory.write? address bs with
    | none => []
    | some memory => next.writes { m with memory }
  | environment next, m => (next m.environment).writes m
  | growMemory pages next, m => (next (m.growMemory pages).1).writes (m.growMemory pages).2
  | growTable count next, m => (next (m.growTable count).1).writes (m.growTable count).2

/-- The octets that some writes put on one stream. -/
def sentTo (stream : Stream) (writes : List (Stream × List UInt8)) : List UInt8 :=
  writes.flatMap fun w => if w.1 = stream then w.2 else []

namespace Machine

/-- The capture behind a stream. -/
def capture (m : Machine σ) : Stream → Capture
  | .stdout => m.stdout
  | .stderr => m.stderr

theorem capture_print (m : Machine σ) (bs : List UInt8) (target stream : Stream) :
    (m.print bs target).capture stream =
      (m.capture stream).append (if target = stream then bs else []) := by
  have other (c : Capture) : c = c.append [] := c.append_nil.symm
  cases target with
  | stdout =>
    cases stream with
    | stdout => rfl
    | stderr => exact other m.stderr
  | stderr =>
    cases stream with
    | stdout => exact other m.stdout
    | stderr => rfl

theorem capture_congr {m n : Machine σ} (out : n.stdout = m.stdout) (err : n.stderr = m.stderr)
    (stream : Stream) : n.capture stream = m.capture stream := by
  cases stream with
  | stdout => exact out
  | stderr => exact err

theorem growMemory_eq (m : Machine σ) (pages : UInt32) :
    ∃ grown memory quota, m.growMemory pages = (grown, { m with memory, quota }) := by
  fun_cases growMemory m pages with
  | case1 => exact ⟨true, m.memory, m.quota, rfl⟩
  | case2 => exact ⟨true, _, _, rfl⟩
  | case3 => exact ⟨false, _, _, rfl⟩

theorem capture_growMemory (m : Machine σ) (pages : UInt32) (stream : Stream) :
    (m.growMemory pages).2.capture stream = m.capture stream := by
  obtain ⟨grown, memory, quota, is⟩ := m.growMemory_eq pages
  rw [is]
  exact capture_congr rfl rfl stream

theorem capture_growTable (m : Machine σ) (count : UInt32) (stream : Stream) :
    (m.growTable count).2.capture stream = m.capture stream := by
  fun_cases growTable m count with
  | case1 => rfl
  | case2 => exact capture_congr rfl rfl stream
  | case3 => rfl

end Machine

/-- However its writes are cut and interleaved, code leaves on a stream what it has put there. -/
theorem Code.capture_run (c : Code σ α) (m : Machine σ) (stream : Stream) :
    (c.run m).2.capture stream = (m.capture stream).append (sentTo stream (c.writes m)) := by
  have nothing (m : Machine σ) :
      m.capture stream = (m.capture stream).append (sentTo stream []) :=
    (Capture.append_nil _).symm
  induction c generalizing m with
  | done a => exact nothing m
  | trap => exact nothing m
  | hang => exact nothing m
  | get next ih => exact ih _ m
  | set s next ih =>
    have same : ({ m with own := s } : Machine σ).capture stream = m.capture stream :=
      Machine.capture_congr rfl rfl stream
    rw [run, writes, ih, same]
  | print target bs next ih =>
    rw [run, ih, m.capture_print, Capture.append_append]
    rfl
  | load address length next ih =>
    rw [run, writes]
    cases m.memory.read? address length with
    | none => exact nothing m
    | some bs => exact ih bs m
  | store address bs next ih =>
    rw [run, writes]
    cases m.memory.write? address bs with
    | none => exact nothing m
    | some memory =>
      have same : ({ m with memory } : Machine σ).capture stream = m.capture stream :=
        Machine.capture_congr rfl rfl stream
      dsimp only
      rw [ih, same]
  | environment next ih => exact ih _ m
  | growMemory pages next ih =>
    rw [run, writes, ← m.capture_growMemory pages]
    exact ih _ _
  | growTable count next ih =>
    rw [run, writes, ← m.capture_growTable count]
    exact ih _ _

namespace Machine

theorem capture_silenced (m : Machine σ) (stream : Stream) :
    m.silenced.capture stream = (m.capture stream).clear := by
  cases stream <;> rfl

theorem capacity_drained (m : Machine σ) (lines : Bool) (stream : Stream) :
    ((m.drained lines).capture stream).capacity = (m.capture stream).capacity := by
  cases lines <;> cases stream <;> rfl

theorem capacity_run (m : Machine σ) (c : Code σ α) (stream : Stream) :
    ((c.run m).2.capture stream).capacity = (m.capture stream).capacity := by
  rw [Code.capture_run, Capture.capacity_append]

end Machine

/-! ## The capacity of a session -/

/-- Both streams of a guest keep as many octets as this, whatever they hold. -/
def Sandbox.Captures (capacity : Nat) (s : Sandbox σ) : Prop :=
  ∀ stream, (s.machine.capture stream).capacity = capacity

namespace Sandbox

variable {capacity : Nat} {s : Sandbox σ}

theorem capacity_boot {settings : Settings} {g : Guest σ} {m : Machine σ}
    (booted : boot settings g = .ok m) (stream : Stream) :
    (m.capture stream).capacity = settings.capacity := by
  unfold boot at booted
  dsimp only at booted
  split at booted
  · cases booted
  split at booted
  · cases booted
  split at booted
  · cases booted
  · cases booted
    cases stream <;> rfl

theorem captures_launch {settings : Settings} {g : Guest σ} {s : Session (Sandbox σ)}
    (launched : launch settings g = .ok s) : s.link.Captures settings.capacity :=
  capacity_boot (boot_of_launch launched)

theorem Captures.play (captures : s.Captures capacity) {b : Board}
    {x : Answer TurnReport × Sandbox σ} (played : s.play b = some x) : x.2.Captures capacity := by
  cases ran : (exchange s.entrances s.entrances.turn (Json.encode b)).run s.machine.silenced with
  | mk halt left =>
    rw [play_eq ran] at played
    obtain ⟨reply, -, rfl⟩ := Option.map_eq_some_iff.mp played
    intro stream
    have kept := Machine.capacity_run s.machine.silenced
      (exchange s.entrances s.entrances.turn (Json.encode b)) stream
    rw [ran, Machine.capture_silenced, Capture.capacity_clear, captures stream] at kept
    rw [Machine.capacity_drained, kept]

theorem Captures.start (captures : s.Captures capacity) {payload : List UInt8}
    {x : Answer Unit × Sandbox σ} (started : s.start payload = some x) :
    x.2.Captures capacity := by
  cases ran : (s.startCode payload).run s.machine with
  | mk halt left =>
    rw [start_eq ran] at started
    obtain ⟨reply, -, rfl⟩ := Option.map_eq_some_iff.mp started
    intro stream
    have kept := Machine.capacity_run s.machine (s.startCode payload) stream
    rw [ran, captures stream] at kept
    rw [Machine.capacity_drained, kept]

end Sandbox

/-! ## Turns -/

namespace Sandbox

/-- How the guest's code ends when a turn is played. -/
def playHalt (b : Board) (s : Sandbox σ) : Halt (List UInt8) :=
  ((exchange s.entrances s.entrances.turn (Json.encode b)).run s.machine.silenced).1

/-- What the guest replies in a turn, as the host reads it. -/
def decoded (b : Board) (s : Sandbox σ) : Option TurnReply := judge (s.playHalt b)

/-- The octets that the guest writes to a stream while a turn is played. -/
def wrote (b : Board) (s : Sandbox σ) (stream : Stream) : List UInt8 :=
  sentTo stream ((exchange s.entrances s.entrances.turn (Json.encode b)).writes s.machine.silenced)

theorem playHalt_of_run {s : Sandbox σ} {b : Board} {halt : Halt (List UInt8)} {left : Machine σ}
    (ran : (exchange s.entrances s.entrances.turn (Json.encode b)).run s.machine.silenced =
      (halt, left)) : s.playHalt b = halt := by
  rw [playHalt, ran]

/-- What a stream holds when the guest has come through a turn. -/
theorem kept_played {capacity : Nat} {s : Sandbox σ} (captures : s.Captures capacity) {b : Board}
    {halt : Halt (List UInt8)} {left : Machine σ}
    (ran : (exchange s.entrances s.entrances.turn (Json.encode b)).run s.machine.silenced =
      (halt, left)) (stream : Stream) :
    (left.capture stream).kept = (s.wrote b stream).take capacity := by
  have run := Code.capture_run (exchange s.entrances s.entrances.turn (Json.encode b))
    s.machine.silenced stream
  rw [ran, Machine.capture_silenced, Capture.append_clear, captures stream] at run
  rw [run, wrote]

/-- The answer to a turn, made of a reply and of the octets written to the two streams. -/
def told (capacity : Nat) (reply : TurnReply) (out err : List UInt8) : Answer TurnReport where
  reply := reply.map (TurnReport.noting · (Text.lines (Utf8.lossy (out.take capacity))))
  diagnostics := Utf8.lossy (err.take capacity)

theorem play_told {capacity : Nat} {s : Sandbox σ} (captures : s.Captures capacity) (b : Board) :
    (s.play b).map (·.1) = (s.decoded b).map fun reply =>
      told capacity reply (s.wrote b .stdout) (s.wrote b .stderr) := by
  cases ran : (exchange s.entrances s.entrances.turn (Json.encode b)).run s.machine.silenced with
  | mk halt left =>
    have out : left.stdout.kept = _ := kept_played captures ran .stdout
    have err : left.stderr.kept = _ := kept_played captures ran .stderr
    rw [play_eq ran, decoded, playHalt_of_run ran, Option.map_map]
    refine congrArg (Option.map · _) (funext fun reply => ?_)
    rw [told, ← out, ← err]
    rfl

end Sandbox

/-- Some calls lead to the session, from one that has been launched (`captures_launch`) or, as it
makes no difference, from one whose streams hold something already. -/
def Session.Reached (capacity : Nat) (s : Session (Sandbox σ)) : Prop :=
  ∃ (first : Session (Sandbox σ)) (calls : List (Request (List UInt8))),
    first.link.Captures capacity ∧ after callSandbox first calls = some s

namespace Session

theorem Reached.captures {capacity : Nat} {s : Session (Sandbox σ)} (reached : s.Reached capacity) :
    s.link.Captures capacity := by
  obtain ⟨first, calls, captures, came⟩ := reached
  apply gated_callSandbox.keeps_after _ _ captures came
  · intro _ _ _ before
    exact before.start
  · intro _ _ _ before
    exact before.play

theorem Reached.told {capacity : Nat} {s : Session (Sandbox σ)} (reached : s.Reached capacity)
    (ready : s.phase = .ready) (b : Board) :
    (s.turnSandbox b).map (·.1) = (s.link.decoded b).map fun reply =>
      .ok (Sandbox.told capacity reply (s.link.wrote b .stdout) (s.link.wrote b .stderr)) := by
  obtain ⟨phase, link⟩ := s
  cases ready
  have played := Sandbox.play_told reached.captures b
  rw [Sandbox.turnSandbox_ready, Option.map_map]
  calc
    (link.play b).map (fun x => (.ok x.1 : Except HostError (Answer TurnReport)))
      = ((link.play b).map (·.1)).map .ok := (Option.map_map _ _ _).symm
    _ = _ := by rw [played, Option.map_map]; rfl

/-- Only a session that is ready has a turn answered, and only by a reply of its guest. -/
theorem Reached.told_of_answered {capacity : Nat} {s next : Session (Sandbox σ)}
    (reached : s.Reached capacity) {b : Board} {answer : Answer TurnReport}
    (played : s.turnSandbox b = some (.ok answer, next)) :
    ∃ reply, s.link.decoded b = some reply ∧
      answer = Sandbox.told capacity reply (s.link.wrote b .stdout) (s.link.wrote b .stderr) := by
  cases phase : s.phase with
  | fresh =>
    rw [turnSandbox, turn, phase] at played
    cases played
  | faulted =>
    rw [turnSandbox, turn, phase] at played
    cases played
  | ready =>
    have told := reached.told phase b
    rw [played, Option.map_some] at told
    obtain ⟨reply, read, made⟩ := Option.map_eq_some_iff.mp told.symm
    exact ⟨reply, read, (Except.ok.inj made).symm⟩

/-- A turn is answered by the reply of the guest, with the lines that it has printed in the turn at
the end of the log, as far as their octets fit, and beside it what it has written to the other
stream. So two turns that are replied to alike are answered alike if those octets are the same,
whatever the two sessions have come through and whatever else they have written; of a failed turn
not even they matter. -/
theorem streams_never_leak {capacity : Nat} {s : Session (Sandbox σ)}
    (reached : s.Reached capacity) (ready : s.phase = .ready) (b : Board) :
    (s.turnSandbox b).map (·.1) = (s.link.decoded b).map (fun reply =>
      .ok {
        reply := reply.map fun report => { report with
          logs := report.logs ++
            Text.lines (Utf8.lossy ((s.link.wrote b .stdout).take capacity)) }
        diagnostics := Utf8.lossy ((s.link.wrote b .stderr).take capacity) }) ∧
    ∀ {τ : Type} {t : Session (Sandbox τ)} {c : Board} {answer other : Answer TurnReport}
      {next after}, t.Reached capacity → s.turnSandbox b = some (.ok answer, next) →
      t.turnSandbox c = some (.ok other, after) →
      (t.link.decoded c = s.link.decoded b →
        ((∃ report, s.link.decoded b = some (.ok report)) →
          (t.link.wrote c .stdout).take capacity = (s.link.wrote b .stdout).take capacity) →
        other.reply = answer.reply) ∧
      ((t.link.wrote c .stderr).take capacity = (s.link.wrote b .stderr).take capacity →
        other.diagnostics = answer.diagnostics) := by
  constructor
  · exact reached.told ready b
  · intro τ t c answer other next after elsewhere played turn
    obtain ⟨reply, read, rfl⟩ := reached.told_of_answered played
    obtain ⟨reply', read', rfl⟩ := elsewhere.told_of_answered turn
    constructor
    · intro alike printed
      obtain rfl : reply' = reply := Option.some.inj (read'.symm.trans (alike.trans read))
      cases reply' with
      | error e => simp only [Sandbox.told, Except.map]
      | ok report => rw [Sandbox.told, Sandbox.told, printed ⟨report, read⟩]
    · intro written
      rw [Sandbox.told, Sandbox.told, written]

/-! ## Two sessions -/

/-- A guest that writes some octets wherever it can: on both streams before its first turn, in that
turn, which traps, and on the other stream in later ones, in which it prints two lines. -/
def grumbler (octets : List UInt8) : Guest Bool where
  plan := some { pages := 1 }
  start := .callable (.print .stdout octets (.print .stderr octets (.done ())))
  reserve := .callable fun _ => .done 0
  address := .callable (.done 0)
  init := .callable <|
    let reply := Json.encode (.ok () : InitReply)
    .store 0 reply (.print .stdout octets (.done reply.length.toUInt32))
  turn := .callable <| .get fun again =>
    let reply := Json.encode (.ok {} : TurnReply)
    if again then
      .print .stdout [0x68] <| .print .stderr octets <|
        .print .stdout [0x69, 0x0A, 0x79, 0x6F, 0x0A] <|
        .store 0 reply (.done reply.length.toUInt32)
    else .set true (.print .stdout octets (.print .stderr octets .trap))
  own := false

/-- A session with that guest after its first turn. -/
def grumbling (octets : List UInt8) : Option (Session (Sandbox Bool)) :=
  match Sandbox.launch { capacity := 6 } (grumbler octets) with
  | .error _ => none
  | .ok s => after callSandbox s [.init [], .turn default]

theorem reached_grumbling {octets : List UInt8} {s : Session (Sandbox Bool)}
    (came : grumbling octets = some s) : s.Reached 6 := by
  unfold grumbling at came
  split at came
  · cases came
  · next launched => exact ⟨_, _, Sandbox.captures_launch launched, came⟩

theorem grumbling_ready (octets : List UInt8)
    (plays : (grumbling octets).map (fun s => (s.phase, s.link.decoded default,
      s.link.wrote default .stdout, s.link.wrote default .stderr)) =
      some (.ready, some (.ok {}), Utf8.encode "hi\nyo\n", octets)) :
    ∃ s, grumbling octets = some s ∧ s.phase = .ready ∧ s.link.decoded default = some (.ok {}) ∧
      s.link.wrote default .stdout = Utf8.encode "hi\nyo\n" ∧ s.link.wrote default .stderr = octets := by
  obtain ⟨s, came, found⟩ := Option.map_eq_some_iff.mp plays
  obtain ⟨phase, found⟩ := Prod.mk.inj found
  obtain ⟨decoded, found⟩ := Prod.mk.inj found
  obtain ⟨out, err⟩ := Prod.mk.inj found
  exact ⟨s, came, phase, decoded, out, err⟩

theorem streams_never_leak_grumbler :
    ∃ (loud quiet : Session (Sandbox Bool)) (answer other : Answer TurnReport)
      (next after : Session (Sandbox Bool)),
      grumbling (Utf8.encode "ouch, ouch") = some loud ∧ grumbling [] = some quiet ∧
      loud.turnSandbox default = some (.ok answer, next) ∧
      quiet.turnSandbox default = some (.ok other, after) ∧
      answer.reply = .ok { logs := ["hi", "yo"] } ∧ other.reply = answer.reply ∧
      answer.diagnostics = "ouch, " ∧ other.diagnostics = "" := by
  obtain ⟨loud, came, ready, decoded, out, err⟩ :=
    grumbling_ready (Utf8.encode "ouch, ouch") (by decide +kernel)
  obtain ⟨quiet, came', ready', decoded', out', err'⟩ :=
    grumbling_ready [] (by decide +kernel)
  have ⟨told, alike⟩ := streams_never_leak (reached_grumbling came) ready default
  have ⟨told', _⟩ := streams_never_leak (reached_grumbling came') ready' default
  rw [decoded, out, err] at told
  rw [decoded', out', err'] at told'
  obtain ⟨⟨answer', next⟩, played, is⟩ := Option.map_eq_some_iff.mp told
  obtain ⟨⟨other', after⟩, played', is'⟩ := Option.map_eq_some_iff.mp told'
  cases is
  cases is'
  have agree := alike (reached_grumbling came') played played'
  refine ⟨loud, quiet, _, _, next, after, came, came', played, played', ?_, ?_, ?_, ?_⟩
  · decide +kernel
  · exact agree.1 (decoded'.trans decoded.symm) fun _ => by rw [out, out']
  · decide +kernel
  · decide +kernel

end Session

end RobotTurn.Host
