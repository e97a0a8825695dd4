import Mathlib.Logic.ExistsUnique
import Mathlib.Tactic.Common
import RobotTurn.Host.Sandbox
import RobotTurn.Proofs.Host.Code

/-! One exchange with a guest. The host asks for room, writes the request there, calls the entry
and reads the reply from where the guest says it lies. Whatever the guest does at each of these
steps, the exchange takes exactly one course, and the course decides the answer
(`exchange_classified`). -/
namespace RobotTurn.Host

variable {σ α β : Type}

/-! ## The courses of an exchange -/

namespace Sandbox

/-- The machine once the request has been written to the room that the guest gave for it. -/
inductive Posted (e : Entrances σ) (request : List UInt8) (m : Machine σ) : Machine σ → Prop
  | intro {room : UInt32} {reserved : Machine σ} {memory : Memory}
      (short : request.length < 2 ^ 32)
      (given : (e.reserve request.length.toUInt32).run m = (.returned room, reserved))
      (written : reserved.memory.Overwritten room.toNat request memory) :
      Posted e request m { reserved with memory }

/-- How an exchange ends, and the machine that it leaves. -/
inductive Course (e : Entrances σ) (entry : Code σ UInt32) (request : List UInt8)
    (m : Machine σ) : Halt (List UInt8) → Machine σ → Prop
  /-- The request is too long for a memory. Nothing of the guest has run. -/
  | oversized (long : 2 ^ 32 ≤ request.length) : Course e entry request m .trapped m
  | unreserved {h : Halt UInt32} {halt : Halt (List UInt8)} {left : Machine σ}
      (short : request.length < 2 ^ 32)
      (asked : (e.reserve request.length.toUInt32).run m = (h, left)) (stop : h.Passes halt) :
      Course e entry request m halt left
  /-- The room reaches beyond the memory. Nothing is written and the entry is not called. -/
  | outside {room : UInt32} {left : Machine σ} (short : request.length < 2 ^ 32)
      (given : (e.reserve request.length.toUInt32).run m = (.returned room, left))
      (beyond : left.memory.size < room.toNat + request.length) :
      Course e entry request m .trapped left
  | stopped {posted : Machine σ} {h : Halt UInt32} {halt : Halt (List UInt8)} {left : Machine σ}
      (post : Posted e request m posted) (called : entry.run posted = (h, left))
      (stop : h.Passes halt) : Course e entry request m halt left
  | unplaced {posted mid : Machine σ} {length : UInt32} {h : Halt UInt32}
      {halt : Halt (List UInt8)} {left : Machine σ} (post : Posted e request m posted)
      (called : entry.run posted = (.returned length, mid))
      (asked : e.address.run mid = (h, left)) (stop : h.Passes halt) :
      Course e entry request m halt left
  /-- The reply reaches beyond the memory, at the size that it has by then. -/
  | unreadable {posted mid left : Machine σ} {length address : UInt32}
      (post : Posted e request m posted) (called : entry.run posted = (.returned length, mid))
      (placed : e.address.run mid = (.returned address, left))
      (beyond : left.memory.size < address.toNat + length.toNat) :
      Course e entry request m .trapped left
  /-- The reply is what lies in the memory by the time its address is known. -/
  | replied {posted mid left : Machine σ} {length address : UInt32} {bs : List UInt8}
      (post : Posted e request m posted) (called : entry.run posted = (.returned length, mid))
      (placed : e.address.run mid = (.returned address, left))
      (whole : bs.length = length.toNat) (holds : left.memory.Holds address.toNat bs) :
      Course e entry request m (.returned bs) left

/-- An exchange once its request has been written. -/
def answering (e : Entrances σ) (entry : Code σ UInt32) : Code σ (List UInt8) := do
  let length ← entry
  let address ← e.address
  .load address.toNat length.toNat .done

theorem exchange_oversized {request : List UInt8} (long : 2 ^ 32 ≤ request.length)
    (e : Entrances σ) (entry : Code σ UInt32) (m : Machine σ) :
    (exchange e entry request).run m = (.trapped, m) := by
  rw [exchange, if_pos long]
  rfl

theorem exchange_short {request : List UInt8} (short : request.length < 2 ^ 32)
    (e : Entrances σ) (entry : Code σ UInt32) :
    exchange e entry request = e.reserve request.length.toUInt32 >>= fun room =>
      .store room.toNat request (answering e entry) := by
  rw [exchange, if_neg (Nat.not_le.mpr short)]
  rfl

theorem exchange_posted {e : Entrances σ} {request : List UInt8} {m posted : Machine σ}
    (post : Posted e request m posted) (entry : Code σ UInt32) :
    (exchange e entry request).run m = (answering e entry).run posted := by
  obtain ⟨short, given, written⟩ := post
  rw [exchange_short short, Code.run_bind_returned given, Code.run,
    (Memory.write?_eq_some_iff _ _ _ _).mpr written]

theorem load_returned_iff (m left : Machine σ) (address length : Nat) (bs : List UInt8) :
    (Code.load address length .done : Code σ (List UInt8)).run m = (.returned bs, left) ↔
      left = m ∧ bs.length = length ∧ m.memory.Holds address bs := by
  rw [← Memory.read?_eq_some_iff, Code.run]
  cases m.memory.read? address length with
  | none => simp
  | some cs => simp [Code.run, and_comm, eq_comm]

theorem load_trapped {m : Machine σ} {address length : Nat}
    (beyond : m.memory.size < address + length) :
    (Code.load address length .done : Code σ (List UInt8)).run m = (.trapped, m) := by
  rw [Code.run, (Memory.read?_eq_none_iff _ _ _).mpr beyond]

/-- An exchange ends as its course does. -/
theorem Course.run_eq {e : Entrances σ} {entry : Code σ UInt32} {request : List UInt8}
    {m left : Machine σ} {halt : Halt (List UInt8)}
    (course : Course e entry request m halt left) :
    (exchange e entry request).run m = (halt, left) := by
  cases course with
  | oversized long => exact exchange_oversized long e entry m
  | unreserved short asked stop =>
    rw [exchange_short short]
    exact Code.run_bind_stopped asked stop _
  | outside short given beyond =>
    rw [exchange_short short, Code.run_bind_returned given, Code.run,
      (Memory.write?_eq_none_iff _ _ _).mpr beyond]
  | stopped post called stop =>
    rw [exchange_posted post]
    exact Code.run_bind_stopped called stop _
  | unplaced post called asked stop =>
    rw [exchange_posted post, answering, Code.run_bind_returned called]
    exact Code.run_bind_stopped asked stop _
  | unreadable post called placed beyond =>
    rw [exchange_posted post, answering, Code.run_bind_returned called,
      Code.run_bind_returned placed]
    exact load_trapped beyond
  | replied post called placed whole holds =>
    rw [exchange_posted post, answering, Code.run_bind_returned called,
      Code.run_bind_returned placed]
    exact (load_returned_iff _ _ _ _ _).mpr ⟨rfl, whole, holds⟩

/-- Whatever the guest does, its exchange takes one of the courses. -/
theorem exists_course (e : Entrances σ) (entry : Code σ UInt32) (request : List UInt8)
    (m : Machine σ) : ∃ halt left, Course e entry request m halt left := by
  by_cases long : 2 ^ 32 ≤ request.length
  · exact ⟨_, _, .oversized long⟩
  have short : request.length < 2 ^ 32 := Nat.lt_of_not_le long
  rcases Code.returns_or_stops (e.reserve request.length.toUInt32) m with
    ⟨room, reserved, given⟩ | ⟨h, halt, left, asked, stop⟩
  swap
  · exact ⟨halt, left, .unreserved short asked stop⟩
  cases write : reserved.memory.write? room.toNat request with
  | none => exact ⟨_, _, .outside short given ((Memory.write?_eq_none_iff _ _ _).mp write)⟩
  | some memory =>
    have post : Posted e request m { reserved with memory } :=
      .intro short given ((Memory.write?_eq_some_iff _ _ _ _).mp write)
    rcases Code.returns_or_stops entry { reserved with memory } with
      ⟨length, mid, called⟩ | ⟨h, halt, left, called, stop⟩
    swap
    · exact ⟨halt, left, .stopped post called stop⟩
    rcases Code.returns_or_stops e.address mid with
      ⟨address, left, placed⟩ | ⟨h, halt, left, asked, stop⟩
    swap
    · exact ⟨halt, left, .unplaced post called asked stop⟩
    cases read : left.memory.read? address.toNat length.toNat with
    | none =>
      exact ⟨_, _, .unreadable post called placed ((Memory.read?_eq_none_iff _ _ _).mp read)⟩
    | some bs =>
      obtain ⟨whole, holds⟩ := (Memory.read?_eq_some_iff _ _ _ _).mp read
      exact ⟨_, _, .replied post called placed whole holds⟩

/-- An exchange takes exactly one course, and ends as that does. -/
theorem run_exchange_iff (e : Entrances σ) (entry : Code σ UInt32) (request : List UInt8)
    (m : Machine σ) (halt : Halt (List UInt8)) (left : Machine σ) :
    (exchange e entry request).run m = (halt, left) ↔ Course e entry request m halt left := by
  constructor
  · intro ran
    obtain ⟨halt', left', course⟩ := exists_course e entry request m
    have same := course.run_eq
    rw [ran] at same
    cases same
    exact course
  · exact Course.run_eq

end Sandbox

/-! ## Answers -/

namespace Machine

/-- The machine on which a turn is played: its streams are empty. -/
def silenced (m : Machine σ) : Machine σ :=
  { m with stdout := m.stdout.clear, stderr := m.stderr.clear }

/-- A machine after its streams have been read, the lines printed only if they were wanted. -/
def drained (m : Machine σ) (lines : Bool) : Machine σ :=
  { m with stdout := if lines then m.stdout.clear else m.stdout, stderr := m.stderr.clear }

end Machine

namespace Sandbox

/-- How a guest comes through its start: by its own code first, if it has any for that. -/
inductive StartCourse (s : Sandbox σ) (payload : List UInt8) :
    Halt (List UInt8) → Machine σ → Prop
  | plain {halt : Halt (List UInt8)} {left : Machine σ} (absent : s.entrances.start = none)
      (course : Course s.entrances s.entrances.init payload s.machine halt left) :
      StartCourse s payload halt left
  | stopped {code : Code σ Unit} {h : Halt Unit} {halt : Halt (List UInt8)} {left : Machine σ}
      (present : s.entrances.start = some code) (called : code.run s.machine = (h, left))
      (stop : h.Passes halt) : StartCourse s payload halt left
  | started {code : Code σ Unit} {begun : Machine σ} {halt : Halt (List UInt8)}
      {left : Machine σ} (present : s.entrances.start = some code)
      (called : code.run s.machine = (.returned (), begun))
      (course : Course s.entrances s.entrances.init payload begun halt left) :
      StartCourse s payload halt left

/-- The code that starts a guest. -/
def startCode (payload : List UInt8) (s : Sandbox σ) : Code σ (List UInt8) := do
  s.entrances.start.getD (pure ())
  exchange s.entrances s.entrances.init payload

theorem run_startCode_iff (payload : List UInt8) (s : Sandbox σ) (halt : Halt (List UInt8))
    (left : Machine σ) :
    (s.startCode payload).run s.machine = (halt, left) ↔ s.StartCourse payload halt left := by
  rw [startCode]
  cases start : s.entrances.start with
  | none =>
    rw [Option.getD_none]
    constructor
    · intro ran
      exact .plain start ((run_exchange_iff _ _ _ _ _ _).mp ran)
    · intro course
      cases course with
      | plain absent course => exact course.run_eq
      | stopped present => rw [start] at present; cases present
      | started present => rw [start] at present; cases present
  | some code =>
    rw [Option.getD_some]
    constructor
    · intro ran
      rcases Code.returns_or_stops code s.machine with
        ⟨_, begun, called⟩ | ⟨h, halt', left', called, stop⟩
      · rw [Code.run_bind_returned called] at ran
        exact .started start called ((run_exchange_iff _ _ _ _ _ _).mp ran)
      · rw [Code.run_bind_stopped called stop] at ran
        cases ran
        exact .stopped start called stop
    · intro course
      cases course with
      | plain absent => rw [start] at absent; cases absent
      | stopped present called stop =>
        rw [start] at present
        cases present
        exact Code.run_bind_stopped called stop _
      | started present called course =>
        rw [start] at present
        cases present
        rw [Code.run_bind_returned called]
        exact course.run_eq

theorem play_eq {b : Board} {s : Sandbox σ} {halt : Halt (List UInt8)} {left : Machine σ}
    (ran : (exchange s.entrances s.entrances.turn (Json.encode b)).run s.machine.silenced =
      (halt, left)) :
    s.play b = (judge halt).map fun reply : TurnReply =>
      ({ reply := reply.map (TurnReport.noting · (takeLines left).1)
         diagnostics := (takeStderr left).1 },
        { s with machine := left.drained reply.isOk }) := by
  rw [Machine.silenced] at ran
  rw [play, ran]
  dsimp only
  cases (judge halt : Option TurnReply) with
  | none => rfl
  | some reply => cases reply <;> rfl

theorem start_eq {payload : List UInt8} {s : Sandbox σ} {halt : Halt (List UInt8)}
    {left : Machine σ} (ran : (s.startCode payload).run s.machine = (halt, left)) :
    s.start payload = (judge halt).map fun reply : InitReply =>
      ({ reply, diagnostics := (takeStderr left).1 },
        { s with machine := left.drained true }) := by
  rw [startCode] at ran
  rw [start, ran]
  dsimp only
  cases (judge halt : Option InitReply) <;> rfl

/-- What a call comes back with, by the course that its exchange takes. But for its streams the
machine stays as the course has left it. A reply that has been read is the one that its octets
hold, with `add` added to it by the host. -/
structure Classified [Json.Wire α] (s : Sandbox σ)
    (course : Halt (List UInt8) → Machine σ → Prop)
    (call : Option (Except HostError (Answer α) × Session (Sandbox σ)))
    (add : Machine σ → α → α) : Prop where
  one : ∃! ending : Halt (List UInt8) × Machine σ, course ending.1 ending.2
  hung : ∀ left, course .hung left → call = none
  trapped : ∀ left, course .trapped left → ∃ answer after lines, call = some (.ok answer, after) ∧
    after.link = { s with machine := left.drained lines } ∧ answer.reply = .error .internal
  returned : ∀ bs left, course (.returned bs) left → ∃ answer after lines,
    call = some (.ok answer, after) ∧ after.link = { s with machine := left.drained lines } ∧
    (∀ refusal, Json.decode (Except SessionError α) bs = .error refusal →
      answer.reply = .error (.badData refusal.message)) ∧
    ∀ reply, Json.decode (Except SessionError α) bs = .ok reply →
      answer.reply = reply.map (add left)

/-- A call whose answer is made of what its exchange ends with is classified by the course of
that. -/
theorem classified_of_runs [Json.Wire α] {s : Sandbox σ} {code : Code σ (List UInt8)}
    {m : Machine σ} {course : Halt (List UInt8) → Machine σ → Prop}
    {call : Option (Except HostError (Answer α) × Session (Sandbox σ))} {add : Machine σ → α → α}
    (runs : ∀ halt left, code.run m = (halt, left) ↔ course halt left)
    (silent : ∀ left, code.run m = (.hung, left) → call = none)
    (answers : ∀ halt left (reply : Except SessionError α), code.run m = (halt, left) →
      judge halt = some reply → ∃ answer after lines, call = some (.ok answer, after) ∧
        after.link = { s with machine := left.drained lines } ∧
        answer.reply = reply.map (add left)) :
    Classified s course call add where
  one := by
    refine ⟨code.run m, (runs _ _).mp rfl, ?_⟩
    rintro ⟨halt, left⟩ taken
    exact ((runs halt left).mpr taken).symm
  hung left taken := silent left ((runs _ _).mpr taken)
  trapped left taken := answers _ left (.error .internal) ((runs _ _).mpr taken) rfl
  returned bs left taken := by
    obtain ⟨answer, after, lines, came, machine, reply⟩ :=
      answers _ left (readReply bs) ((runs _ _).mpr taken) rfl
    refine ⟨answer, after, lines, came, machine, fun refusal refused => ?_, fun told decoded => ?_⟩
    · rw [reply, readReply, refused]
      rfl
    · rw [reply, readReply, decoded]

theorem turnSandbox_ready (s : Sandbox σ) (b : Board) :
    Session.turnSandbox { phase := .ready, link := s } b =
      (s.play b).map fun x => (.ok x.1, { phase := .ready, link := x.2 }) := by
  rw [Session.turnSandbox, Session.turn]
  cases s.play b <;> rfl

theorem initSandbox_fresh (s : Sandbox σ) (payload : List UInt8) :
    Session.initSandbox { link := s } payload =
      (s.start payload).map fun x => (.ok x.1, { phase := .after x.1.reply, link := x.2 }) := by
  rw [Session.initSandbox, Session.init]
  cases s.start payload <;> rfl

/-- Exchanges with a guest are classified: those of turns on a session that is ready, with the
lines printed at the end of the log, and the start of a fresh session. -/
theorem exchange_classified (s : Sandbox σ) :
    (∀ b, Classified s
      (Course s.entrances s.entrances.turn (Json.encode b) s.machine.silenced)
      (Session.turnSandbox { phase := .ready, link := s } b)
      fun left => (TurnReport.noting · (takeLines left).1)) ∧
    ∀ payload, Classified s (s.StartCourse payload)
      (Session.initSandbox { link := s } payload) fun _ => id := by
  constructor
  · intro b
    apply classified_of_runs (run_exchange_iff _ _ _ _)
    · intro left ran
      rw [turnSandbox_ready, play_eq ran]
      rfl
    · intro halt left reply ran judged
      rw [turnSandbox_ready, play_eq ran, judged]
      exact ⟨_, _, reply.isOk, rfl, rfl, rfl⟩
  · intro payload
    apply classified_of_runs (run_startCode_iff payload s)
    · intro left ran
      rw [initSandbox_fresh, start_eq ran]
      rfl
    · intro halt left reply ran judged
      rw [initSandbox_fresh, start_eq ran, judged]
      exact ⟨_, _, true, rfl, rfl, by cases reply <;> rfl⟩

/-! ## Two guests -/

/-- A guest that wants its request at one address, and in a turn prints a line and answers from
the start of its memory. -/
def answerer (room : UInt32) (reply : List UInt8) : Sandbox Unit where
  entrances :=
    { start := none, reserve := fun _ => .done room, init := .trap, address := .done 0
      turn := .print .stdout [0x68, 0x69] (.store 0 reply (.done reply.length.toUInt32)) }
  machine :=
    { memory := .zero 1, table := 0, quota := { maxMemory := Memory.page }
      stdout := { capacity := 16 }, stderr := { capacity := 16 }, environment := [], own := () }

theorem exchange_classified_answerer :
    (∃ answer after lines, let s := answerer 65536 []
      Session.turnSandbox { phase := .ready, link := s } default = some (.ok answer, after) ∧
      after.link = { s with machine := s.machine.silenced.drained lines } ∧
      answer.reply = .error .internal) ∧
    ∃ answer after, Session.turnSandbox
        { phase := .ready
          link := answerer 0 (Json.encode (.ok { logs := ["one"] } : TurnReply)) } default =
      some (.ok answer, after) ∧ answer.reply = .ok { logs := ["one", "hi"] } := by
  have short : (Json.encode (default : Board)).length < 2 ^ 32 := by decide +kernel
  refine ⟨?_, ?_⟩
  · have turn := (exchange_classified (answerer 65536 [])).1 default
    refine turn.trapped _ (.outside short rfl ?_)
    decide +kernel
  · have turn := (exchange_classified
      (answerer 0 (Json.encode (.ok { logs := ["one"] } : TurnReply)))).1 default
    obtain ⟨answer, after, -, came, -, -, told⟩ := turn.returned _ _
      ((run_exchange_iff _ _ _ _ _ _).mp rfl)
    refine ⟨answer, after, came, ?_⟩
    rw [told (.ok { logs := ["one"] }) (by decide +kernel)]
    rfl

end Sandbox

end RobotTurn.Host
