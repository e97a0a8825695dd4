import RobotTurn.Proofs.Host.Exchange
import RobotTurn.Proofs.Host.Lines

/-! The life of a session. Both hosts keep one law of calls: turns wait for the first `init`, which
decides for good whether turns are played or refused, and no turn decides anything for a later one
(`session_lifecycle`). -/
namespace RobotTurn.Host

variable {π α : Type}

/-- A call on a session. -/
inductive Request (π : Type) where
  | init (payload : π)
  | turn (b : Board)

def Request.IsTurn : Request π → Prop
  | init _ => False
  | turn _ => True

/-- What a call comes back with. -/
inductive Reply where
  | init (answer : Except HostError (Answer Unit))
  | turn (answer : Except HostError (Answer TurnReport))

/-- What a call is answered with, and the session afterwards. -/
abbrev Handler (π α : Type) := Session α → Request π → Option (Reply × Session α)

/-- How a host starts a robot and plays a turn with it. Nothing comes of code that never ends. -/
structure Transport (π α : Type) where
  start : π → α → Option (Answer Unit × α)
  play : Board → α → Option (Answer TurnReport × α)

/-- The link after the turns among some calls. -/
def Transport.played (t : Transport π α) (link : α) : List (Request π) → Option α
  | [] => some link
  | .init _ :: calls => t.played link calls
  | .turn b :: calls => (t.play b link).bind fun x => t.played x.2 calls

namespace Session

/-- The session after some calls, if all of them come back. -/
def after (call : Handler π α) (s : Session α) : List (Request π) → Option (Session α)
  | [] => some s
  | r :: calls => (call s r).bind fun x => after call x.2 calls

theorem after_append (call : Handler π α) (s : Session α)
    (calls more : List (Request π)) :
    after call s (calls ++ more) = (after call s calls).bind fun s => after call s more := by
  induction calls generalizing s with
  | nil => rfl
  | cons r calls ih =>
    rw [List.cons_append, after, after, Option.bind_assoc]
    exact congrArg _ (funext fun x => ih x.2)

theorem init_begun {m : Type → Type} [Monad m] {s : Session α} (begun : s.phase ≠ .fresh)
    (start : α → m (Answer Unit × α)) : s.init start = pure (.error .alreadyInitialized, s) := by
  rw [init]
  split
  · next fresh => exact absurd fresh begun
  · rfl

end Session

/-- What one call comes to in each phase. -/
structure Gated (call : Handler π α) (t : Transport π α) : Prop where
  early : ∀ link b,
    call { phase := .fresh, link } (.turn b) =
      some (.turn (.error .notInitialized), { phase := .fresh, link })
  first : ∀ link p,
    call { phase := .fresh, link } (.init p) = (t.start p link).map fun x =>
      (.init (.ok x.1), { phase := .after x.1.reply, link := x.2 })
  again : ∀ s p, s.phase ≠ .fresh →
    call s (.init p) = some (.init (.error .alreadyInitialized), s)
  faulted : ∀ link b,
    call { phase := .faulted, link } (.turn b) =
      some (.turn (.error .faulted), { phase := .faulted, link })
  ready : ∀ link b,
    call { phase := .ready, link } (.turn b) = (t.play b link).map fun x =>
      (.turn (.ok x.1), { phase := .ready, link := x.2 })

/-- The law of calls on a session whose link was `link` at first. -/
structure Lifecycle (call : Handler π α) (t : Transport π α) (link : α) : Prop where
  /-- Turns before the first `init` are refused and leave the session as it was, so that the
  `init` starts the robot on its untouched link. -/
  waiting : ∀ before, (∀ r ∈ before, r.IsTurn) →
    Session.after call { link } before = some { link } ∧
    (∀ b, call { link } (.turn b) = some (.turn (.error .notInitialized), { link })) ∧
    ∀ p, call { link } (.init p) = (t.start p link).map fun x =>
      (.init (.ok x.1), { phase := .after x.1.reply, link := x.2 })
  /-- Once the first `init` has been answered with an error, every call is refused, whatever the
  calls before it were. -/
  failed : ∀ before p later answer left e, (∀ r ∈ before, r.IsTurn) →
    t.start p link = some (answer, left) → answer.reply = .error e →
    let s : Session α := { phase := .faulted, link := left }
    Session.after call { link } (before ++ .init p :: later) = some s ∧
    (∀ q, call s (.init q) = some (.init (.error .alreadyInitialized), s)) ∧
    ∀ b, call s (.turn b) = some (.turn (.error .faulted), s)
  /-- Once the first `init` has been answered well, every turn is played on the link that the turns
  before it have left, and every other `init` is refused. -/
  started : ∀ before p later answer left, (∀ r ∈ before, r.IsTurn) →
    t.start p link = some (answer, left) → answer.reply = .ok () →
    Session.after call { link } (before ++ .init p :: later) =
      (t.played left later).map (fun link => { phase := .ready, link }) ∧
    ∀ link, let s : Session α := { phase := .ready, link }
      (∀ q, call s (.init q) = some (.init (.error .alreadyInitialized), s)) ∧
      ∀ b, call s (.turn b) = (t.play b link).map fun x =>
        (.turn (.ok x.1), { phase := .ready, link := x.2 })

namespace Gated

variable {call : Handler π α} {t : Transport π α}

theorem after_turns (gated : Gated call t) (link : α) {calls : List (Request π)}
    (turns : ∀ r ∈ calls, r.IsTurn) : Session.after call { link } calls = some { link } := by
  induction calls with
  | nil => rfl
  | cons r calls ih =>
    cases r with
    | init p => exact absurd (turns _ List.mem_cons_self) id
    | turn b =>
      rw [Session.after, gated.early]
      exact ih fun r mem => turns r (List.mem_cons_of_mem _ mem)

theorem after_faulted (gated : Gated call t) (link : α) (calls : List (Request π)) :
    Session.after call { phase := .faulted, link } calls = some { phase := .faulted, link } := by
  induction calls with
  | nil => rfl
  | cons r calls ih =>
    cases r with
    | init p =>
      rw [Session.after, gated.again _ _ (by simp)]
      exact ih
    | turn b =>
      rw [Session.after, gated.faulted]
      exact ih

theorem after_ready (gated : Gated call t) (link : α) (calls : List (Request π)) :
    Session.after call { phase := .ready, link } calls =
      (t.played link calls).map fun link => { phase := .ready, link } := by
  induction calls generalizing link with
  | nil => rfl
  | cons r calls ih =>
    cases r with
    | init p =>
      rw [Session.after, gated.again _ _ (by simp)]
      exact ih link
    | turn b =>
      rw [Session.after, gated.ready, Transport.played]
      cases t.play b link with
      | none => rfl
      | some x => exact ih x.2

/-- Behind the first `init` a session goes on from what that has left. -/
theorem after_init (gated : Gated call t) {link left : α} {before : List (Request π)} {p : π}
    {answer : Answer Unit} (turns : ∀ r ∈ before, r.IsTurn)
    (came : t.start p link = some (answer, left)) (later : List (Request π)) :
    Session.after call { link } (before ++ .init p :: later) =
      Session.after call { phase := .after answer.reply, link := left } later := by
  rw [Session.after_append, gated.after_turns link turns, Option.bind_some, Session.after,
    gated.first, came]
  rfl

theorem lifecycle (gated : Gated call t) (link : α) : Lifecycle call t link where
  waiting before turns := ⟨gated.after_turns link turns, gated.early link, gated.first link⟩
  failed before p later answer left e turns came error := by
    refine ⟨?_, fun q => gated.again _ _ (by simp), gated.faulted left⟩
    rw [gated.after_init turns came, error]
    exact gated.after_faulted left later
  started before p later answer left turns came ok := by
    refine ⟨?_, fun link => ⟨fun q => gated.again _ _ (by simp), gated.ready link⟩⟩
    rw [gated.after_init turns came, ok]
    exact gated.after_ready left later

/-- What every start and every turn keeps of the link, every call keeps. -/
theorem keeps_call (gated : Gated call t) {holds : α → Prop}
    (start : ∀ p link x, holds link → t.start p link = some x → holds x.2)
    (play : ∀ b link x, holds link → t.play b link = some x → holds x.2)
    {s : Session α} {r : Request π} {x : Reply × Session α} (before : holds s.link)
    (came : call s r = some x) : holds x.2.link := by
  obtain ⟨phase, link⟩ := s
  cases r with
  | init p =>
    by_cases fresh : phase = .fresh
    · subst fresh
      rw [gated.first] at came
      obtain ⟨y, started, rfl⟩ := Option.map_eq_some_iff.mp came
      exact start p link y before started
    · rw [gated.again _ _ fresh] at came
      cases came
      exact before
  | turn b =>
    cases phase with
    | fresh =>
      rw [gated.early] at came
      cases came
      exact before
    | faulted =>
      rw [gated.faulted] at came
      cases came
      exact before
    | ready =>
      rw [gated.ready] at came
      obtain ⟨y, played, rfl⟩ := Option.map_eq_some_iff.mp came
      exact play b link y before played

theorem keeps_after (gated : Gated call t) {holds : α → Prop}
    (start : ∀ p link x, holds link → t.start p link = some x → holds x.2)
    (play : ∀ b link x, holds link → t.play b link = some x → holds x.2)
    {first s : Session α} {calls : List (Request π)} (before : holds first.link)
    (came : Session.after call first calls = some s) : holds s.link := by
  induction calls generalizing first with
  | nil =>
    cases came
    exact before
  | cons r calls ih =>
    rw [Session.after] at came
    obtain ⟨x, answered, came⟩ := Option.bind_eq_some_iff.mp came
    exact ih (gated.keeps_call start play before answered) came

end Gated

/-! ## Robots in a sandbox -/

namespace Session

variable {σ : Type}

def callSandbox : Handler (List UInt8) (Sandbox σ)
  | s, .init payload => (s.initSandbox payload).map fun x => (.init x.1, x.2)
  | s, .turn b => (s.turnSandbox b).map fun x => (.turn x.1, x.2)

theorem gated_callSandbox : Gated callSandbox (π := List UInt8) (α := Sandbox σ)
    { start := Sandbox.start, play := Sandbox.play } where
  early link b := rfl
  first link p := by
    simp only [callSandbox, initSandbox, Session.init]
    cases Sandbox.start p link <;> rfl
  again s p begun := by
    rw [callSandbox, initSandbox, init_begun begun]
    rfl
  faulted link b := rfl
  ready link b := by
    simp only [callSandbox, turnSandbox, Session.turn]
    cases Sandbox.play b link <;> rfl

end Session

/-- An answer for code, however it ends: a trap is an error of the robot, and so is a reply that
cannot be read. Only code that never ends has none. -/
inductive Halt.Answered {β : Type} [Json.Wire β] : Halt (List UInt8) → Option (Answer β × α) → Prop
  | hung : Answered .hung none
  | trapped (answer : Answer β) (left : α) (reply : answer.reply = .error .internal) :
      Answered .trapped (some (answer, left))
  | returned (bs : List UInt8) (answer : Answer β) (left : α)
      (reply : ∀ e, answer.reply = .error e ↔ (readReply bs : Except SessionError β) = .error e) :
      Answered (.returned bs) (some (answer, left))

theorem Halt.Answered.of_trapped {β : Type} [Json.Wire β] {given : Option (Answer β × α)}
    (answered : Halt.trapped.Answered given) :
    ∃ answer left, given = some (answer, left) ∧ answer.reply = .error .internal := by
  cases answered with
  | trapped answer left reply => exact ⟨answer, left, rfl, reply⟩

namespace Sandbox

variable {σ β : Type}

/-- The guest takes some course in a call, and whichever it takes, the call is answered for the way
in which that ends. -/
structure AnswersFor [Json.Wire β] (course : Halt (List UInt8) → Machine σ → Prop)
    (answer : Option (Answer β × α)) : Prop where
  taken : ∃ halt left, course halt left
  answered : ∀ halt left, course halt left → halt.Answered answer

/-- An answer that the host makes of an ended exchange. The host adds nothing to an error. -/
theorem answered_judge [Json.Wire β] {make : Except SessionError β → Answer β × α}
    (errors : ∀ reply e, (make reply).1.reply = .error e ↔ reply = .error e)
    (halt : Halt (List UInt8)) : halt.Answered ((judge halt).map make) := by
  cases halt with
  | returned bs => exact .returned bs _ _ (errors _)
  | trapped => exact .trapped _ _ ((errors _ _).mpr rfl)
  | hung => exact .hung

theorem answersFor_start (payload : List UInt8) (s : Sandbox σ) :
    AnswersFor (s.StartCourse payload) (s.start payload) where
  taken := ⟨_, _, (run_startCode_iff payload s _ _).mp rfl⟩
  answered halt left course := by
    rw [start_eq ((run_startCode_iff payload s halt left).mpr course)]
    exact answered_judge (fun _ _ => Iff.rfl) halt

theorem answersFor_play (b : Board) (s : Sandbox σ) :
    AnswersFor (Course s.entrances s.entrances.turn (Json.encode b) s.machine.silenced)
      (s.play b) where
  taken := exists_course _ _ _ _
  answered halt left course := by
    rw [play_eq course.run_eq]
    refine answered_judge (fun reply e => ?_) halt
    cases reply with
    | error f => rfl
    | ok report => exact ⟨nofun, nofun⟩

end Sandbox

/-! ## Robots over lines -/

namespace Session

def callChild : Handler Unit Child
  | s, .init () => some (.init s.initChild.1, s.initChild.2)
  | s, .turn b => some (.turn (s.turnChild b).1, (s.turnChild b).2)

theorem gated_callChild : Gated callChild
    { start := fun _ c => some c.start, play := fun b c => some (c.play b) } where
  early link b := rfl
  first link p := rfl
  again s p begun := by
    rw [callChild, initChild, init_begun begun]
    rfl
  faulted link b := rfl
  ready link b := rfl

end Session

namespace Child

/-- Why the start is answered with an error. -/
inductive StartFails : List (Except StreamError (List UInt8)) → SessionError → Prop
  | ended : StartFails [] .noData
  | unreadable {raw : Except StreamError (List UInt8)} {e : StreamError}
      (fault : lineText raw = .error e) (rest : List (Except StreamError (List UInt8))) :
      StartFails (raw :: rest) (.io e.message)
  | unmarked {raw : Except StreamError (List UInt8)} {line : List UInt8}
      (text : lineText raw = .ok line) (stray : body? .init line = none)
      (rest : List (Except StreamError (List UInt8))) : StartFails (raw :: rest) .noInit
  | told {raw : Except StreamError (List UInt8)} {line body : List UInt8} {e : SessionError}
      (text : lineText raw = .ok line) (marked : body? .init line = some body)
      (reply : (readReply body : InitReply) = .error e)
      (rest : List (Except StreamError (List UInt8))) : StartFails (raw :: rest) e

/-- Why a turn is answered with an error, once its request is written. -/
inductive TurnFails : List (Except StreamError (List UInt8)) → SessionError → Prop
  | ended : TurnFails [] .noData
  | unreadable {raw : Except StreamError (List UInt8)} {e : StreamError}
      (fault : lineText raw = .error e) (rest : List (Except StreamError (List UInt8))) :
      TurnFails (raw :: rest) (.io e.message)
  | stray {raw : Except StreamError (List UInt8)} {line : List UInt8}
      {rest : List (Except StreamError (List UInt8))} {e : SessionError}
      (text : lineText raw = .ok line) (stray : body? .output line = none)
      (later : TurnFails rest e) : TurnFails (raw :: rest) e
  | told {raw : Except StreamError (List UInt8)} {line body : List UInt8} {e : SessionError}
      (text : lineText raw = .ok line) (marked : body? .output line = some body)
      (reply : (readReply body : TurnReply) = .error e)
      (rest : List (Except StreamError (List UInt8))) : TurnFails (raw :: rest) e

theorem start_error_iff (c : Child) (e : SessionError) :
    c.start.1.reply = .error e ↔ StartFails c.incoming e := by
  rw [start]
  generalize c.incoming = incoming
  constructor
  · intro failed
    cases incoming with
    | nil =>
      cases failed
      exact .ended
    | cons raw rest =>
      cases text : lineText raw with
      | error fault =>
        simp only [text] at failed
        cases failed
        exact .unreadable text rest
      | ok line =>
        cases marked : body? .init line with
        | none =>
          simp only [text, marked] at failed
          cases failed
          exact .unmarked text marked rest
        | some body =>
          simp only [text, marked] at failed
          exact .told text marked failed rest
  · intro fails
    cases fails with
    | ended => rfl
    | unreadable fault rest => simp only [fault]
    | unmarked text stray rest => simp only [text, stray]
    | told text marked reply rest => simp only [text, marked, reply]

theorem await_error_iff (noted : List String) (lines : List (Except StreamError (List UInt8)))
    (e : SessionError) : (await noted lines).1 = .error e ↔ TurnFails lines e := by
  constructor
  · intro failed
    induction lines generalizing noted with
    | nil =>
      cases failed
      exact .ended
    | cons raw rest ih =>
      cases text : lineText raw with
      | error fault =>
        simp only [await, text] at failed
        cases failed
        exact .unreadable text rest
      | ok line =>
        cases marked : body? .output line with
        | none =>
          simp only [await, text, marked] at failed
          exact .stray text marked (ih _ failed)
        | some body =>
          simp only [await, text, marked] at failed
          cases reply : (readReply body : TurnReply) with
          | error f =>
            rw [reply] at failed
            cases failed
            exact .told text marked reply rest
          | ok r =>
            rw [reply] at failed
            cases failed
  · intro fails
    induction fails generalizing noted with
    | ended => rfl
    | unreadable fault rest => simp only [await, fault]
    | stray text stray _ ih => simp only [await, text, stray, ih]
    | told text marked reply rest =>
      simp only [await, text, marked, reply]
      rfl

/-- A turn is answered with an error exactly if its request cannot be written or what follows in
the stream is no report. -/
theorem play_error_iff (c : Child) (b : Board) (e : SessionError) :
    (c.play b).1.reply = .error e ↔
      match c.refuses c.asked (request b) with
      | some fault => e = .io fault.message
      | none => TurnFails c.incoming e := by
  rw [play]
  cases c.refuses c.asked (request b) with
  | some fault => simp [eq_comm]
  | none => exact await_error_iff [] c.incoming e

end Child

/-- One law holds for sessions with robots in a sandbox and over lines, whatever these do. What
goes wrong with a robot is told in the answer to the call in which it goes wrong. In a sandbox that
is a trap or an unreadable reply at the end of the course that the guest takes, and over lines a
refused request, the end of the stream, and a line that is no text or no reply. -/
theorem session_lifecycle {σ : Type} :
    (∀ s : Sandbox σ,
      Lifecycle Session.callSandbox { start := Sandbox.start, play := Sandbox.play } s ∧
      (∀ payload, Sandbox.AnswersFor (s.StartCourse payload) (s.start payload)) ∧
      ∀ b, Sandbox.AnswersFor
        (Sandbox.Course s.entrances s.entrances.turn (Json.encode b) s.machine.silenced)
        (s.play b)) ∧
    ∀ c : Child,
      Lifecycle Session.callChild
        { start := fun _ c => some c.start, play := fun b c => some (c.play b) } c ∧
      (∀ e, c.start.1.reply = .error e ↔ Child.StartFails c.incoming e) ∧
      ∀ b e, (c.play b).1.reply = .error e ↔
        match c.refuses c.asked (Child.request b) with
        | some fault => e = .io fault.message
        | none => Child.TurnFails c.incoming e :=
  ⟨fun s => ⟨Session.gated_callSandbox.lifecycle s, fun payload => s.answersFor_start payload,
      fun b => s.answersFor_play b⟩,
    fun c => ⟨Session.gated_callChild.lifecycle c, c.start_error_iff, c.play_error_iff⟩⟩

/-! ## Three sessions -/

/-- A robot in a sandbox whose code traps wherever it is called. -/
def trapping : Sandbox Unit where
  entrances :=
    { start := none, reserve := fun _ => .trap, init := .trap, turn := .trap, address := .trap }
  machine :=
    { memory := .zero 0, table := 0, quota := { maxMemory := 0 }, stdout := { capacity := 0 }
      stderr := { capacity := 0 }, environment := [], own := () }

/-- A robot in a sandbox that starts, traps in its first turn and answers the later ones. -/
def stumbling : Sandbox Bool where
  entrances :=
    let tell (reply : List UInt8) := Code.store 0 reply (.done reply.length.toUInt32)
    { start := none, reserve := fun _ => .done 0, address := .done 0
      init := tell (Json.encode (.ok () : InitReply))
      turn := .get fun again =>
        if again then tell (Json.encode (.ok {} : TurnReply)) else .set true .trap }
  machine :=
    { memory := .zero 1, table := 0, quota := { maxMemory := Memory.page }
      stdout := { capacity := 0 }, stderr := { capacity := 0 }, environment := [], own := false }

/-- A robot over lines that starts and then ends its output. -/
def starting : Child where
  incoming := [.ok (LineRobot.line .init (.ok () : InitReply))]

/-- The replies of that robot: to its start, and to a turn behind another one. -/
theorem stumbling_plays : ∃ answer left trapped link told next,
    stumbling.start [] = some (answer, left) ∧ answer.reply = .ok () ∧
      left.play default = some (trapped, link) ∧ trapped.reply = .error .internal ∧
      link.play default = some (told, next) ∧ told.reply = .ok {} := by
  obtain ⟨⟨answer, left⟩, start, found⟩ := Option.map_eq_some_iff.mp (by decide +kernel :
    (stumbling.start []).map (fun x => (x.1.reply, (x.2.play default).map fun y =>
      (y.1.reply, (y.2.play default).map (·.1.reply)))) =
        some (.ok (), some (.error .internal, some (.ok {}))))
  obtain ⟨ok, found⟩ := Prod.mk.inj found
  obtain ⟨⟨trapped, link⟩, first, found⟩ := Option.map_eq_some_iff.mp found
  obtain ⟨error, found⟩ := Prod.mk.inj found
  obtain ⟨⟨told, next⟩, second, report⟩ := Option.map_eq_some_iff.mp found
  exact ⟨answer, left, trapped, link, told, next, start, ok, first, error, second, report⟩

/-- The trap in `init` ends the first session. The other two survive their turns, of which the
second session plays one well after a trap. -/
theorem session_lifecycle_trapping :
    (∃ left, let s : Session (Sandbox Unit) := { phase := .faulted, link := left }
      Session.after Session.callSandbox { link := trapping }
        [.turn default, .init [], .turn default] = some s ∧
      Session.callSandbox s (.turn default) = some (.turn (.error .faulted), s)) ∧
    (∃ left, let s : Session (Sandbox Bool) := { phase := .ready, link := left }
      Session.after Session.callSandbox { link := stumbling }
        [.turn default, .init [], .turn default, .init []] = some s ∧
      Session.callSandbox s (.init []) = some (.init (.error .alreadyInitialized), s) ∧
      ∃ answer next, Session.callSandbox s (.turn default) =
          some (.turn (.ok answer), { phase := .ready, link := next }) ∧
        answer.reply = .ok {}) ∧
    ∃ left, let s : Session Child := { phase := .ready, link := left }
      Session.after Session.callChild { link := starting }
        [.turn default, .init (), .init (), .turn default] = some s ∧
      Session.callChild s (.init ()) = some (.init (.error .alreadyInitialized), s) ∧
      ((Session.callChild s (.turn default)).map (·.1)) =
        some (.turn (.ok { reply := .error .noData })) := by
  have turns (π : Type) : ∀ r ∈ [(.turn default : Request π)], r.IsTurn := by
    intro r mem
    obtain rfl := List.mem_singleton.mp mem
    trivial
  refine ⟨?_, ?_, ?_⟩
  · obtain ⟨law, starts, -⟩ := (session_lifecycle (σ := Unit)).1 trapping
    have stopped : trapping.StartCourse [] .trapped trapping.machine :=
      .plain rfl (.unreserved (by decide) rfl .trapped)
    obtain ⟨answer, left, came, reply⟩ := ((starts []).answered _ _ stopped).of_trapped
    obtain ⟨after, -, refused⟩ := law.failed [.turn default] [] [.turn default] _ _ .internal
      (turns _) came reply
    exact ⟨_, after, refused default⟩
  · obtain ⟨answer, left, trapped, link, told, next, start, ok, first, -, second, report⟩ :=
      stumbling_plays
    obtain ⟨law, -⟩ := (session_lifecycle (σ := Bool)).1 stumbling
    obtain ⟨came, after⟩ := law.started [.turn default] [] [.turn default, .init []] _ _ (turns _)
      start ok
    obtain ⟨again, played⟩ := after link
    have behind : Transport.played (π := List UInt8)
        { start := Sandbox.start, play := Sandbox.play } left [.turn default, .init []] =
          some link := Option.bind_eq_some_iff.mpr ⟨_, first, rfl⟩
    refine ⟨link, ?_, again [], told, next, ?_, report⟩
    · rw [← List.singleton_append, came, behind]
      rfl
    · exact (played default).trans (congrArg (Option.map _) second)
  · obtain ⟨law, -⟩ := (session_lifecycle (σ := Unit)).2 starting
    have begun : starting.start = ({ reply := .ok () }, { incoming := [] }) :=
      Child.start_line (.ok ()) []
    obtain ⟨came, after⟩ := law.started [.turn default] () [.init (), .turn default] _ _ (turns _)
      (congrArg some begun) rfl
    obtain ⟨again, played⟩ := after _
    exact ⟨_, came, again (), congrArg (Option.map Prod.fst) (played default)⟩

end RobotTurn.Host
