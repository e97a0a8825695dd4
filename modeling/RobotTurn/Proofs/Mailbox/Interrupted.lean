import RobotTurn.Proofs.Mailbox
import RobotTurn.Proofs.Runner.Order

/-! Sessions whose calls may be cut short anywhere: while a board is read, inside a call of the
robot, or while a reply is written. Wherever that happens, the calls of the robot stay in their
order (`init_comes_first`). -/
namespace RobotTurn.Mailbox

open EntryPoint (initName)

variable {σ : Type}

/-- A turn that is asked for: what the buffer holds, and where the call is cut short, if it
is. -/
structure Attempt where
  document : List UInt8
  cut : Option Cut := none

namespace Attempt

/-- A turn whose board is read. -/
def Asks (a : Attempt) (b : Board) : Prop :=
  Json.decode Board a.document = .ok b ∧ a.cut ≠ some .reading

/-- A turn whose reply is not cut short. -/
def Written (a : Attempt) : Prop := ∀ n, a.cut ≠ some (.replying n)

end Attempt

def attempt (m : Mailbox σ) (a : Attempt) : Exchange σ :=
  { m with buffer := a.document }.turn a.cut

/-- The session after some turns. -/
def tried (m : Mailbox σ) (as : List Attempt) : Mailbox σ :=
  as.foldl (fun m a => (m.attempt a).mailbox) m

/-- The calls of the robot in some turns. -/
def calls (m : Mailbox σ) : List Attempt → List Call
  | [] => []
  | a :: as => (m.attempt a).calls ++ (m.attempt a).mailbox.calls as

theorem tried_append (m : Mailbox σ) (as bs : List Attempt) :
    m.tried (as ++ bs) = (m.tried as).tried bs := List.foldl_append

theorem calls_append (m : Mailbox σ) (as bs : List Attempt) :
    m.calls (as ++ bs) = m.calls as ++ (m.tried as).calls bs := by
  induction as generalizing m with
  | nil => rfl
  | cons a as ih =>
    rw [List.cons_append, calls, calls, ih, List.append_assoc]
    rfl

/-! ## One turn -/

theorem runner_answer (m : Mailbox σ) (cut : Option Cut) (reply : List UInt8) :
    (answer m cut reply).2.runner = m.runner := by
  rcases cut with _ | _ | n
  · rfl
  · rfl
  · rfl

theorem answer_whole {cut : Option Cut} (whole : ∀ n, cut ≠ some (.replying n)) (m : Mailbox σ)
    (reply : List UInt8) :
    answer m cut reply = (some (lengthWord reply), { m with buffer := reply }) := by
  rcases cut with _ | _ | n
  · rfl
  · rfl
  · exact absurd rfl (whole n)

/-- A turn is cut short before its board is read, or comes to that of its document. -/
theorem attempt_cases (m : Mailbox σ) (a : Attempt) :
    let x := m.attempt a
    let step := m.runner.turnFrom a.document
    (a.cut = some .reading ∧ m.runner.isReady = true ∧ x.calls = [] ∧
      x.mailbox.runner = m.runner) ∨
    ((a.cut = some .reading → m.runner.isReady = false) ∧ x.calls = step.calls ∧
      x.mailbox.runner = step.runner ∧
      ∀ reply, step.answer = some reply → a.Written → x.Replies reply) := by
  dsimp only
  rw [attempt, turn]
  split
  · next early => exact .inl ⟨early.1, early.2, rfl, rfl⟩
  · next late =>
    refine .inr ⟨fun reading => by simpa [reading] using late, ?_⟩
    dsimp only
    cases (m.runner.turnFrom a.document).answer with
    | none =>
      refine ⟨rfl, rfl, fun reply answered => ?_⟩
      cases answered
    | some reply =>
      refine ⟨rfl, runner_answer _ _ _, ?_⟩
      rintro _ ⟨⟩ written
      dsimp only
      rw [answer_whole written]
      exact Exchange.replies_of_eq rfl rfl

/-- A turn that is cut short before its board is read, or whose board cannot be read, or in a
session that runs no turns, calls nothing and leaves the session as it is. -/
theorem attempt_unread {m : Mailbox σ} {a : Attempt}
    (unread : ¬ (m.runner.isReady = true ∧ ∃ b, a.Asks b)) :
    (m.attempt a).calls = [] ∧ (m.attempt a).mailbox.runner = m.runner := by
  rcases attempt_cases m a with ⟨-, -, calls, kept⟩ | ⟨late, calls, kept, -⟩
  · exact ⟨calls, kept⟩
  · rw [calls, kept]
    refine Runner.turnFrom_unread ?_
    rintro ⟨ready, b, read⟩
    refine unread ⟨ready, b, read, fun reading => ?_⟩
    rw [late reading] at ready
    cases ready

/-- A turn whose board is read is the turn of that board. -/
theorem attempt_read {m : Mailbox σ} {a : Attempt} {b : Board} (asks : a.Asks b)
    (ready : m.runner.isReady = true) :
    (m.attempt a).calls = (m.runner.turn b).calls ∧
      (m.attempt a).mailbox.runner = (m.runner.turn b).runner := by
  rcases attempt_cases m a with ⟨reading, -⟩ | ⟨-, calls, runner, -⟩
  · exact absurd reading asks.2
  · rw [calls, runner, Runner.turnFrom_read ready asks.1]
    exact ⟨rfl, rfl⟩

/-- A turn that leaves the session failed is answered with the failure. -/
theorem replies_of_failed {m : Mailbox σ} {a : Attempt} (written : a.Written) {e : SessionError}
    (failed : (m.attempt a).mailbox.runner = .failed e) :
    (m.attempt a).Replies (.error e : TurnReply) := by
  rcases attempt_cases m a with ⟨-, ready, -, kept⟩ | ⟨-, -, runner, replies⟩
  · rw [kept] at failed
    rw [failed] at ready
    cases ready
  · refine replies _ (Runner.turnFrom_answer_of_failed ?_) written
    rw [← runner, failed]

/-! ## Any number of turns -/

/-- One more turn keeps a session steady. -/
theorem keeps_attempt {robot : Robot σ} {trace : List (Made σ)} {m : Mailbox σ}
    (h : m.runner.Steady robot trace) (a : Attempt) :
    Runner.Keeps robot trace (m.attempt a).calls (m.attempt a).mailbox.runner := by
  by_cases read : m.runner.isReady = true ∧ ∃ b, a.Asks b
  · obtain ⟨ready, b, asks⟩ := read
    obtain ⟨calls, runner⟩ := attempt_read asks ready
    rw [calls, runner]
    exact h.turn (Board.consistent_of_decode asks.1)
  · obtain ⟨calls, kept⟩ := attempt_unread read
    rw [calls, kept]
    exact h.keeps_nil

theorem keeps_tried {robot : Robot σ} {trace : List (Made σ)} {m : Mailbox σ}
    (h : m.runner.Steady robot trace) (as : List Attempt) :
    Runner.Keeps robot trace (m.calls as) (m.tried as).runner := by
  induction as generalizing m trace with
  | nil => exact h.keeps_nil
  | cons a as ih =>
    obtain ⟨known, steady⟩ := keeps_attempt h a
    exact Runner.keeps_append known (ih steady)

/-- A payload that gives a robot starts a steady session, unless the call is cut short before
the payload is taken. -/
theorem steady_init {factory : Factory σ} {payload : List UInt8} {robot : Robot σ}
    (built : factory payload = .ok robot) (cut : Option Cut) :
    (Mailbox.init { factory, buffer := payload } cut).mailbox.runner.Steady robot [] := by
  rw [Mailbox.init]
  split
  · exact ⟨trivial, .nil robot, rfl⟩
  · rw [show (_ : Exchange σ).mailbox.runner = (Runner.load factory payload .idle).2 from
      runner_answer _ _ _, Runner.load_idle built]
    split
    · next sound => exact ⟨sound, .nil robot, rfl, nofun⟩
    · exact ⟨trivial, .nil robot, .inl rfl⟩

/-- The calls of a robot are orderly whatever turns are asked for: no unit is called before `init`
has returned, and nothing behind an `init` that returned is another one, or anything at all if
it failed. A turn without a board calls nothing, the next one with a board begins with the `init`
that was abandoned, and the turn in which `init` failed and all later ones are answered with
that failure. -/
theorem init_comes_first {factory : Factory σ} {payload : List UInt8} {robot : Robot σ}
    (built : factory payload = .ok robot) (cut : Option Cut) (as : List Attempt) (a : Attempt) :
    let m := (Mailbox.init { factory, buffer := payload } cut).mailbox
    let trace (as : List Attempt) := robot.replay robot.state (m.calls as)
    let x := (m.tried as).attempt a
    (trace as).map (·.call) = m.calls as ∧ robot.Orderly (trace as) ∧
      ((¬ ∃ b, a.Asks b) → x.calls = []) ∧
      (∀ earlier v, trace as = earlier ++ [v] → v.Interrupted → ∀ b, a.Asks b →
        ∃ later, x.calls = ⟨initName, [.board b]⟩ :: later) ∧
      ∀ v ∈ trace (as ++ [a]), ∀ f, v.FailedWith f → a.Written →
        x.Replies (.error (.initFailed (f.report robot.source)) : TurnReply) := by
  intro m trace x
  have started : m.runner.Steady robot [] := steady_init built cut
  have steady (as : List Attempt) : (m.tried as).runner.Steady robot (trace as) :=
    (keeps_tried started as).steady
  refine ⟨(keeps_tried started as).known, (steady as).orderly, fun unread => ?_, ?_, ?_⟩
  · exact (attempt_unread fun read => unread read.2).1
  · intro earlier v last interrupted b asks
    have mem : v ∈ trace as := by simp [last]
    obtain ⟨init, entry⟩ := Robot.entry?_of_mem_replay mem
    rw [interrupted.1] at entry
    have waiting := steady as
    rw [last] at waiting
    obtain ⟨ready, retries⟩ := waiting.retries interrupted entry
    obtain ⟨later, calls⟩ := retries b (Board.consistent_of_decode asks.1)
    exact ⟨later, (attempt_read asks ready).1.trans calls⟩
  · intro v mem f failed written
    have stopped := (steady (as ++ [a])).failed mem failed
    rw [tried_append] at stopped
    exact replies_of_failed written stopped

/-! ## A robot that stumbles -/

/-- A robot whose `init` is abandoned at first and fails when it is called again. -/
def stumbler : Robot Nat :=
  (Robot.blank 0)
    |>.define initName (.init fun _ => do
      let n ← .getState
      .setState (n + 1)
      if n = 0 then .abandon else .fail (.runtime "no"))
    |>.define EntryPoint.turnName (.turn fun _ _ => return none)

def stumbling : Factory Nat := fun _ => .ok stumbler

def asking : Attempt := { document := Json.encode Runner.lone }

theorem asks_lone : asking.Asks Runner.lone :=
  ⟨Board.decode_encode Runner.consistent_lone, nofun⟩

/-- Both turns call `init` and nothing else. -/
theorem calls_stumbling :
    let m := (Mailbox.init { factory := stumbling, buffer := [] }).mailbox
    let first : Call := ⟨initName, [.board Runner.lone]⟩
    m.calls [asking] = [first] ∧ m.calls ([asking] ++ [asking]) = [first, first] := by
  intro m first
  have started : m.runner = .ready stumbler true := rfl
  obtain ⟨calls, kept⟩ := attempt_read asks_lone (show m.runner.isReady = true from rfl)
  have stumbles : ((Runner.ready stumbler true).turn Runner.lone).runner =
      .ready { stumbler with state := 1 } true := rfl
  have waiting : (m.tried [asking]).runner = .ready { stumbler with state := 1 } true := by
    rw [tried, List.foldl_cons, List.foldl_nil, kept, started, stumbles]
  obtain ⟨again, -⟩ := attempt_read asks_lone
    (show (m.tried [asking]).runner.isReady = true by rw [waiting]; rfl)
  have one : m.calls [asking] = [first] := by
    rw [Mailbox.calls, calls, started]
    rfl
  refine ⟨one, ?_⟩
  rw [calls_append, one, Mailbox.calls, again, waiting]
  rfl

/-- The second turn calls `init` once more and is answered with its failure. -/
theorem init_comes_first_stumbler :
    let m := (Mailbox.init { factory := stumbling, buffer := [] }).mailbox
    let x := (m.tried [asking]).attempt asking
    (∃ later, x.calls = ⟨initName, [.board Runner.lone]⟩ :: later) ∧
      x.Replies (.error (.initFailed ((Failure.runtime "no").report Robot.defaultSource))
        : TurnReply) := by
  intro m x
  let v : Made Nat := ⟨⟨initName, [.board Runner.lone]⟩, none, 1⟩
  let w : Made Nat := ⟨⟨initName, [.board Runner.lone]⟩, some (.error (.runtime "no")), 2⟩
  obtain ⟨one, two⟩ := calls_stumbling
  have first : stumbler.replay stumbler.state (m.calls [asking]) = [] ++ [v] :=
    congrArg (stumbler.replay stumbler.state) one
  have both : stumbler.replay stumbler.state (m.calls ([asking] ++ [asking])) = [v, w] :=
    congrArg (stumbler.replay stumbler.state) two
  have made : w ∈ stumbler.replay stumbler.state (m.calls ([asking] ++ [asking])) := by
    rw [both]
    exact List.mem_cons_of_mem _ List.mem_cons_self
  have built : stumbling [] = .ok stumbler := rfl
  obtain ⟨-, -, -, retries, fails⟩ := init_comes_first built none [asking] asking
  exact ⟨retries [] v first ⟨rfl, rfl⟩ Runner.lone asks_lone,
    fails w made (.runtime "no") ⟨rfl, rfl⟩ nofun⟩

end RobotTurn.Mailbox
