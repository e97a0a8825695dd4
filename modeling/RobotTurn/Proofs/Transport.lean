import RobotTurn.Proofs.LineRobot
import RobotTurn.Proofs.Mailbox
import RobotTurn.Proofs.Runner.Turn

/-! One session over three transports. A session that is run in place, one that is reached
through the buffer and one over lines start alike and answer alike, turn by turn. -/
namespace RobotTurn

open Json (Wire Lawful)

variable {σ α : Type}

/-! ## Through the buffer -/

namespace Mailbox

/-- The reply of a call, read off as many octets as the call returned. -/
def Exchange.reply? [Wire α] (x : Exchange σ) : Option (Except SessionError α) :=
  x.length.map fun n => Host.readReply (x.mailbox.buffer.take n.toNat)

/-- The replies to some boards, each written into the buffer as a document. -/
def replies (m : Mailbox σ) : List Board → List (Option TurnReply)
  | [] => []
  | b :: boards =>
    let x := (m.write (Json.encode b)).turn
    x.reply? :: x.mailbox.replies boards

theorem write_eq (m : Mailbox σ) {bs : List UInt8} (fits : bs.length < 2 ^ 32) :
    m.write bs = { m with buffer := bs } := by
  have size : bs.length.toUInt32.toNat = bs.length := by
    simpa using Nat.mod_eq_of_lt fits
  simp [write, reserve, poke, size]

theorem Exchange.Replies.reply?_eq [Wire α] [Lawful α] {x : Exchange σ}
    {reply : Except SessionError α} (h : x.Replies reply)
    (fits : (Json.encode reply).length < 2 ^ 32) : x.reply? = some reply := by
  obtain ⟨n, returned, size⟩ := h.length
  rw [if_pos fits] at size
  rw [Exchange.reply?, returned, h.buffer, Option.map_some, size, List.take_length,
    Host.readReply_encode]

theorem replies_eq {m : Mailbox σ} {boards : List Board}
    (consistent : ∀ b ∈ boards, b.Consistent)
    (requests : ∀ b ∈ boards, (Json.encode b).length < 2 ^ 32)
    (returns : ∀ reply, some reply ∈ m.runner.answers boards →
      (Json.encode reply).length < 2 ^ 32) :
    m.replies boards = m.runner.answers boards := by
  induction boards generalizing m with
  | nil => rfl
  | cons b boards ih =>
    obtain ⟨given, missing, runner, -⟩ := turn_eq m (Json.encode b)
    rw [Runner.turnFrom_encode _ (consistent b List.mem_cons_self)] at given missing runner
    have call : (m.write (Json.encode b)).turn = m.handle (.turn (Json.encode b)) := by
      rw [write_eq m (requests b List.mem_cons_self)]
      rfl
    have first : (m.handle (.turn (Json.encode b))).reply? = (m.runner.turn b).answer := by
      cases answer : (m.runner.turn b).answer with
      | none => rw [Exchange.reply?, missing answer]; rfl
      | some reply =>
        refine (given reply answer).reply?_eq (returns reply ?_)
        exact List.mem_cons.mpr (.inl answer.symm)
    rw [replies, call, first, ih (fun c mem => consistent c (List.mem_cons_of_mem _ mem))
      (fun c mem => requests c (List.mem_cons_of_mem _ mem)) ?_, runner]
    · rfl
    · intro reply mem
      rw [runner] at mem
      exact returns reply (List.mem_cons_of_mem _ mem)

end Mailbox

/-! ## Over lines -/

namespace LineRobot

/-- The line of a start is not taken for a reply. -/
theorem init_unmarked (reply : InitReply) : ¬ Host.outputMark <+: line .init reply := by
  intro marked
  have start : Utf8.encode (mark .init) <+: line .init reply :=
    ⟨Json.encode reply ++ [0x0A], (List.append_assoc _ _ _).symm⟩
  have both := List.prefix_of_prefix_length_le start marked (by decide)
  exact absurd (List.isPrefixOf_iff_prefix.mpr both) (by decide)

/-- What a session writes from its start on. -/
theorem written_run {factory : Factory σ} {payload : List UInt8} {boards : List Board}
    (consistent : ∀ b ∈ boards, b.Consistent)
    (silent : ∀ step ∈ (Runner.load factory payload .idle).2.steps boards, step.printed = "") :
    let loaded := Runner.load factory payload .idle
    (run factory payload (boards.flatMap Host.Child.request)).written =
      line .init loaded.1 ++ match loaded.1 with
        | .ok _ => (given (loaded.2.answers boards)).flatMap (line .output)
        | .error _ => [] := by
  intro loaded
  cases started : loaded.1 with
  | error e =>
    rw [run_of_error started]
    rfl
  | ok =>
    rw [run_requests started consistent]
    exact congrArg (line .init (.ok () : InitReply) ++ ·) (written_told silent _)

end LineRobot

namespace Host.Session

theorem map_noting_nil (reply : TurnReply) : reply.map (TurnReport.noting · []) = reply := by
  cases reply with
  | error e => rfl
  | ok report => simp [Except.map, TurnReport.noting]

/-- A robot that writes replies and nothing else has its turns answered by them in order, and
those behind the last one not at all. -/
theorem answers_lines {s : Session Child} (h : s.Open) {replies : List TurnReply}
    (incoming : s.link.incoming = replies.map (.ok ∘ LineRobot.line .output))
    {boards : List Board} (enough : replies.length ≤ boards.length) :
    s.answers boards = replies.map (fun reply => .ok { reply }) ++
      .replicate (boards.length - replies.length) (.ok { reply := .error .noData }) := by
  induction boards generalizing s replies with
  | nil =>
    obtain rfl := List.length_eq_zero_iff.mp (Nat.le_zero.mp enough)
    rfl
  | cons b boards ih =>
    have step := h.turnChild_eq b
    cases replies with
    | nil =>
      rw [incoming] at step
      have later := ih (h.turnChild b) (show _ = [].map _ by rw [step]; rfl) (Nat.zero_le _)
      rw [answers, later, step]
      rfl
    | cons reply replies =>
      rw [incoming, List.map_cons, Function.comp_apply, Child.await_line, map_noting_nil] at step
      have later := ih (h.turnChild b) (show _ = replies.map _ by rw [step])
        (Nat.le_of_succ_le_succ enough)
      rw [answers, later, step]
      simp

theorem answers_faulted {s : Session Child} (faulted : s.phase = .faulted)
    (boards : List Board) : s.answers boards = boards.map fun _ => .error .faulted := by
  induction boards with
  | nil => rfl
  | cons b boards ih =>
    have refused : s.turnChild b = (.error .faulted, s) := by
      simp only [turnChild, turn, faulted]
      rfl
    rw [answers, refused, ih]
    rfl

/-- A host starts on the first line of a session and finds the replies behind it. -/
theorem initChild_lines {output : List UInt8} {reply : InitReply} {replies : List TurnReply}
    (written : output = LineRobot.line .init reply ++ replies.flatMap (LineRobot.line .output)) :
    initChild { link := .ofOutput output } =
      (.ok { reply }, {
        phase := .after reply
        link := { incoming := replies.map (.ok ∘ LineRobot.line .output) } }) := by
  have start := Child.start_line reply ((replies.map (LineRobot.line .output)).map .ok)
  simp only [initChild, init, Child.ofOutput, written, LineRobot.rawLines_session, List.map_cons,
    start, ← List.map_map]
  rfl

/-- The host sends the lines that the robot is to read. -/
theorem sent_afterTurns {s : Session Child} (h : s.Open) (boards : List Board) :
    (s.afterTurns boards).link.sent = s.link.sent ++ boards.map Child.request := by
  induction boards generalizing s with
  | nil => simp [afterTurns]
  | cons b boards ih =>
    have later := ih (h.turnChild b)
    rw [h.turnChild_eq] at later
    rw [afterTurns, List.foldl_cons, ← afterTurns, h.turnChild_eq, later]
    simp

end Host.Session

/-! ## All three -/

/-- Every request and every reply of a session has a length that fits in the word in which the
buffer's caller is told of it. -/
structure Fits (factory : Factory σ) (payload : List UInt8) (boards : List Board) : Prop where
  payload_lt : payload.length < 2 ^ 32
  start_lt : (Json.encode (Runner.load factory payload .idle).1).length < 2 ^ 32
  request_lt : ∀ b ∈ boards, (Json.encode b).length < 2 ^ 32
  reply_lt : ∀ reply, some reply ∈ (Runner.load factory payload .idle).2.answers boards →
    (Json.encode reply).length < 2 ^ 32

/-- A session comes to the same whether it is run in place, through the buffer or over lines.
Behind an abandoned turn there is nothing on the line. A session that does not start answers
every turn with the reason, and over lines it writes no reply and the host refuses to go on. -/
theorem transports_agree {factory : Factory σ} {payload : List UInt8} {boards : List Board}
    (consistent : ∀ b ∈ boards, b.Consistent)
    (silent : ∀ step ∈ (Runner.load factory payload .idle).2.steps boards, step.printed = "")
    (fits : Fits factory payload boards) :
    let loaded := Runner.load factory payload .idle
    let replies := loaded.2.answers boards
    let posted := (Mailbox.write { factory } payload).init
    let output := (LineRobot.run factory payload (boards.flatMap Host.Child.request)).written
    let host := Host.Session.initChild { link := .ofOutput output }
    posted.reply? = some loaded.1 ∧ host.1 = .ok { reply := loaded.1 } ∧
      posted.mailbox.replies boards = replies ∧
      (loaded.1 = .ok () →
        (host.2.afterTurns boards).link.sent = boards.map Host.Child.request ∧
        host.2.answers boards = (given replies).map (fun reply => .ok { reply }) ++
          .replicate (boards.length - (given replies).length) (.ok { reply := .error .noData }) ∧
        ∀ all : List TurnReply, replies = all.map some →
          host.2.answers boards = all.map fun reply => .ok { reply }) ∧
      ∀ e, loaded.1 = .error e →
        replies = boards.map (fun _ => some (.error e)) ∧
        (∀ l ∈ Text.rawLines output, ¬ Host.outputMark <+: l) ∧
        host.2.answers boards = boards.map fun _ => .error .faulted := by
  intro loaded replies posted output host
  have call : posted = Mailbox.handle { factory } (.init payload) := by
    show (Mailbox.write { factory } payload).init = _
    rw [Mailbox.write_eq _ fits.payload_lt]
    rfl
  obtain ⟨replied, runner, -⟩ := Mailbox.init_eq { factory } payload
  have written : output = _ := LineRobot.written_run consistent silent
  have started (lines : List TurnReply)
      (h : output = LineRobot.line .init loaded.1 ++ lines.flatMap (LineRobot.line .output)) :
      host = (.ok { reply := loaded.1 }, {
        phase := .after loaded.1
        link := { incoming := lines.map (.ok ∘ LineRobot.line .output) } }) :=
    Host.Session.initChild_lines h
  refine ⟨?_, ?_, ?_, fun ok => ?_, fun e failed => ?_⟩
  · rw [call]
    exact replied.reply?_eq fits.start_lt
  · cases reply : loaded.1 with
    | ok =>
      rw [started (given replies) (by rw [written, reply]), reply]
    | error e =>
      rw [started [] (by rw [written, reply]; rfl), reply]
  · rw [call, Mailbox.replies_eq consistent fits.request_lt, runner]
    rw [runner]
    exact fits.reply_lt
  · have begun := started (given replies) (by rw [written, ok])
    have running : host.2.Open := by
      rw [begun, ok]
      exact ⟨rfl, fun _ _ _ => rfl⟩
    have enough : (given replies).length ≤ boards.length := by
      rw [← Runner.length_answers loaded.2 boards]
      exact length_given replies
    have answers := Host.Session.answers_lines running
      (show _ = (given replies).map _ by rw [begun]) enough
    refine ⟨?_, answers, fun all h => ?_⟩
    · rw [Host.Session.sent_afterTurns running, begun]
      rfl
    · have count : boards.length = all.length := by
        have lengths := congrArg List.length h
        rwa [List.length_map, Runner.length_answers] at lengths
      rw [answers, h, given_map_some, count, Nat.sub_self, List.replicate_zero, List.append_nil]
  · have silence : output = LineRobot.line .init loaded.1 := by
      rw [written, failed, List.append_nil]
    have begun := started [] (by rw [silence, List.flatMap_nil, List.append_nil])
    refine ⟨?_, fun l mem => ?_, ?_⟩
    · show loaded.2.answers boards = _
      rw [Runner.load_error failed, Runner.answers_failed]
    · rw [Text.rawLines, silence, Text.pieces_line (LineRobot.line_line _ _)] at mem
      rw [List.mem_singleton.mp mem]
      exact LineRobot.init_unmarked _
    · exact Host.Session.answers_faulted (by rw [begun, failed]; rfl) boards

/-! ## Two turns of a robot -/

/-- What the robot reports that has numbered its calls up to `n`. -/
def tallied (logs : List String) (n : Nat) : TurnReport where
  actions := .ofList [("a", .ok none)]
  logs := logs
  tables := .ofList [("a", .ofList [("call", toString n)])]

theorem answers_tally : (Runner.load (fun _ => .ok Runner.tally) [] .idle).2.answers
    [Runner.lone, Runner.lone] =
      [some (.ok (tallied ["start", "a", "a"] 1)), some (.ok (tallied ["a", "a"] 3))] := rfl

theorem transports_agree_tally :
    let boards := [Runner.lone, Runner.lone]
    let output := (LineRobot.run (fun _ => .ok Runner.tally) []
      (boards.flatMap Host.Child.request)).written
    let host := Host.Session.initChild { link := .ofOutput output }
    host.1 = .ok { reply := .ok () } ∧ host.2.answers boards = [
      .ok { reply := .ok (tallied ["start", "a", "a"] 1) },
      .ok { reply := .ok (tallied ["a", "a"] 3) }] := by
  have consistent : ∀ b ∈ [Runner.lone, Runner.lone], b.Consistent := by
    simpa using Runner.consistent_lone
  have fits : Fits (fun _ => .ok Runner.tally) [] [Runner.lone, Runner.lone] := by
    have request : (Json.encode Runner.lone).length < 2 ^ 32 := by decide +kernel
    refine ⟨by decide, by decide, by simpa using request, fun reply mem => ?_⟩
    rw [answers_tally] at mem
    simp only [List.mem_cons, Option.some.injEq, List.not_mem_nil, or_false] at mem
    rcases mem with rfl | rfl
    · decide +kernel
    · decide +kernel
  obtain ⟨-, start, -, agree, -⟩ := transports_agree consistent (by decide) fits
  exact ⟨start, (agree rfl).2.2
    [.ok (tallied ["start", "a", "a"] 1), .ok (tallied ["a", "a"] 3)] answers_tally⟩

end RobotTurn
