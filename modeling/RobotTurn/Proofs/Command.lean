import RobotTurn.Command
import RobotTurn.Host.Bare
import RobotTurn.Proofs.Transport

/-! A program that plays a file of boards. A file with a line that holds no board is refused before
the program is started, and the lines of a robot's session come out of the command as they were
written (`process_passes_session_on`). -/
namespace RobotTurn

open Host (Session Child)
open LineRobot (line)

variable {μ σ : Type}

namespace Command

/-! ## Files of boards -/

/-- The board whose document a line is. -/
def boardOf (line : String) : Except Json.Refusal Board :=
  Json.decode Board (Utf8.encode line)

/-- Lines that hold some boards in their order, with blank lines between them. -/
inductive Holds : List String → List Board → Prop
  | nil : Holds [] []
  | blank {line : String} {lines : List String} {boards : List Board}
      (blank : Text.isBlank line = true) (rest : Holds lines boards) : Holds (line :: lines) boards
  | board {line : String} {lines : List String} {b : Board} {boards : List Board}
      (more : Text.isBlank line = false) (read : boardOf line = .ok b)
      (rest : Holds lines boards) : Holds (line :: lines) (b :: boards)

/-- Boards that have been read are consistent. -/
theorem Holds.consistent {lines : List String} {boards : List Board} (held : Holds lines boards) :
    ∀ b ∈ boards, b.Consistent := by
  induction held with
  | nil => exact nofun
  | blank _ _ ih => exact ih
  | board _ read _ ih => exact List.forall_mem_cons.mpr ⟨Board.consistent_of_decode read, ih⟩

theorem Holds.unique {lines : List String} {boards others : List Board}
    (held : Holds lines boards) (again : Holds lines others) : boards = others := by
  induction held generalizing others with
  | nil =>
    cases again
    rfl
  | blank blank _ ih =>
    cases again with
    | blank _ rest => exact ih rest
    | board more => cases blank.symm.trans more
  | board more read _ ih =>
    cases again with
    | blank blank => cases more.symm.trans blank
    | board _ same rest =>
      obtain rfl := Except.ok.inj (read.symm.trans same)
      rw [ih rest]

/-- Lines hold boards only, or there is a first one that does not. -/
theorem holds_or_bad (lines : List String) :
    (∃ boards, Holds lines boards) ∨
      ∃ before bad after boards e, lines = before ++ bad :: after ∧ Holds before boards ∧
        Text.isBlank bad = false ∧ boardOf bad = .error e := by
  induction lines with
  | nil => exact .inl ⟨[], .nil⟩
  | cons line lines ih =>
    cases blank : Text.isBlank line with
    | true =>
      rcases ih with ⟨boards, held⟩ | ⟨before, bad, after, boards, e, rfl, held, more, unread⟩
      · exact .inl ⟨boards, .blank blank held⟩
      · exact .inr ⟨line :: before, bad, after, boards, e, rfl, .blank blank held, more, unread⟩
    | false =>
      cases read : boardOf line with
      | error e => exact .inr ⟨[], line, lines, [], e, rfl, .nil, blank, read⟩
      | ok b =>
        rcases ih with ⟨boards, held⟩ | ⟨before, bad, after, boards, e, rfl, held, more, unread⟩
        · exact .inl ⟨b :: boards, .board blank read held⟩
        · exact .inr ⟨line :: before, bad, after, b :: boards, e, rfl, .board blank read held,
            more, unread⟩

theorem holds_iff (lines : List String) :
    (∃ boards, Holds lines boards) ↔
      ∀ l ∈ lines, Text.isBlank l = false → ∃ b, boardOf l = .ok b := by
  constructor
  · rintro ⟨boards, held⟩
    induction held with
    | nil => exact nofun
    | blank blank _ ih =>
      refine List.forall_mem_cons.mpr ⟨fun more => ?_, ih⟩
      rw [blank] at more
      cases more
    | board _ read _ ih => exact List.forall_mem_cons.mpr ⟨fun _ => ⟨_, read⟩, ih⟩
  · intro all
    rcases holds_or_bad lines with held | ⟨before, bad, after, _, e, rfl, -, more, unread⟩
    · exact held
    · obtain ⟨b, read⟩ := all bad (by simp) more
      cases unread.symm.trans read

theorem addLine_blank (path : String) (boards : List Board) {line : String} (n : Nat)
    (blank : Text.isBlank line = true) : addLine path boards (line, n) = .ok boards := by
  rw [addLine, if_pos blank]

theorem addLine_ok (path : String) (boards : List Board) {line : String} (n : Nat) {b : Board}
    (more : Text.isBlank line = false) (read : boardOf line = .ok b) :
    addLine path boards (line, n) = .ok (boards ++ [b]) := by
  rw [boardOf] at read
  simp only [addLine, more, read, Bool.false_eq_true, ↓reduceIte]

theorem addLine_error (path : String) (boards : List Board) {line : String} (n : Nat)
    {e : Json.Refusal} (more : Text.isBlank line = false) (unread : boardOf line = .error e) :
    addLine path boards (line, n) = .error s!"{path}:{n}: invalid turn state" := by
  rw [boardOf] at unread
  simp only [addLine, more, unread, Bool.false_eq_true, ↓reduceIte]

/-- Lines that hold boards add them, whatever lines follow. -/
theorem Holds.foldlM_addLine {lines : List String} {boards : List Board}
    (held : Holds lines boards) (path : String) (n : Nat) (earlier : List Board)
    (rest : List (String × Nat)) :
    (lines.zipIdx n ++ rest).foldlM (addLine path) earlier =
      rest.foldlM (addLine path) (earlier ++ boards) := by
  induction held generalizing n earlier with
  | nil =>
    rw [List.append_nil]
    rfl
  | blank blank _ ih =>
    rw [List.zipIdx_cons, List.cons_append, List.foldlM_cons, addLine_blank path earlier n blank]
    exact ih _ _
  | board more read _ ih =>
    rw [List.zipIdx_cons, List.cons_append, List.foldlM_cons, addLine_ok path earlier n more read]
    refine (ih _ _).trans ?_
    rw [List.append_assoc]
    rfl

theorem readBoards_ok (path : String) {content : List UInt8} {text : String} {boards : List Board}
    (decoded : Utf8.decode? content = some text) (held : Holds (Text.lines text) boards) :
    readBoards path (.ok content) = .ok boards := by
  have whole := held.foldlM_addLine path 1 [] []
  rw [List.append_nil] at whole
  simp only [readBoards, Except.toOption, Option.bind_some, decoded, whole]
  rfl

/-- The first line that cannot be read is named, counted from one. -/
theorem readBoards_error (path : String) {content : List UInt8} {text : String}
    (decoded : Utf8.decode? content = some text) {before after : List String} {bad : String}
    (lines : Text.lines text = before ++ bad :: after) {boards : List Board}
    (held : Holds before boards) (more : Text.isBlank bad = false)
    {e : Json.Refusal} (unread : boardOf bad = .error e) :
    readBoards path (.ok content) =
      .error s!"{path}:{1 + before.length}: invalid turn state" := by
  simp only [readBoards, Except.toOption, Option.bind_some, decoded, lines, List.zipIdx_append,
    held.foldlM_addLine path, List.zipIdx_cons, List.foldlM_cons,
    addLine_error path _ _ more unread]
  rfl

theorem readBoards_refuses (path : String) {content : List UInt8}
    (broken : Utf8.decode? content = none ∨ ∃ text, Utf8.decode? content = some text ∧
      ∃ l ∈ Text.lines text, Text.isBlank l = false ∧ ∃ e, boardOf l = .error e) :
    ∃ message, readBoards path (.ok content) = .error message := by
  rcases broken with garbled | ⟨text, decoded, l, mem, filled, e, unread⟩
  · refine ⟨s!"failed to read {path}", ?_⟩
    simp only [readBoards, Except.toOption, Option.bind_some, garbled]
  · rcases holds_or_bad (Text.lines text) with
      held | ⟨before, bad, after, boards, _, lines, held, more, first⟩
    · obtain ⟨b, read⟩ := (holds_iff _).mp held l mem filled
      cases unread.symm.trans read
    · exact ⟨_, readBoards_error path decoded lines held more first⟩

/-- A line for one more board in front of a text. -/
theorem holds_request {b : Board} (consistent : b.Consistent) {text : String} {boards : List Board}
    (held : Holds (Text.lines text) boards) :
    ∃ longer, Child.request b ++ Utf8.encode text = Utf8.encode longer ∧
      Holds (Text.lines longer) (b :: boards) := by
  obtain ⟨cs, visible, document⟩ := Json.printed_document b
  have octets : Json.encode b = Utf8.encode (String.ofList cs) := by
    rw [document, Utf8.encode, String.toList_ofList]
  have inner : ∀ c ∈ cs, c ≠ '\n' ∧ c ≠ '\r' := by
    intro c mem
    have low := visible c mem
    constructor <;> rintro rfl <;> exact absurd low (by decide)
  have more : Text.isBlank (String.ofList cs) = false := by
    have skipped := LineRobot.skips_encode b
    rwa [octets, LineRobot.skips, Utf8.decode?_encode, Option.any_some] at skipped
  have read : boardOf (String.ofList cs) = .ok b := by
    rw [boardOf, ← octets]
    exact Board.decode_encode consistent
  refine ⟨String.ofList (cs ++ '\n' :: text.toList), ?_, ?_⟩
  · rw [Child.request, document, Utf8.encode, Utf8.encode, String.toList_ofList,
      List.flatMap_append, List.flatMap_cons, List.append_assoc]
    rfl
  · rw [Text.lines_cons inner, String.ofList_toList]
    exact .board more read held

/-- A blank line in front of a text. -/
theorem holds_blank {text : String} {boards : List Board} (held : Holds (Text.lines text) boards) :
    ∃ longer, 0x0A :: Utf8.encode text = Utf8.encode longer ∧
      Holds (Text.lines longer) boards := by
  refine ⟨String.ofList ('\n' :: text.toList), ?_, ?_⟩
  · rw [Utf8.encode, Utf8.encode, String.toList_ofList, List.flatMap_cons]
    rfl
  · have lines := Text.lines_cons (List.forall_mem_nil _) text.toList
    rw [List.nil_append, String.ofList_toList] at lines
    rw [lines]
    exact .blank rfl held

/-! ## A robot's session -/

/-- Replies to all boards are passed on as they came. -/
theorem playChild_answered {s : Session Child} {boards : List Board} {replies : List TurnReply}
    (answered : s.answers boards = replies.map fun reply => .ok { reply })
    (output : List UInt8) :
    playChild s output boards = { code := 0, output := output ++ replies.flatMap (line .output) } := by
  induction boards generalizing s replies output with
  | nil =>
    obtain rfl : replies = [] := List.map_eq_nil_iff.mp answered.symm
    rw [List.flatMap_nil, List.append_nil]
    rfl
  | cons b boards ih =>
    obtain ⟨reply, later, rfl, first, others⟩ := List.map_eq_cons_iff.mp answered.symm
    have turn : s.turnChild b = (.ok { reply }, (s.turnChild b).2) := Prod.ext first.symm rfl
    rw [playChild, turn]
    refine (ih others.symm _).trans ?_
    rw [List.flatMap_cons, List.append_assoc]

/-- A robot that does not start has nothing passed on but the line that says so. -/
theorem runProgram_failed {robot : List UInt8 → List UInt8} {boards : List Board}
    {e : SessionError}
    (written : robot (boards.flatMap Child.request) = line .init (.error e : InitReply)) :
    runProgram robot boards = { code := 1, output := robot (boards.flatMap Child.request) } := by
  have first : robot (boards.flatMap Child.request) =
      line .init (.error e : InitReply) ++ ([] : List TurnReply).flatMap (line .output) := by
    rw [written, List.flatMap_nil, List.append_nil]
  rw [runProgram, Session.initChild_lines first, written]

/-- A robot that starts and has a line for each board has all of its lines passed on. -/
theorem runProgram_answered {robot : List UInt8 → List UInt8} {boards : List Board}
    {replies : List TurnReply}
    (written : robot (boards.flatMap Child.request) =
      line .init (.ok () : InitReply) ++ replies.flatMap (line .output))
    (count : replies.length = boards.length) :
    runProgram robot boards = { code := 0, output := robot (boards.flatMap Child.request) } := by
  let s : Session Child :=
    { phase := .ready, link := { incoming := replies.map (.ok ∘ line .output) } }
  have answered : s.answers boards = replies.map fun reply => .ok { reply } := by
    rw [Session.answers_lines ⟨rfl, fun _ _ _ => rfl⟩ rfl (Nat.le_of_eq count), count, Nat.sub_self,
      List.replicate_zero, List.append_nil]
  rw [runProgram, Session.initChild_lines written, written]
  exact playChild_answered answered _

theorem run_process (w : World μ σ) {args arguments : List String} {states program : String}
    (asked : parse args = some (.process states program arguments)) :
    run w args = some (runChild w states program arguments) := by
  rw [run, asked]

/-- A file that is not text, or in which a line that is not blank holds no board, is refused
whatever the programs are. With any other file a program that writes the lines of a session has
them passed on as they are: the answer to the payload, and behind a start one reply for each line
that is not blank. -/
theorem process_passes_session_on (w : World μ σ) {args arguments : List String}
    {states program : String} (asked : parse args = some (.process states program arguments))
    {content : List UInt8} (found : w.file states = .ok content) :
    ((Utf8.decode? content = none ∨ ∃ text, Utf8.decode? content = some text ∧
        ∃ l ∈ Text.lines text, Text.isBlank l = false ∧ ∃ e, boardOf l = .error e) →
      ∃ message, ∀ programs,
        run { w with program := programs } args = some (.refuse message)) ∧
    ∀ text, Utf8.decode? content = some text →
      (∀ l ∈ Text.lines text, Text.isBlank l = false → ∃ b, boardOf l = .ok b) →
      ∃ boards, Holds (Text.lines text) boards ∧
        ∀ {τ : Type} (factory : Factory τ) (payload : List UInt8)
          (robot : List UInt8 → List UInt8), w.program program arguments = some robot →
          let loaded := Runner.load factory payload .idle
          let input := boards.flatMap Child.request
          let t := LineRobot.run factory payload input
          robot input = t.replies.flatten →
          ∀ reply, t.ending = .finished reply →
            run w args = some
              { code := if t.ending.succeeded then 0 else 1, output := t.replies.flatten } ∧
            ∃ all : List TurnReply, t.replies = line .init reply :: all.map (line .output) ∧
              (reply = .ok () → loaded.2.answers boards = all.map some) ∧
              ∀ e, reply = .error e → all = [] := by
  refine ⟨fun broken => ?_, fun text decoded sound => ?_⟩
  · obtain ⟨message, refused⟩ := readBoards_refuses states broken
    refine ⟨message, fun programs => ?_⟩
    simp only [run_process _ asked, runChild, found, refused]
  · obtain ⟨boards, held⟩ := (holds_iff _).mpr sound
    refine ⟨boards, held, fun factory payload robot begins => ?_⟩
    intro loaded input t writes reply ended
    have played : run w args = some (runProgram robot boards) := by
      simp only [run_process w asked, runChild, found, readBoards_ok states decoded held, begins]
    obtain ⟨all, replies, each, none⟩ :=
      LineRobot.finished_requests held.consistent ended
    refine ⟨?_, all, replies, each, none⟩
    rw [replies, List.flatten_cons, ← List.flatMap_def] at writes
    rw [played, ended, replies, List.flatten_cons, ← List.flatMap_def, ← writes]
    cases reply with
    | error e =>
      rw [none e rfl, List.flatMap_nil, List.append_nil] at writes
      rw [runProgram_failed writes]
      rfl
    | ok =>
      have count : all.length = boards.length := by
        have lengths := congrArg List.length (each rfl)
        rwa [Runner.length_answers, List.length_map, eq_comm] at lengths
      rw [runProgram_answered writes count]
      rfl

/-- A hunter that is played over a file. -/
def bench (content : List UInt8) : World Host.Bare Unit where
  file _ := .ok content
  directory _ := none
  program _ _ := some fun input => (LineRobot.run Demo.robot [] input).replies.flatten
  compiler := Host.Bare.compiler
  guest := Host.Bare.guest ()

/-- Two units a step apart. -/
def clash : Board where
  turn := 2
  team := .red
  red := ["u1"]
  blue := ["e1"]
  entities := .ofList [("u1", ⟨"u1", ⟨1, 1⟩, .unit .red 5⟩), ("e1", ⟨"e1", ⟨1, 2⟩, .unit .blue 5⟩)]
  grid := []

theorem consistent_clash : clash.Consistent := (Board.error?_eq_none_iff clash).mp rfl

/-- What a hunter reports of a later turn there. -/
def fought : TurnReport where
  actions := .ofList [("u1", .ok (some ⟨.attack, .south⟩))]
  tables := .ofList [("u1", .ofList [("target", "e1")])]
  inspections := ["e1"]

/-- Two boards with a blank line between them. -/
def bout : List UInt8 := Child.request LineRobot.duel ++ 0x0A :: Child.request clash

theorem holds_bout :
    ∃ text, Utf8.decode? bout = some text ∧ Holds (Text.lines text) [LineRobot.duel, clash] := by
  have none : Holds (Text.lines "") [] := .nil
  obtain ⟨text, last, held⟩ := holds_request consistent_clash none
  obtain ⟨spaced, blank, held⟩ := holds_blank held
  obtain ⟨whole, first, held⟩ := holds_request LineRobot.consistent_duel held
  rw [← blank, ← last, Utf8.encode, String.toList_empty, List.flatMap_nil, List.append_nil] at first
  exact ⟨whole, by rw [bout, first, Utf8.decode?_encode], held⟩

/-- A file of two boards, and one that stops at a line that begins no document. -/
theorem process_passes_session_on_duel :
    let args := ["process", "states", "--", "hunter"]
    run (bench bout) args = some
        { code := 0
          output := line .init (.ok () : InitReply) ++
            (line .output (.ok LineRobot.hunted : TurnReply) ++
              line .output (.ok fought : TurnReply)) } ∧
      ∃ message, ∀ programs,
        run { bench [0x0A, 0x78] with program := programs } args = some (.refuse message) := by
  intro args
  have asked : parse args = some (.process "states" "hunter" []) := by decide +kernel
  constructor
  · have answered : (Runner.load Demo.robot [] .idle).2.answers [LineRobot.duel, clash] =
        [some (.ok LineRobot.hunted), some (.ok fought)] := rfl
    obtain ⟨text, decoded, held⟩ := holds_bout
    obtain ⟨-, law⟩ := process_passes_session_on (bench bout) asked rfl
    obtain ⟨boards, read, played⟩ := law text decoded ((holds_iff _).mp ⟨_, held⟩)
    obtain rfl := held.unique read
    have ended : (LineRobot.run Demo.robot []
        ([LineRobot.duel, clash].flatMap Child.request)).ending = .finished (.ok ()) := by
      rw [LineRobot.run_requests rfl held.consistent, answered]
      rfl
    obtain ⟨ran, all, replies, each, -⟩ := played Demo.robot [] _ rfl rfl _ ended
    obtain rfl : [.ok LineRobot.hunted, .ok fought] = all :=
      (List.map_inj_right fun _ _ => Option.some.inj).mp (answered.symm.trans (each rfl))
    rw [ran, ended, replies, List.map_cons, List.map_singleton, List.flatten_cons, List.flatten_cons,
      List.flatten_singleton]
    rfl
  · obtain ⟨refuses, -⟩ := process_passes_session_on (bench [0x0A, 0x78]) asked rfl
    exact refuses (.inr ⟨"\nx", by decide, "x", by decide, by decide, _, rfl⟩)

end Command
end RobotTurn
