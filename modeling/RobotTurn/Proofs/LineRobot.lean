import RobotTurn.Demo
import RobotTurn.Proofs.Host.Framing
import RobotTurn.Proofs.Runner.Documents

/-! What a session over lines writes. It answers its payload, and then each line that is not
blank, as long as the lines are text; the first one that is not ends it unanswered
(`answers_all_iff_text`). -/
namespace RobotTurn

variable {σ α : Type}

/-- The answers before the first one that is missing. -/
def given : List (Option α) → List α
  | some a :: as => a :: given as
  | _ => []

theorem given_map_some (as : List α) : given (as.map some) = as := by
  induction as with
  | nil => rfl
  | cons a as ih => rw [List.map_cons, given, ih]

theorem length_given (as : List (Option α)) : (given as).length ≤ as.length := by
  induction as with
  | nil => exact Nat.le_refl _
  | cons a as ih =>
    cases a with
    | none => exact Nat.zero_le _
    | some a => exact Nat.succ_le_succ ih

/-- If none is missing, all are given. -/
theorem map_some_given {as : List (Option α)} (all : none ∉ as) : (given as).map some = as := by
  induction as with
  | nil => rfl
  | cons a as ih =>
    cases a with
    | none => exact absurd List.mem_cons_self all
    | some a => rw [given, List.map_cons, ih fun mem => all (List.mem_cons_of_mem _ mem)]

namespace LineRobot

/-! ## What is written -/

/-- A sink that is never full takes every line. -/
theorem send_open (line : List UInt8) (next : Sink → Transcript) :
    send {} line next = (next {}).after (.reply line) := rfl

/-- What turns write, the first one that is abandoned being the last. -/
def told : List (Step σ TurnReply) → List Chunk
  | [] => []
  | step :: steps => .print step.printed :: match step.answer with
    | none => []
    | some reply => .reply (line .output reply) :: told steps

/-- The lines of replies among some chunks. -/
theorem replies_told (steps : List (Step σ TurnReply)) (ending : Ending) :
    Transcript.replies ⟨told steps, ending⟩ =
      (given (steps.map (·.answer))).map (line .output) := by
  induction steps with
  | nil => rfl
  | cons step steps ih =>
    rw [told, List.map_cons]
    cases step.answer with
    | none => rfl
    | some reply =>
      rw [given, List.map_cons, ← ih]
      rfl

/-- Turns in which nothing is printed write their replies. -/
theorem written_told {steps : List (Step σ TurnReply)}
    (silent : ∀ step ∈ steps, step.printed = "") (ending : Ending) :
    Transcript.written ⟨told steps, ending⟩ =
      (given (steps.map (·.answer))).flatMap (line .output) := by
  induction steps with
  | nil => rfl
  | cons step steps ih =>
    have quiet := silent step List.mem_cons_self
    have later := ih fun step mem => silent step (List.mem_cons_of_mem _ mem)
    rw [told, quiet, List.map_cons]
    cases step.answer with
    | none => rfl
    | some reply =>
      rw [given, List.flatMap_cons, ← later]
      rfl

/-! ## The lines of an input -/

/-- What the lines hold that are not blank. -/
def documents (lines : List (List UInt8)) : List (List UInt8) :=
  (lines.map (Text.chomp 0x0A 0x0D)).filter fun document => !skips document

theorem documents_cons_blank {l : List UInt8} (blank : skips (Text.chomp 0x0A 0x0D l) = true)
    (lines : List (List UInt8)) : documents (l :: lines) = documents lines := by
  rw [documents, List.map_cons, List.filter_cons_of_neg (by simp [blank])]
  rfl

theorem documents_cons {l : List UInt8} (filled : skips (Text.chomp 0x0A 0x0D l) = false)
    (lines : List (List UInt8)) :
    documents (l :: lines) = Text.chomp 0x0A 0x0D l :: documents lines := by
  rw [documents, List.map_cons, List.filter_cons_of_pos (by simp [filled])]
  rfl

/-- The lines before the first one that is not text. -/
def text (lines : List (List UInt8)) : List (List UInt8) := lines.takeWhile Utf8.valid

theorem text_cons {l : List UInt8} (valid : Utf8.valid l = true) (lines : List (List UInt8)) :
    text (l :: lines) = l :: text lines := List.takeWhile_cons_of_pos valid

theorem text_append {before : List (List UInt8)} (valid : ∀ l ∈ before, Utf8.valid l = true)
    (lines : List (List UInt8)) : text (before ++ lines) = before ++ text lines :=
  List.takeWhile_append_of_pos valid

theorem text_eq_self {lines : List (List UInt8)} (valid : ∀ l ∈ lines, Utf8.valid l = true) :
    text lines = lines := by
  have all := text_append valid []
  rwa [List.append_nil, show text [] = [] from rfl, List.append_nil] at all

theorem documents_append (before after : List (List UInt8)) :
    documents (before ++ after) = documents before ++ documents after := by
  rw [documents, List.map_append, List.filter_append]
  rfl

/-- How lines end a session. -/
def close (r : Runner σ) (lines : List (List UInt8)) : Ending :=
  if none ∈ r.answersFrom (documents (text lines)) then .aborted
  else if lines.all Utf8.valid then .finished (.ok ())
  else .failed .notUtf8

theorem close_filled (r : Runner σ) {l : List UInt8} (valid : Utf8.valid l = true)
    (filled : skips (Text.chomp 0x0A 0x0D l) = false) (lines : List (List UInt8)) :
    close r (l :: lines) = match (r.turnFrom (Text.chomp 0x0A 0x0D l)).answer with
      | none => .aborted
      | some _ => close (r.turnFrom (Text.chomp 0x0A 0x0D l)).runner lines := by
  simp only [close, text_cons valid, documents_cons filled, Runner.answersFrom_cons,
    List.all_cons, valid, Bool.true_and]
  cases (r.turnFrom (Text.chomp 0x0A 0x0D l)).answer with
  | none => simp
  | some reply => simp

/-- Lines are answered one by one, each by the turn of what it holds. -/
theorem serve_eq (r : Runner σ) (lines : List (List UInt8)) :
    serve r {} lines = ⟨told (r.stepsFrom (documents (text lines))), close r lines⟩ := by
  induction lines generalizing r with
  | nil => rfl
  | cons l lines ih =>
    cases valid : Utf8.valid l with
    | false =>
      have cut : text (l :: lines) = [] := List.takeWhile_cons_of_neg (by simp [valid])
      have ending : close r (l :: lines) = .failed .notUtf8 := by
        simp [close, cut, valid, Runner.answersFrom, documents, Runner.stepsFrom]
      simp only [serve, valid, cut, ending, Bool.not_false, ↓reduceIte]
      rfl
    | true =>
      cases blank : skips (Text.chomp 0x0A 0x0D l) with
      | true =>
        have ending : close r (l :: lines) = close r lines := by
          simp only [close, text_cons valid, documents_cons_blank blank, List.all_cons, valid,
            Bool.true_and]
        rw [ending, text_cons valid, documents_cons_blank blank, ← ih]
        simp only [serve, valid, blank, Bool.not_true, Bool.false_eq_true, ↓reduceIte]
      | false =>
        rw [close_filled r valid blank, text_cons valid, documents_cons blank, Runner.stepsFrom,
          told]
        simp only [serve, valid, blank, Bool.not_true, Bool.false_eq_true, ↓reduceIte, send_open, ih]
        cases (r.turnFrom (Text.chomp 0x0A 0x0D l)).answer with
        | none => rfl
        | some reply => rfl

theorem close_eq_finished_iff (r : Runner σ) (lines : List (List UInt8)) :
    close r lines = .finished (.ok ()) ↔
      (∀ l ∈ lines, Utf8.valid l = true) ∧ none ∉ r.answersFrom (documents lines) := by
  constructor
  · intro finished
    rw [close] at finished
    split at finished
    · cases finished
    · next present =>
      split at finished
      · next valid =>
        have valid : ∀ l ∈ lines, Utf8.valid l = true := List.all_eq_true.mp valid
        rw [text_eq_self valid] at present
        exact ⟨valid, present⟩
      · cases finished
  · rintro ⟨valid, present⟩
    rw [close, text_eq_self valid, if_neg present, if_pos (List.all_eq_true.mpr valid)]

/-! ## A whole session -/

theorem run_of_error {factory : Factory σ} {payload : List UInt8} {e : SessionError}
    (failed : (Runner.load factory payload .idle).1 = .error e) (input : List UInt8) :
    run factory payload input =
      ⟨[.reply (line .init (.error e : InitReply))], .finished (.error e)⟩ := by
  simp only [run, failed]
  rfl

theorem run_of_ok {factory : Factory σ} {payload : List UInt8}
    (started : (Runner.load factory payload .idle).1 = .ok ()) (input : List UInt8) :
    let r := (Runner.load factory payload .idle).2
    let lines := Text.rawLines input
    run factory payload input =
      (Transcript.mk (told (r.stepsFrom (documents (text lines)))) (close r lines)).after
        (.reply (line .init (.ok () : InitReply))) := by
  simp only [run, started, send_open, serve_eq]

theorem replies_run {factory : Factory σ} {payload : List UInt8}
    (started : (Runner.load factory payload .idle).1 = .ok ()) (input : List UInt8) :
    (run factory payload input).replies = line .init (.ok () : InitReply) ::
      (given ((Runner.load factory payload .idle).2.answersFrom
        (documents (text (Text.rawLines input))))).map (line .output) := by
  rw [run_of_ok started]
  exact congrArg (line .init (.ok () : InitReply) :: ·) (replies_told _ _)

theorem ending_run {factory : Factory σ} {payload : List UInt8}
    (started : (Runner.load factory payload .idle).1 = .ok ()) (input : List UInt8) :
    (run factory payload input).ending =
      close (Runner.load factory payload .idle).2 (Text.rawLines input) := by
  rw [run_of_ok started]
  rfl

/-- Whatever a session writes is written in lines. -/
theorem line_of_mem_replies {factory : Factory σ} {payload input l : List UInt8}
    (mem : l ∈ (run factory payload input).replies) : Text.Line (· == 0x0A) l := by
  cases started : (Runner.load factory payload .idle).1 with
  | error e =>
    rw [run_of_error started] at mem
    rw [List.mem_singleton.mp mem]
    exact line_line _ _
  | ok =>
    rw [replies_run started] at mem
    rcases List.mem_cons.mp mem with rfl | mem
    · exact line_line _ _
    · obtain ⟨reply, -, rfl⟩ := List.mem_map.mp mem
      exact line_line _ _

/-- A session that has answered its payload and then every line that is not blank, in their
order, with what comes of what it holds. -/
structure Transcript.AnswersAll (t : Transcript) (r : Runner σ) (lines : List (List UInt8)) :
    Prop where
  ended : t.ending = .finished (.ok ())
  replies : ∃ all : List TurnReply, r.answersFrom (documents lines) = all.map some ∧
    t.replies = line .init (.ok () : InitReply) :: all.map (line .output)

theorem answersAll_iff {factory : Factory σ} {payload : List UInt8}
    (started : (Runner.load factory payload .idle).1 = .ok ()) (input : List UInt8) :
    let r := (Runner.load factory payload .idle).2
    let lines := Text.rawLines input
    (run factory payload input).AnswersAll r lines ↔
      (∀ l ∈ lines, Utf8.valid l = true) ∧ none ∉ r.answersFrom (documents lines) := by
  intro r lines
  rw [← close_eq_finished_iff, ← ending_run started]
  refine ⟨fun answers => answers.ended, fun ended => ⟨ended, ?_⟩⟩
  obtain ⟨valid, present⟩ :=
    (close_eq_finished_iff r lines).mp ((ending_run started input).symm.trans ended)
  refine ⟨given (r.answersFrom (documents lines)), (map_some_given present).symm, ?_⟩
  rw [replies_run started, text_eq_self valid]

/-- A line that is not blank and whose document cannot be read has a reply of its own, and the
others have theirs as if it were not there. -/
theorem replies_unreadable {factory : Factory σ} {payload input other : List UInt8}
    (started : (Runner.load factory payload .idle).1 = .ok ())
    {before after : List (List UInt8)} {bad : List UInt8} {e : Json.Refusal}
    (lines : Text.rawLines input = before ++ bad :: after)
    (without : Text.rawLines other = before ++ after)
    (filled : skips (Text.chomp 0x0A 0x0D bad) = false)
    (unreadable : Json.decode Board (Text.chomp 0x0A 0x0D bad) = .error e)
    (answers : (run factory payload input).AnswersAll (Runner.load factory payload .idle).2
      (Text.rawLines input)) :
    let r := (Runner.load factory payload .idle).2
    let refused : TurnReply := .error ((r.afterFrom (documents before)).refusal e)
    (run factory payload other).AnswersAll r (Text.rawLines other) ∧
      ∃ earlier later, (run factory payload input).replies =
          earlier ++ line .output refused :: later ∧
        (run factory payload other).replies = earlier ++ later := by
  intro r refused
  obtain ⟨valid, -⟩ := (answersAll_iff started input).mp answers
  obtain ⟨all, each, written⟩ := answers.replies
  have split : r.answersFrom (documents (Text.rawLines input)) =
      r.answersFrom (documents before) ++ some refused ::
        (r.afterFrom (documents before)).answersFrom (documents after) := by
    rw [lines, documents_append, documents_cons filled, Runner.answersFrom_append,
      Runner.answersFrom_cons, Runner.turnFrom_unreadable _ unreadable]
  have joined : r.answersFrom (documents (Text.rawLines other)) =
      r.answersFrom (documents before) ++
        (r.afterFrom (documents before)).answersFrom (documents after) := by
    rw [without, documents_append, Runner.answersFrom_append]
  obtain ⟨earlier, _, rfl, first, behind⟩ :=
    List.map_eq_append_iff.mp (each.symm.trans split)
  obtain ⟨_, later, rfl, own, last⟩ := List.map_eq_cons_iff.mp behind
  obtain rfl := Option.some.inj own
  rw [← first, ← last, ← List.map_append] at joined
  have others : (run factory payload other).AnswersAll r (Text.rawLines other) := by
    refine (answersAll_iff started other).mpr ⟨fun l mem => valid l ?_, ?_⟩
    · rw [without, List.mem_append] at mem
      rw [lines, List.mem_append]
      exact mem.imp_right (List.mem_cons_of_mem _)
    · show none ∉ r.answersFrom (documents (Text.rawLines other))
      rw [joined]
      simp
  obtain ⟨rest, again, rewritten⟩ := others.replies
  obtain rfl : earlier ++ later = rest :=
    (List.map_inj_right fun _ _ => Option.some.inj).mp (joined.symm.trans again)
  refine ⟨others, line .init (.ok () : InitReply) :: earlier.map (line .output),
    later.map (line .output), ?_, ?_⟩
  · rw [written, List.map_append, List.map_cons]
    rfl
  · rw [rewritten, List.map_append]
    rfl

/-- A session that starts answers every line that is not blank if and only if every line is text
and no turn is abandoned. The first line that is not text ends it, and the lines behind that one
have no reply. A line of text whose document cannot be read costs its own reply only. A session
that does not start says why and reads nothing. -/
theorem answers_all_iff_text (factory : Factory σ) (payload input : List UInt8) :
    let loaded := Runner.load factory payload .idle
    let lines := Text.rawLines input
    let t := run factory payload input
    (∀ l ∈ t.replies, Text.Line (· == 0x0A) l) ∧
    (∀ e, loaded.1 = .error e →
      t.ending = .finished (.error e) ∧ t.replies = [line .init loaded.1]) ∧
    (loaded.1 = .ok () →
      (t.AnswersAll loaded.2 lines ↔
        (∀ l ∈ lines, Utf8.valid l = true) ∧
          none ∉ loaded.2.answersFrom (documents lines)) ∧
      (∀ before bad after, lines = before ++ bad :: after →
        (∀ l ∈ before, Utf8.valid l = true) → Utf8.valid bad = false →
        none ∉ loaded.2.answersFrom (documents before) →
        t.ending = .failed .notUtf8 ∧
          ∃ all : List TurnReply, loaded.2.answersFrom (documents before) = all.map some ∧
            t.replies = line .init loaded.1 :: all.map (line .output)) ∧
      ∀ other before bad after e, t.AnswersAll loaded.2 lines →
        lines = before ++ bad :: after → Text.rawLines other = before ++ after →
        skips (Text.chomp 0x0A 0x0D bad) = false →
        Json.decode Board (Text.chomp 0x0A 0x0D bad) = .error e →
        let refused : TurnReply := .error ((loaded.2.afterFrom (documents before)).refusal e)
        (run factory payload other).AnswersAll loaded.2 (Text.rawLines other) ∧
          ∃ earlier later, t.replies = earlier ++ line .output refused :: later ∧
            (run factory payload other).replies = earlier ++ later) := by
  intro loaded lines t
  refine ⟨fun l mem => line_of_mem_replies mem, fun e failed => ?_, fun started => ⟨?_, ?_, ?_⟩⟩
  · have whole : t = _ := run_of_error failed input
    rw [whole, failed]
    exact ⟨rfl, rfl⟩
  · exact answersAll_iff started input
  · intro before bad after split valid broken present
    have heard : text (Text.rawLines input) = before := by
      rw [show Text.rawLines input = _ from split, text_append valid]
      simp [text, broken]
    have unheard : (Text.rawLines input).all Utf8.valid = false := by
      rw [show Text.rawLines input = _ from split]
      simp [broken]
    refine ⟨?_, given (loaded.2.answersFrom (documents before)), (map_some_given present).symm, ?_⟩
    · rw [ending_run started, close, heard, if_neg present, unheard]
      rfl
    · rw [replies_run started, heard, started]
  · intro other before bad after e answers split without filled unreadable
    exact replies_unreadable started split without filled unreadable answers

/-! ## Lines of boards -/

theorem chomp_request (b : Board) :
    Text.chomp 0x0A 0x0D (Host.Child.request b) = Json.encode b :=
  Text.chomp_line ((Json.printed_document b).not_mem (by decide))

theorem valid_request (b : Board) : Utf8.valid (Host.Child.request b) = true :=
  (Json.printed_document b).valid_feed

theorem line_request (b : Board) : Text.Line (· == 0x0A) (Host.Child.request b) :=
  Host.line_closed ((Json.printed_document b).not_mem (by decide))

theorem skips_encode (b : Board) : skips (Json.encode b) = false := by
  obtain ⟨s, read, blank⟩ :
      ∃ s, Utf8.decode? (Json.encode b) = some s ∧ Text.isBlank s = false :=
    Json.decode?_object _
  simp [skips, read, blank]

theorem rawLines_requests (boards : List Board) :
    Text.rawLines (boards.flatMap Host.Child.request) = boards.map Host.Child.request := by
  rw [List.flatMap_def]
  refine Text.pieces_lines fun l mem => ?_
  obtain ⟨b, -, rfl⟩ := List.mem_map.mp mem
  exact line_request b

theorem documents_requests (boards : List Board) :
    documents (boards.map Host.Child.request) = boards.map Json.encode := by
  induction boards with
  | nil => rfl
  | cons b boards ih =>
    have filled : skips (Text.chomp 0x0A 0x0D (Host.Child.request b)) = false := by
      rw [chomp_request, skips_encode]
    rw [List.map_cons, documents_cons filled, chomp_request, ih]
    rfl

/-- The lines of boards ask for their turns. -/
theorem run_requests {factory : Factory σ} {payload : List UInt8}
    (started : (Runner.load factory payload .idle).1 = .ok ()) {boards : List Board}
    (consistent : ∀ b ∈ boards, b.Consistent) :
    let r := (Runner.load factory payload .idle).2
    run factory payload (boards.flatMap Host.Child.request) =
      (Transcript.mk (told (r.steps boards))
        (if none ∈ r.answers boards then .aborted else .finished (.ok ()))).after
        (.reply (line .init (.ok () : InitReply))) := by
  intro r
  have valid : ∀ l ∈ boards.map Host.Child.request, Utf8.valid l = true := by
    intro l mem
    obtain ⟨b, -, rfl⟩ := List.mem_map.mp mem
    exact valid_request b
  have steps : r.stepsFrom (documents (text (boards.map Host.Child.request))) =
      r.steps boards := by
    rw [text_eq_self valid, documents_requests, r.stepsFrom_encode consistent]
  rw [run_of_ok started, rawLines_requests, steps, close, Runner.answersFrom, steps,
    List.all_eq_true.mpr valid]
  rfl

/-- A session that finishes over them has answered its payload, and behind a start each board. -/
theorem finished_requests {factory : Factory σ} {payload : List UInt8} {boards : List Board}
    (consistent : ∀ b ∈ boards, b.Consistent) {reply : InitReply}
    (ended : (run factory payload (boards.flatMap Host.Child.request)).ending = .finished reply) :
    ∃ all : List TurnReply, (run factory payload (boards.flatMap Host.Child.request)).replies =
        line .init reply :: all.map (line .output) ∧
      (reply = .ok () → (Runner.load factory payload .idle).2.answers boards = all.map some) ∧
      ∀ e, reply = .error e → all = [] := by
  cases started : (Runner.load factory payload .idle).1 with
  | error e =>
    rw [run_of_error started] at ended ⊢
    cases ended
    exact ⟨[], rfl, nofun, fun _ _ => rfl⟩
  | ok =>
    rw [run_requests started consistent] at ended ⊢
    change (if none ∈ (Runner.load factory payload .idle).2.answers boards
      then Ending.aborted else .finished (.ok ())) = _ at ended
    split at ended
    · cases ended
    · next present =>
      cases ended
      refine ⟨given _, ?_, fun _ => (map_some_given present).symm, nofun⟩
      exact congrArg (line .init (.ok () : InitReply) :: ·) (replies_told _ _)

/-! ## Two inputs -/

/-- Two units that face each other. -/
def duel : Board where
  turn := 1
  team := .red
  red := ["u1"]
  blue := ["e1"]
  entities := .ofList [("u1", ⟨"u1", ⟨1, 1⟩, .unit .red 5⟩), ("e1", ⟨"e1", ⟨5, 5⟩, .unit .blue 5⟩)]
  grid := []

/-- What a hunter reports of its first turn there. -/
def hunted : TurnReport where
  actions := .ofList [("u1", .ok (some ⟨.move, .south⟩))]
  logs := ["hunting for team Red"]
  tables := .ofList [("u1", .ofList [("target", "e1")])]
  inspections := ["e1"]

theorem consistent_duel : duel.Consistent := (Board.error?_eq_none_iff duel).mp rfl

/-- A hunter is asked by a document that it cannot read, and then for its turn. -/
theorem answersFrom_duel {document : List UInt8} {e : Json.Refusal}
    (unreadable : Json.decode Board document = .error e) :
    (Runner.load Demo.robot [] .idle).2.answersFrom [document, Json.encode duel] =
      [some (.error (.badData e.message)), some (.ok hunted)] := by
  rw [Runner.answersFrom_cons, Runner.turnFrom_unreadable _ unreadable, Runner.answersFrom_cons,
    Runner.turnFrom_encode _ consistent_duel]
  rfl

/-- A line that begins no document stands before a blank one and a board. -/
theorem answers_all_iff_text_duel :
    let blank : List UInt8 := [0x20, 0x0D, 0x0A]
    let t := run Demo.robot [] ([0x78, 0x0A] ++ (blank ++ Host.Child.request duel))
    let u := run Demo.robot [] (blank ++ Host.Child.request duel)
    let refused : TurnReply := .error (.badData "expected value at line 1 column 1")
    t.ending = .finished (.ok ()) ∧ ∃ earlier later,
      t.replies = earlier ++ line .output refused :: later ∧ u.replies = earlier ++ later := by
  intro blank t u refused
  have short : Text.Line (· == 0x0A) blank := Host.line_closed (show 0x0A ∉ [0x20, 0x0D] by decide)
  have junk : Text.Line (· == 0x0A) ([0x78, 0x0A] : List UInt8) :=
    Host.line_closed (show 0x0A ∉ [0x78] by decide)
  have without : Text.rawLines (blank ++ Host.Child.request duel) =
      [blank, Host.Child.request duel] := by
    rw [Text.rawLines, Text.pieces_cons short, Text.pieces_line (line_request duel)]
  have lines : Text.rawLines ([0x78, 0x0A] ++ (blank ++ Host.Child.request duel)) =
      [[0x78, 0x0A], blank, Host.Child.request duel] := by
    rw [Text.rawLines, Text.pieces_cons junk, ← Text.rawLines, without]
  have asked : documents [[0x78, 0x0A], blank, Host.Child.request duel] =
      [[0x78], Json.encode duel] := by
    rw [documents_cons (by decide), documents_cons_blank (by decide)]
    exact congrArg ([0x78] :: ·) (documents_requests [duel])
  have unreadable : Json.decode Board [0x78] = .error ⟨.noValue, some ⟨1, 1⟩⟩ := rfl
  have present : none ∉ (Runner.load Demo.robot [] .idle).2.answersFrom
      [[0x78], Json.encode duel] := by
    rw [answersFrom_duel unreadable]
    simp
  obtain ⟨-, -, law⟩ :=
    answers_all_iff_text Demo.robot [] ([0x78, 0x0A] ++ (blank ++ Host.Child.request duel))
  obtain ⟨iff, -, alone⟩ := law rfl
  have answers := iff.mpr ⟨?_, ?_⟩
  · obtain ⟨-, each⟩ := alone _ [] [0x78, 0x0A] [blank, Host.Child.request duel] _ answers lines
      without (by decide) unreadable
    exact ⟨answers.ended, each⟩
  · rw [lines]
    simpa [valid_request] using And.intro (show Utf8.valid [0x78, 0x0A] = true by decide)
      (show Utf8.valid blank = true by decide)
  · rwa [lines, asked]

/-- An octet that is no text stands before the same board. -/
theorem stray_octet_silences_robot :
    let loaded := Runner.load Demo.robot [] .idle
    let input := [0xFF, 0x0A] ++ Host.Child.request duel
    let t := run Demo.robot [] input
    loaded.1 = .ok () ∧ documents (Text.rawLines input) = [[0xFF], Json.encode duel] ∧
      loaded.2.answersFrom [[0xFF], Json.encode duel] =
        [some (.error (.badData "expected value at line 1 column 1")), some (.ok hunted)] ∧
      t.replies = [line .init (.ok () : InitReply)] ∧ t.ending = .failed .notUtf8 ∧
      ¬ t.AnswersAll loaded.2 (Text.rawLines input) := by
  intro loaded input t
  have lines : Text.rawLines input = [[0xFF, 0x0A], Host.Child.request duel] := by
    have first : Text.Line (· == 0x0A) ([0xFF, 0x0A] : List UInt8) :=
      Host.line_closed (show 0x0A ∉ [0xFF] by decide)
    rw [Text.rawLines, Text.pieces_cons first, Text.pieces_line (line_request duel)]
  have ending : t.ending = .failed .notUtf8 := by
    rw [ending_run rfl, lines]
    rfl
  have octet : Json.decode Board [0xFF] = .error ⟨.noValue, some ⟨1, 1⟩⟩ := rfl
  refine ⟨rfl, ?_, answersFrom_duel octet, ?_, ending, fun answers => ?_⟩
  · have board := documents_requests [duel]
    rw [lines, documents_cons (by decide)]
    exact congrArg ([0xFF] :: ·) board
  · rw [replies_run rfl, lines]
    rfl
  · cases ending.symm.trans answers.ended

end LineRobot
end RobotTurn
