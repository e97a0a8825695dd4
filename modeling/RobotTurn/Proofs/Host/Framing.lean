import RobotTurn.Proofs.Host.Pairing

/-! The lines of replies. A reply stands on one line, wherever that line stands in the output the
host finds it as it was written, and different replies have different lines. So the output of a
session says what its robot replied (`replies_framed`). -/
namespace RobotTurn

open Json (Wire Lawful)
open LineRobot (Heading line mark)

namespace LineRobot

variable {α : Type} [Wire α]

theorem line_line (heading : Heading) (a : α) : Text.Line (· == 0x0A) (line heading a) :=
  Host.line_closed ((Host.Child.printed_marked heading a).not_mem (by decide))

theorem line_inj [Lawful α] {heading : Heading} {a b : α} (same : line heading a = line heading b) :
    a = b := by
  refine Json.encode_inj ?_
  simpa only [line, List.append_assoc, List.append_cancel_left_eq,
    List.append_cancel_right_eq] using same

/-- The lines of several replies are found again, and those of what follows them. -/
theorem rawLines_lines (heading : Heading) (replies : List α) (rest : List UInt8) :
    Text.rawLines (replies.flatMap (line heading) ++ rest) =
      replies.map (line heading) ++ Text.rawLines rest := by
  rw [List.flatMap_def]
  refine Text.pieces_flatten (fun l mem => ?_) rest
  obtain ⟨a, -, rfl⟩ := List.mem_map.mp mem
  exact line_line heading a

/-- The lines of a session that has answered its payload. -/
theorem rawLines_session (start : InitReply) (replies : List TurnReply) :
    Text.rawLines (line .init start ++ replies.flatMap (line .output)) =
      line .init start :: replies.map (line .output) := by
  have found := rawLines_lines .output replies []
  rw [List.append_nil] at found
  rw [Text.rawLines, Text.pieces_cons (line_line _ _), ← Text.rawLines, found]
  exact congrArg (line .init start :: ·) (List.append_nil _)

end LineRobot

namespace Host

/-- The replies of a kind, each on a line of its own. -/
structure Framed (heading : Heading) (α : Type) [Wire α] : Prop where
  decoded : ∀ a : α, Json.decode α (Json.encode a) = .ok a
  unbroken : ∀ a : α, 0x0A ∉ Json.encode a ∧ 0x0D ∉ Json.encode a
  next : ∀ (a : α) (rest : List UInt8), (Child.ofOutput (line heading a ++ rest)).incoming =
    .ok (line heading a) :: (Child.ofOutput rest).incoming
  text : ∀ a : α, Child.lineText (.ok (line heading a)) =
    .ok (Utf8.encode (mark heading) ++ Json.encode a)
  body : ∀ a : α, Child.body? heading (Utf8.encode (mark heading) ++ Json.encode a) =
    some (Json.encode a)
  distinct : ∀ a b : α, line heading a = line heading b → a = b

theorem framed (heading : Heading) (α : Type) [Wire α] [Lawful α] : Framed heading α where
  decoded := Json.decode_encode
  unbroken a :=
    have printed := Json.printed_document a
    ⟨printed.not_mem (by decide), printed.not_mem (by decide)⟩
  next a rest := by
    simp only [Child.ofOutput, Text.rawLines, Text.pieces_cons (LineRobot.line_line heading a),
      List.map_cons]
  text := Child.lineText_line heading
  body a := Child.body?_mark heading (Json.encode a)
  distinct _ _ := LineRobot.line_inj

/-- The answer to a payload and the replies of a session can be told from what it writes. -/
theorem output_injective {start start' : InitReply} {replies replies' : List TurnReply}
    (same : line .init start ++ replies.flatMap (line .output) =
      line .init start' ++ replies'.flatMap (line .output)) :
    start = start' ∧ replies = replies' := by
  have found := congrArg Text.rawLines same
  rw [LineRobot.rawLines_session, LineRobot.rawLines_session] at found
  obtain ⟨first, others⟩ := List.cons.inj found
  exact ⟨LineRobot.line_inj first, (List.map_inj_right fun _ _ => LineRobot.line_inj).mp others⟩

/-- Every answer to a payload and every reply to a turn is read back as it was, and stands on one
line that the host finds and that no other reply has. Two sessions that write the same have
replied the same. -/
theorem replies_framed :
    Framed .init InitReply ∧ Framed .output TurnReply ∧
      ∀ (start start' : InitReply) (replies replies' : List TurnReply),
        line .init start ++ replies.flatMap (line .output) =
          line .init start' ++ replies'.flatMap (line .output) →
        start = start' ∧ replies = replies' :=
  ⟨framed .init InitReply, framed .output TurnReply, fun _ _ _ _ => output_injective⟩

/-- A unit without an action, and one that failed somewhere before the third column of a line. -/
def oddReply : TurnReply := .ok {
  actions := .ofList
    [("a\"\n", .ok none), ("b", .error ⟨some ⟨(1, none), some (2, some 3)⟩, "\r\u0001", some ""⟩)]
  logs := ["__rr_output:\n"] }

theorem replies_framed_odd :
    Json.decode TurnReply (Json.encode oddReply) = .ok oddReply ∧
      (Child.ofOutput (line .output oddReply ++ [0x78])).incoming =
        [.ok (line .output oddReply), .ok [0x78]] ∧
      line .init (.ok () : InitReply) ++ [oddReply].flatMap (line .output) ≠
        line .init (.ok () : InitReply) ++ [(.ok {} : TurnReply)].flatMap (line .output) := by
  obtain ⟨-, framed, told⟩ := replies_framed
  refine ⟨framed.decoded oddReply, framed.next oddReply [0x78], fun same => ?_⟩
  obtain ⟨-, replied⟩ := told _ _ _ _ same
  exact absurd replied (by decide)

end Host
end RobotTurn
