import RobotTurn.Host.Child
import RobotTurn.Proofs.Json.Printed
import RobotTurn.Proofs.Text.Lines
import RobotTurn.Proofs.Wire.Reply

/-! One line from a robot, as the host reads it: the ends are cut off, and what follows the
mark is taken as a reply. -/
namespace RobotTurn.Host.Child

/-- Whether an octet belongs to the end of a line. -/
def isEnd (b : UInt8) : Bool := b == 0x0A || b == 0x0D

/-- A line without the line feeds and carriage returns at its end. -/
def trimmed (line : List UInt8) : List UInt8 :=
  (line.reverse.dropWhile isEnd).reverse

theorem lineText_ok {raw : List UInt8} (h : Utf8.valid raw = true) :
    lineText (.ok raw) = .ok (trimmed raw) := by
  simp only [lineText, bind, Except.bind, (Utf8.fault?_eq_none_iff raw).mpr h]
  rfl

/-- A line that is not text is told with the first stretch that is malformed. -/
theorem lineText_fault {raw : List UInt8} {start : Nat} {length : Option Nat}
    (h : Utf8.fault? raw = some (start, length)) :
    lineText (.ok raw) = .error (.malformed start length) := by
  simp only [lineText, bind, Except.bind, h]
  rfl

theorem trimmed_isPrefix (line : List UInt8) : trimmed line <+: line := by
  rw [← List.reverse_suffix, trimmed, List.reverse_reverse]
  exact List.dropWhile_suffix isEnd

@[simp] theorem trimmed_feed (line : List UInt8) : trimmed (line ++ [0x0A]) = trimmed line := by
  simp [trimmed, isEnd]

/-- Only the end of a line is cut off. -/
theorem trimmed_append {front : List UInt8} (h : trimmed front = front) (rest : List UInt8) :
    trimmed (front ++ rest) = front ++ trimmed rest := by
  rw [trimmed, List.reverse_append, List.dropWhile_append]
  split
  · next all =>
    rw [List.isEmpty_iff] at all
    have nothing : trimmed rest = [] := by rw [trimmed, all, List.reverse_nil]
    rw [nothing, List.append_nil]
    exact h
  · rw [List.reverse_append, List.reverse_reverse]
    rfl

theorem trimmed_eq_self {line : List UInt8} (h : ∀ b ∈ line, isEnd b = false) :
    trimmed line = line := by
  rw [trimmed]
  cases shown : line.reverse with
  | nil => exact (List.reverse_eq_nil_iff.mp shown).symm
  | cons b bs =>
    have inner := h b (List.mem_reverse.mp (shown ▸ List.mem_cons_self))
    rw [List.dropWhile_cons_of_neg (by simp [inner]), ← shown, List.reverse_reverse]

theorem trimmed_mark (heading : LineRobot.Heading) (rest : List UInt8) :
    trimmed (Utf8.encode (LineRobot.mark heading) ++ rest) =
      Utf8.encode (LineRobot.mark heading) ++ trimmed rest :=
  trimmed_append (by cases heading <;> decide) rest

theorem body?_mark (heading : LineRobot.Heading) (rest : List UInt8) :
    body? heading (Utf8.encode (LineRobot.mark heading) ++ rest) = some rest := by
  have marked : (Utf8.encode (LineRobot.mark heading)).isPrefixOf
      (Utf8.encode (LineRobot.mark heading) ++ rest) = true :=
    List.isPrefixOf_iff_prefix.mpr (List.prefix_append _ _)
  simp [body?, marked]

theorem body?_none {heading : LineRobot.Heading} {line : List UInt8}
    (h : ¬ Utf8.encode (LineRobot.mark heading) <+: line) : body? heading line = none := by
  rw [body?]
  exact if_neg fun marked => h (List.isPrefixOf_iff_prefix.mp marked)

theorem trimmed_printed {bs : List UInt8} (printed : Json.Printed bs) : trimmed bs = bs := by
  refine trimmed_eq_self fun b mem => ?_
  have feed : b ≠ 0x0A := fun eq => printed.not_mem (by decide) (eq ▸ mem)
  have ret : b ≠ 0x0D := fun eq => printed.not_mem (by decide) (eq ▸ mem)
  simp [isEnd, feed, ret]

/-! ## Lines that a robot writes for the host -/

open Json (Wire Lawful)

variable {α : Type} [Wire α]

theorem printed_marked (heading : LineRobot.Heading) (a : α) :
    Json.Printed (Utf8.encode (LineRobot.mark heading) ++ Json.encode a) :=
  .append (Json.printed_encode (by cases heading <;> simp [LineRobot.mark]))
    (Json.printed_document a)

theorem lineText_line (heading : LineRobot.Heading) (a : α) :
    lineText (.ok (LineRobot.line heading a)) =
      .ok (Utf8.encode (LineRobot.mark heading) ++ Json.encode a) := by
  have printed := printed_marked heading a
  rw [LineRobot.line, lineText_ok printed.valid_feed, trimmed_feed, trimmed_printed printed]

theorem start_line (reply : InitReply) (rest : List (Except StreamError (List UInt8))) :
    start { incoming := .ok (LineRobot.line .init reply) :: rest } =
      ({ reply }, { incoming := rest }) := by
  simp only [start, lineText_line, body?_mark, readReply_encode]

/-- A reply is read as it was written, with the lines noted before it at the end of its log. -/
theorem await_line (noted : List String) (reply : TurnReply)
    (rest : List (Except StreamError (List UInt8))) :
    await noted (.ok (LineRobot.line .output reply) :: rest) =
      (reply.map (TurnReport.noting · noted), rest) := by
  rw [await, lineText_line]
  simp only [body?_mark, readReply_encode]

end RobotTurn.Host.Child
