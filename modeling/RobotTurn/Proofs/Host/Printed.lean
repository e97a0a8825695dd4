import RobotTurn.Proofs.Host.Pairing
import RobotTurn.Proofs.Host.Streams

/-! What a robot prints in a turn, in a sandbox and over lines. Either way the lines stand in the log
behind those of the robot's reply. In a sandbox they are the lines of the text. Over lines each of
them is cut further, to where no carriage return is left at its end, and so the logs differ exactly
if some line has two there (`printed_alike_iff`). -/
namespace RobotTurn.Host

open Child (trimmed isEnd)

variable {σ : Type}

/-! ## The ends of lines -/

theorem encodeChar_endsLine {c : Char} (ends : Text.endsLine c = true) :
    ∃ b, Utf8.encodeChar c = [b] ∧ isEnd b = true := by
  simp only [Text.endsLine, Bool.or_eq_true, beq_iff_eq] at ends
  rcases ends with rfl | rfl
  · exact ⟨0x0A, by decide, rfl⟩
  · exact ⟨0x0D, by decide, rfl⟩

theorem isEnd_of_mem_encodeChar {c : Char} (inner : Text.endsLine c = false) {b : UInt8}
    (mem : b ∈ Utf8.encodeChar c) : isEnd b = false := by
  by_contra ends
  simp only [isEnd, Bool.not_eq_false, Bool.or_eq_true, beq_iff_eq] at ends
  have value : c.toNat = b.toNat :=
    Utf8.toNat_of_mem_encodeChar (by rcases ends with rfl | rfl <;> decide) mem
  have same : c = '\n' ∨ c = '\r' := by
    rcases ends with rfl | rfl
    · exact .inl (Char.toNat_inj.mp value)
    · exact .inr (Char.toNat_inj.mp value)
  rcases same with rfl | rfl <;> cases inner

theorem trimmed_eq_rdropWhile (line : List UInt8) : trimmed line = line.rdropWhile isEnd := rfl

/-- A text can be cut before or after it is encoded: its last octet is the end of a line only if its
last character is. -/
theorem trimmed_encode (s : String) : trimmed (Utf8.encode s) = Utf8.encode (Text.bare s) := by
  suffices chars : ∀ cs : List Char, trimmed (cs.flatMap Utf8.encodeChar) =
      (cs.rdropWhile Text.endsLine).flatMap Utf8.encodeChar by
    rw [Utf8.encode, chars, Utf8.encode, Text.bare, String.toList_ofList]
  intro cs
  induction cs using List.reverseRecOn with
  | nil => rfl
  | append_singleton cs c ih =>
    rw [List.flatMap_append, List.flatMap_singleton]
    cases ends : Text.endsLine c with
    | true =>
      obtain ⟨b, is, cut⟩ := encodeChar_endsLine ends
      rw [is, trimmed_eq_rdropWhile, List.rdropWhile_concat_pos _ _ _ cut,
        List.rdropWhile_concat_pos _ _ _ ends]
      exact ih
    | false =>
      have stops := List.rdropWhile_concat_neg Text.endsLine cs c (by simp [ends])
      rw [stops, trimmed_eq_rdropWhile, List.rdropWhile_eq_self_iff.mpr, List.flatMap_append,
        List.flatMap_singleton]
      intro ne
      have last := List.getLast_append_of_ne_nil ne (Utf8.encodeChar_ne_nil c)
      rw [last, isEnd_of_mem_encodeChar ends (List.getLast_mem _)]
      exact Bool.false_ne_true

/-! ## What a robot prints -/

theorem closed_encode (l : String) : closed (Utf8.encode l) = Utf8.encode (l ++ "\n") := by
  have feed : Utf8.encode "\n" = [0x0A] := by decide
  rw [closed, Utf8.encode_append, feed]

/-- The octets of some printed lines, and then of a reply. -/
theorem flatten_lines (ls : List String) (reply : List UInt8) :
    (Group.lines ⟨ls.map Utf8.encode, reply⟩).flatten =
      Utf8.encode (Text.printed ls) ++ closed (outputMark ++ reply) := by
  have printed : ((ls.map Utf8.encode).map closed).flatten = Utf8.encode (Text.printed ls) := by
    induction ls with
    | nil => rfl
    | cons l ls ih =>
      rw [List.map_cons, List.map_cons, List.flatten_cons, ih, closed_encode, ← Utf8.encode_append,
        ← Text.printed_cons]
  rw [Group.lines, List.flatten_append, printed, List.flatten_singleton]

theorem notes_encode (ls : List String) : notes (ls.map Utf8.encode) = ls.map Text.bare := by
  rw [notes, List.map_map]
  refine List.map_congr_left fun l _ => ?_
  rw [Function.comp_apply, trimmed_encode, Utf8.lossy_encode]

theorem readable_encode (ls : List String) (reply : List UInt8) :
    (Group.mk (ls.map Utf8.encode) reply).Readable := by
  intro body mem
  obtain ⟨l, -, rfl⟩ := List.mem_map.mp mem
  rw [closed_encode, Utf8.valid_encode]

theorem formed_encode {ls : List String} (whole : ∀ l ∈ ls, '\n' ∉ l.toList)
    (unmarked : ∀ l ∈ ls, ¬ outputMark <+: Utf8.encode l) {reply : List UInt8}
    (last : 0x0A ∉ reply) : (Group.mk (ls.map Utf8.encode) reply).Formed where
  whole body mem := by
    obtain ⟨l, listed, rfl⟩ := List.mem_map.mp mem
    exact Utf8.feed_not_mem_encode (whole l listed)
  unmarked body mem := by
    obtain ⟨l, listed, rfl⟩ := List.mem_map.mp mem
    exact unmarked l listed
  last := last

namespace Session

/-- A session over lines notes each printed line without any carriage return at its end. -/
theorem Open.notes_printed {c : Session Child} (opened : c.Open) (b : Board) {ls : List String}
    (whole : ∀ l ∈ ls, '\n' ∉ l.toList) (unmarked : ∀ l ∈ ls, ¬ outputMark <+: Utf8.encode l)
    {reply rest : List UInt8} (last : 0x0A ∉ reply)
    (text : Utf8.valid (closed (outputMark ++ reply)) = true) {report : TurnReport}
    (read : readReply (trimmed reply) = .ok report)
    (incoming : c.link.incoming = (Text.rawLines
      (Utf8.encode (Text.printed ls) ++ closed (outputMark ++ reply) ++ rest)).map .ok) :
    (c.turnChild b).1 = .ok {
      reply := .ok { report with logs := report.logs ++ ls.map Text.bare } } := by
  have formed := formed_encode whole unmarked last
  have found : c.link.incoming = (Group.lines ⟨ls.map Utf8.encode, reply⟩).map .ok ++
      (Text.rawLines rest).map .ok := by
    rw [incoming, ← flatten_lines, Text.rawLines, Text.pieces_flatten fun l mem => formed.line mem,
      List.map_append, Text.rawLines]
  have verdict : (Group.mk (ls.map Utf8.encode) reply).verdict =
      .ok (report.noting (ls.map Text.bare)) := by
    simp only [Group.verdict, (Utf8.fault?_eq_none_iff _).mpr text, read, notes_encode]
    rfl
  rw [opened.turnChild_eq, found, Child.await_group formed (readable_encode ls reply), verdict]
  rfl

/-- A sandbox notes each printed line without the one carriage return that belongs to its end. -/
theorem Reached.notes_printed {capacity : Nat} {s : Session (Sandbox σ)}
    (reached : s.Reached capacity) (ready : s.phase = .ready) {b : Board} {text : String}
    {report : TurnReport} (decoded : s.link.decoded b = some (.ok report))
    (wrote : s.link.wrote b .stdout = Utf8.encode text)
    (fits : (Utf8.encode text).length ≤ capacity) :
    ∃ answer next, s.turnSandbox b = some (.ok answer, next) ∧
      answer.reply = .ok { report with logs := report.logs ++ Text.lines text } := by
  have told := reached.told ready b
  rw [decoded, Option.map_some] at told
  obtain ⟨⟨answer, next⟩, played, is⟩ := Option.map_eq_some_iff.mp told
  refine ⟨_, next, by rw [played, ← is], ?_⟩
  rw [Sandbox.told, wrote, List.take_of_length_le fits, Utf8.lossy_encode]
  rfl

/-- A robot prints some lines, none of them marked, and then replies. In a sandbox where they fit,
their text is cut into lines at the end of the robot's own log. Over lines they stand there in the
same order, and the two logs are the same exactly if no line has two carriage returns at its end. -/
theorem printed_alike_iff {capacity : Nat} {s : Session (Sandbox σ)} {c : Session Child}
    {b : Board} {ls : List String} {report : TurnReport} {reply rest : List UInt8}
    (reached : s.Reached capacity) (ready : s.phase = .ready) (opened : c.Open)
    (whole : ∀ l ∈ ls, '\n' ∉ l.toList) (unmarked : ∀ l ∈ ls, ¬ outputMark <+: Utf8.encode l)
    (decoded : s.link.decoded b = some (.ok report))
    (wrote : s.link.wrote b .stdout = Utf8.encode (Text.printed ls))
    (fits : (Utf8.encode (Text.printed ls)).length ≤ capacity) (last : 0x0A ∉ reply)
    (text : Utf8.valid (closed (outputMark ++ reply)) = true)
    (read : readReply (trimmed reply) = .ok report)
    (incoming : c.link.incoming = (Text.rawLines
      (Utf8.encode (Text.printed ls) ++ closed (outputMark ++ reply) ++ rest)).map .ok) :
    let inside := { report with logs := report.logs ++ Text.lines (Text.printed ls) }
    let outside := { report with logs := report.logs ++ ls.map Text.bare }
    (∃ answer next, s.turnSandbox b = some (.ok answer, next) ∧ answer.reply = .ok inside) ∧
      (c.turnChild b).1 = .ok { reply := .ok outside } ∧
      (inside.logs = outside.logs ↔ ∀ l ∈ ls, ¬ ['\r', '\r'] <:+ l.toList) := by
  intro inside outside
  refine ⟨reached.notes_printed ready decoded wrote fits,
    opened.notes_printed b whole unmarked last text read incoming, ?_⟩
  rw [List.append_cancel_left_eq, Text.lines_printed whole, List.map_inj_left]
  refine forall₂_congr fun l mem => ?_
  rw [Text.bare, String.ofList_inj, Text.chomp_eq_rdropWhile_iff (whole l mem)]

/-! ## A robot that prints -/

def spoken : TurnReport := { logs := ["driver"] }

/-- A guest that prints some octets in each of its turns. -/
def speaker (octets : List UInt8) : Guest Unit where
  plan := some { pages := 1 }
  start := .callable (.done ())
  reserve := .callable fun _ => .done 0
  address := .callable (.done 0)
  init := .callable <|
    let reply := Json.encode (.ok () : InitReply)
    .store 0 reply (.done reply.length.toUInt32)
  turn := .callable <|
    let reply := Json.encode (.ok spoken : TurnReply)
    .print .stdout octets (.store 0 reply (.done reply.length.toUInt32))
  own := ()

/-- A session with that guest, in which some lines fit. -/
def speaking (ls : List String) : Option (Session (Sandbox Unit)) :=
  match Sandbox.launch { capacity := 8 } (speaker (Utf8.encode (Text.printed ls))) with
  | .error _ => none
  | .ok s => after callSandbox s [.init []]

/-- The same robot reached over lines. -/
def piped (ls : List String) : Session Child where
  phase := .ready
  link := .ofOutput (Utf8.encode (Text.printed ls) ++
    closed (outputMark ++ Json.encode (.ok spoken : TurnReply)))

theorem speaking_ready (ls : List String)
    (plays : (speaking ls).map (fun s => (s.phase, s.link.decoded default,
      s.link.wrote default .stdout)) =
      some (.ready, some (.ok spoken), Utf8.encode (Text.printed ls))) :
    ∃ s, speaking ls = some s ∧ s.Reached 8 ∧ s.phase = .ready ∧
      s.link.decoded default = some (.ok spoken) ∧
      s.link.wrote default .stdout = Utf8.encode (Text.printed ls) := by
  obtain ⟨s, came, found⟩ := Option.map_eq_some_iff.mp plays
  obtain ⟨phase, found⟩ := Prod.mk.inj found
  obtain ⟨decoded, wrote⟩ := Prod.mk.inj found
  refine ⟨s, came, ?_, phase, decoded, wrote⟩
  unfold speaking at came
  split at came
  · cases came
  · next launched => exact ⟨_, _, Sandbox.captures_launch launched, came⟩

theorem read_spoken :
    readReply (trimmed (Json.encode (.ok spoken : TurnReply))) = .ok spoken := by
  rw [Child.trimmed_printed (Json.printed_document _), readReply_encode]

theorem incoming_piped (ls : List String) : (piped ls).link.incoming = (Text.rawLines
    (Utf8.encode (Text.printed ls) ++
      closed (outputMark ++ Json.encode (.ok spoken : TurnReply)) ++ [])).map .ok := by
  rw [List.append_nil]
  rfl

theorem printed_alike_iff_speaker :
    ∃ s, speaking ["hi\r", ""] = some s ∧
      (∃ answer next, s.turnSandbox default = some (.ok answer, next) ∧
        answer.reply = .ok { logs := ["driver", "hi", ""] }) ∧
      ((piped ["hi\r", ""]).turnChild default).1 =
        .ok { reply := .ok { logs := ["driver", "hi", ""] } } := by
  obtain ⟨s, came, reached, ready, decoded, wrote⟩ :=
    speaking_ready ["hi\r", ""] (by decide +kernel)
  have opened : (piped ["hi\r", ""]).Open := ⟨rfl, fun _ _ _ => rfl⟩
  have document := Json.printed_document (.ok spoken : TurnReply)
  have marked := Child.printed_marked .output (.ok spoken : TurnReply)
  have ⟨inside, outside, _⟩ := printed_alike_iff reached ready opened (by decide) (by decide)
    decoded wrote (by decide) (document.not_mem (by decide)) marked.valid_feed read_spoken
    (incoming_piped _)
  have lines : Text.lines (Text.printed ["hi\r", ""]) = ["hi", ""] := by decide +kernel
  have bare : ["hi\r", ""].map Text.bare = ["hi", ""] := by decide +kernel
  rw [lines] at inside
  rw [bare] at outside
  exact ⟨s, came, inside, outside⟩

/-- Of two carriage returns at the end of a line, the first is text in a sandbox and is lost over
lines. -/
theorem second_return_lost :
    ∃ s, speaking ["a\r\r"] = some s ∧ s.link.decoded default = some (.ok spoken) ∧
      s.link.wrote default .stdout = Utf8.encode "a\r\r\n" ∧
      (∃ answer next, s.turnSandbox default = some (.ok answer, next) ∧
        answer.reply = .ok { logs := ["driver", "a\r"] }) ∧
      ((piped ["a\r\r"]).turnChild default).1 =
        .ok { reply := .ok { logs := ["driver", "a"] } } := by
  obtain ⟨s, came, reached, ready, decoded, wrote⟩ :=
    speaking_ready ["a\r\r"] (by decide +kernel)
  have opened : (piped ["a\r\r"]).Open := ⟨rfl, fun _ _ _ => rfl⟩
  have whole : ∀ l ∈ ["a\r\r"], '\n' ∉ l.toList := by decide
  have unmarked : ∀ l ∈ ["a\r\r"], ¬ outputMark <+: Utf8.encode l := by decide
  have document := Json.printed_document (.ok spoken : TurnReply)
  have marked := Child.printed_marked .output (.ok spoken : TurnReply)
  have inside := reached.notes_printed ready decoded wrote (by decide)
  have outside := opened.notes_printed default whole unmarked (document.not_mem (by decide))
    marked.valid_feed read_spoken (incoming_piped _)
  have lines : Text.lines (Text.printed ["a\r\r"]) = ["a\r"] := by decide +kernel
  have bare : ["a\r\r"].map Text.bare = ["a"] := by decide +kernel
  rw [lines] at inside
  rw [bare] at outside
  exact ⟨s, came, decoded, wrote, inside, outside⟩

end Session

end RobotTurn.Host
