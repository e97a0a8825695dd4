import RobotTurn.Proofs.Mailbox
import RobotTurn.Proofs.Runner.Documents
import RobotTurn.Proofs.Runner.Turn

/-! Documents that cannot be read. They may come at any time in a session, and with all of them
left out the session is the same (`unreadable_documents_pass`). -/
namespace RobotTurn.Mailbox

open Board (readable)

variable {σ : Type}

/-- Calls with what comes of each. -/
def exchanges (m : Mailbox σ) : List Request → List (Request × Exchange σ)
  | [] => []
  | r :: rs => (r, m.handle r) :: (m.handle r).mailbox.exchanges rs

/-- A request that asks for no turn, or for that of a board. -/
def Request.sound : Request → Bool
  | .init _ => true
  | .turn document => readable document

/-- What a call left in the buffer is nothing to the next request. -/
theorem exchanges_buffer (m : Mailbox σ) (left : List UInt8) (rs : List Request) :
    { m with buffer := left }.exchanges rs = m.exchanges rs := by
  cases rs with
  | nil => rfl
  | cons r rs => cases r <;> rfl

theorem handle_unreadable (m : Mailbox σ) {document : List UInt8} {e : Json.Refusal}
    (unreadable : Json.decode Board document = .error e) :
    let reply := Json.encode (.error (m.runner.refusal e) : TurnReply)
    m.handle (.turn document) =
      { length := some (lengthWord reply), mailbox := { m with buffer := reply } } := by
  simp only [handle, turn, reduceCtorEq, false_and, ↓reduceIte,
    Runner.turnFrom_unreadable m.runner unreadable, answer]

theorem exchanges_filter (m : Mailbox σ) (rs : List Request) :
    (m.exchanges rs).filter (·.1.sound) = m.exchanges (rs.filter Request.sound) := by
  induction rs generalizing m with
  | nil => rfl
  | cons r rs ih =>
    cases sound : r.sound with
    | true =>
      have kept : (r :: rs).filter Request.sound = r :: rs.filter Request.sound :=
        List.filter_cons_of_pos sound
      rw [kept, exchanges, exchanges, List.filter_cons_of_pos (by exact sound), ih]
    | false =>
      have dropped : (r :: rs).filter Request.sound = rs.filter Request.sound :=
        List.filter_cons_of_neg (by simp [sound])
      cases r with
      | init payload => cases sound
      | turn document =>
        obtain ⟨e, unreadable⟩ := Board.readable_eq_false_iff.mp sound
        rw [dropped, exchanges, List.filter_cons_of_neg (by simp [sound]), ih,
          handle_unreadable m unreadable, exchanges_buffer]

/-- A document that cannot be read is answered with the session's own error, if it has one, and
nothing else happens. With all such documents left out, the turns that remain come to the same,
and so do the calls through the buffer, whatever payloads are among them. -/
theorem unreadable_documents_pass (r : Runner σ) (m : Mailbox σ) :
    (∀ document e, Json.decode Board document = .error e →
      r.turnFrom document =
        { answer := some (.error (r.refusal e)), calls := [], printed := "", runner := r }) ∧
    (∀ documents : List (List UInt8),
      (documents.zip (r.stepsFrom documents)).filter (readable ·.1) =
        (documents.filter readable).zip (r.stepsFrom (documents.filter readable)) ∧
      r.afterFrom documents = r.afterFrom (documents.filter readable)) ∧
    ∀ rs : List Request,
      (m.exchanges rs).filter (·.1.sound) = m.exchanges (rs.filter Request.sound) := by
  refine ⟨?_, r.zip_stepsFrom_filter, m.exchanges_filter⟩
  intro document e unreadable
  exact r.turnFrom_unreadable unreadable

/-- Two turns with an octet that begins no document before the first one, when `init` is still
due, and an empty document before the second. -/
theorem unreadable_documents_pass_tally :
    let r := (Runner.load (fun _ => .ok Runner.tally) [] .idle).2
    let good := Json.encode Runner.lone
    r.turnFrom [0xFF] =
        { answer := some (.error (.badData "expected value at line 1 column 1")), runner := r } ∧
      ([[0xFF], good, [], good].zip (r.stepsFrom [[0xFF], good, [], good])).filter
          (readable ·.1) =
        [good, good].zip (r.steps [Runner.lone, Runner.lone]) := by
  intro r good
  obtain ⟨refused, passed, -⟩ :=
    unreadable_documents_pass r { factory := fun _ => .ok Runner.tally }
  have octet : Json.decode Board [0xFF] = .error ⟨.noValue, some ⟨1, 1⟩⟩ := rfl
  have read : readable good = true := by
    rw [readable, Board.decode_encode Runner.consistent_lone]
    rfl
  have kept : [[0xFF], good, [], good].filter readable = [good, good] := by
    have one : readable [0xFF] = false := rfl
    have none : readable [] = false := rfl
    simp [List.filter, one, none, read]
  have consistent : ∀ b ∈ [Runner.lone, Runner.lone], b.Consistent := by
    simpa using Runner.consistent_lone
  refine ⟨refused [0xFF] _ octet, ?_⟩
  rw [(passed _).1, kept, ← r.stepsFrom_encode consistent]
  rfl

end RobotTurn.Mailbox
