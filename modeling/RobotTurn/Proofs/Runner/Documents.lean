import RobotTurn.Proofs.Runner.Session

/-! The turns of a session, asked for by boards or by documents. A document that cannot be read
is refused and leaves the session as it is (`turnFrom_unreadable`), so it takes no part in what
the others come to (`zip_stepsFrom_filter`). -/
namespace RobotTurn

open Json (Refusal)

variable {σ : Type}

/-- Whether a document is that of a board. -/
def Board.readable (document : List UInt8) : Bool :=
  (Json.decode Board document).isOk

theorem Board.readable_eq_false_iff {document : List UInt8} :
    readable document = false ↔ ∃ e, Json.decode Board document = .error e := by
  rw [readable]
  cases Json.decode Board document with
  | ok b => exact ⟨nofun, nofun⟩
  | error e => exact ⟨fun _ => ⟨e, rfl⟩, fun _ => rfl⟩

namespace Runner

/-! ## By boards -/

/-- The turns of a session, each on its own board. -/
def steps (r : Runner σ) : List Board → List (Step σ TurnReply)
  | [] => []
  | b :: boards => r.turn b :: (r.turn b).runner.steps boards

/-- What the turns are answered with; an abandoned one has no answer. -/
def answers (r : Runner σ) (boards : List Board) : List (Option TurnReply) :=
  (r.steps boards).map (·.answer)

theorem length_answers (r : Runner σ) (boards : List Board) :
    (r.answers boards).length = boards.length := by
  induction boards generalizing r with
  | nil => rfl
  | cons b boards ih => exact congrArg (· + 1) (ih _)

theorem answers_failed (e : SessionError) (boards : List Board) :
    (failed e : Runner σ).answers boards = boards.map fun _ => some (.error e) := by
  induction boards with
  | nil => rfl
  | cons b boards ih => exact congrArg (some (.error e) :: ·) ih

/-! ## By documents -/

/-- The turns of a session, each asked for by a document. -/
def stepsFrom (r : Runner σ) : List (List UInt8) → List (Step σ TurnReply)
  | [] => []
  | document :: documents =>
    r.turnFrom document :: (r.turnFrom document).runner.stepsFrom documents

/-- What the documents are answered with. -/
def answersFrom (r : Runner σ) (documents : List (List UInt8)) : List (Option TurnReply) :=
  (r.stepsFrom documents).map (·.answer)

/-- The session after them. -/
def afterFrom (r : Runner σ) (documents : List (List UInt8)) : Runner σ :=
  documents.foldl (fun r document => (r.turnFrom document).runner) r

theorem answersFrom_cons (r : Runner σ) (document : List UInt8) (documents : List (List UInt8)) :
    r.answersFrom (document :: documents) =
      (r.turnFrom document).answer :: (r.turnFrom document).runner.answersFrom documents := rfl

theorem answersFrom_append (r : Runner σ) (earlier later : List (List UInt8)) :
    r.answersFrom (earlier ++ later) =
      r.answersFrom earlier ++ (r.afterFrom earlier).answersFrom later := by
  induction earlier generalizing r with
  | nil => rfl
  | cons document earlier ih =>
    rw [List.cons_append, answersFrom_cons, ih]
    rfl

/-- Boards may be told by their documents. -/
theorem stepsFrom_encode (r : Runner σ) {boards : List Board}
    (consistent : ∀ b ∈ boards, b.Consistent) :
    r.stepsFrom (boards.map Json.encode) = r.steps boards := by
  induction boards generalizing r with
  | nil => rfl
  | cons b boards ih =>
    rw [List.map_cons, stepsFrom, turnFrom_encode r (consistent b List.mem_cons_self),
      ih _ fun c mem => consistent c (List.mem_cons_of_mem _ mem)]
    rfl

/-! ## Documents that cannot be read -/

/-- What a session answers to a document that cannot be read. Its own error comes first. -/
def refusal : Runner σ → Refusal → SessionError
  | idle, _ => .noInit
  | failed e, _ => e
  | ready .., e => .badData e.message

/-- Nothing comes of a document that cannot be read but its answer. -/
theorem turnFrom_unreadable (r : Runner σ) {document : List UInt8} {e : Refusal}
    (unreadable : Json.decode Board document = .error e) :
    r.turnFrom document = { answer := some (.error (r.refusal e)), runner := r } := by
  cases r with
  | idle => rfl
  | failed _ => rfl
  | ready robot due => simp only [turnFrom, check, unreadable, refusal]

/-- The documents that can be read are answered as if there were no others, and leave the
session in the same way. -/
theorem zip_stepsFrom_filter (r : Runner σ) (documents : List (List UInt8)) :
    (documents.zip (r.stepsFrom documents)).filter (Board.readable ·.1) =
        (documents.filter Board.readable).zip (r.stepsFrom (documents.filter Board.readable)) ∧
      r.afterFrom documents = r.afterFrom (documents.filter Board.readable) := by
  induction documents generalizing r with
  | nil => exact ⟨rfl, rfl⟩
  | cons document documents ih =>
    obtain ⟨answered, left⟩ := ih (r.turnFrom document).runner
    cases readable : Board.readable document with
    | true =>
      have kept : (document :: documents).filter Board.readable =
          document :: documents.filter Board.readable := List.filter_cons_of_pos readable
      rw [kept, stepsFrom, stepsFrom, List.zip_cons_cons, List.zip_cons_cons,
        List.filter_cons_of_pos (by exact readable), answered]
      exact ⟨rfl, left⟩
    | false =>
      have dropped : (document :: documents).filter Board.readable =
          documents.filter Board.readable := List.filter_cons_of_neg (by simp [readable])
      obtain ⟨e, unreadable⟩ := Board.readable_eq_false_iff.mp readable
      rw [turnFrom_unreadable r unreadable] at answered left
      rw [dropped, stepsFrom, List.zip_cons_cons, List.filter_cons_of_neg (by simp [readable]),
        afterFrom, List.foldl_cons, turnFrom_unreadable r unreadable]
      exact ⟨answered, left⟩

end Runner
end RobotTurn
