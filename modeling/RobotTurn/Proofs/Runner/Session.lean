import RobotTurn.Proofs.Wire.World
import RobotTurn.Runner

/-! How a session goes on. A payload starts an idle session, is refused by any other, or fails
the session if it gives no robot; a turn keeps the robot or fails the session (`runner_turn`). -/
namespace RobotTurn.Runner

variable {σ : Type}

/-! ## Payloads -/

/-- A session that has started leaves a robot that comes later alone. -/
theorem load_accepted {factory : Factory σ} {payload : List UInt8} {robot : Robot σ}
    (accepted : factory payload = .ok robot) {r : Runner σ} (h : r ≠ .idle) :
    load factory payload r = (.error .internal, r) := by
  rw [load, accepted]
  cases r with
  | idle => exact absurd rfl h
  | ready _ _ => rfl
  | failed _ => rfl

/-- A payload that gives no robot fails the session, whatever it was. -/
theorem load_rejected {factory : Factory σ} {payload : List UInt8} {f : Failure}
    (rejected : factory payload = .error f) (r : Runner σ) :
    load factory payload r =
      (.error (.initFailed (f.report Robot.defaultSource)),
        .failed (.initFailed (f.report Robot.defaultSource))) := by
  rw [load, rejected]
  rfl

/-- A robot is checked when it is put into an idle session. -/
theorem load_idle {factory : Factory σ} {payload : List UInt8} {robot : Robot σ}
    (accepted : factory payload = .ok robot) :
    load factory payload .idle = match robot.fault? with
      | none => (.ok (), .ready robot true)
      | some f => (.error (.initFailed (f.report robot.source)),
          .failed (.initFailed (f.report robot.source))) := by
  rw [load, accepted]
  rfl

/-- A session that does not start has failed. -/
theorem load_error {factory : Factory σ} {payload : List UInt8} {e : SessionError}
    (h : (load factory payload .idle).1 = .error e) :
    (load factory payload .idle).2 = .failed e := by
  cases built : factory payload with
  | error f =>
    rw [load_rejected built] at h ⊢
    cases h
    rfl
  | ok robot =>
    rw [load_idle built] at h ⊢
    split at h
    · cases h
    · cases h
      rfl

theorem load_ne_idle (factory : Factory σ) (payload : List UInt8) (r : Runner σ) :
    (load factory payload r).2 ≠ .idle := by
  cases built : factory payload with
  | error f =>
    rw [load_rejected built]
    exact nofun
  | ok robot =>
    by_cases idle : r = .idle
    · rw [idle, load_idle built]
      split
      · exact nofun
      · exact nofun
    · rw [load_accepted built idle]
      exact idle

/-! ## Turns -/

theorem runner_play (robot : Robot σ) (b : Board) (p : Progress σ) :
    ∃ s, (play robot b p).runner = .ready { robot with state := s } false := by
  rw [play]
  split
  · exact ⟨_, rfl⟩
  · exact ⟨_, rfl⟩

/-- A turn leaves a session without a robot as it is. With one it changes what the robot
remembers, or fails the session by the robot's own `init`. -/
theorem runner_turn (r : Runner σ) (b : Board) :
    (r.turn b).runner = r ∨
      (∃ robot due s later, r = .ready robot due ∧
        (r.turn b).runner = .ready { robot with state := s } later) ∨
      ∃ robot f, r = .ready robot true ∧
        (r.turn b).runner = .failed (.initFailed (Failure.report f robot.source)) := by
  cases r with
  | idle => exact .inl rfl
  | failed e => exact .inl rfl
  | ready robot due =>
    cases due with
    | false =>
      obtain ⟨s, kept⟩ := runner_play robot b { state := robot.state }
      exact .inr (.inl ⟨robot, false, s, false, rfl, kept⟩)
    | true =>
      simp only [turn, start]
      split
      · obtain ⟨s, kept⟩ := runner_play robot b { state := robot.state }
        exact .inr (.inl ⟨robot, true, s, false, rfl, kept⟩)
      · split
        · exact .inr (.inl ⟨robot, true, _, true, rfl, rfl⟩)
        · exact .inr (.inr ⟨robot, _, rfl, rfl⟩)
        · next init _ _ _ _ =>
          obtain ⟨s, kept⟩ := runner_play robot b
            (Progress.call { state := robot.state } EntryPoint.initName init false [.board b]).1
          exact .inr (.inl ⟨robot, true, s, false, rfl, kept⟩)

theorem turn_ne_idle {r : Runner σ} (h : r ≠ .idle) (b : Board) : (r.turn b).runner ≠ .idle := by
  rcases runner_turn r b with same | ⟨_, _, _, _, -, kept⟩ | ⟨_, _, -, failed⟩
  · rw [same]
    exact h
  · rw [kept]
    exact nofun
  · rw [failed]
    exact nofun

theorem turnFrom_ne_idle {r : Runner σ} (h : r ≠ .idle) (document : List UInt8) :
    (r.turnFrom document).runner ≠ .idle := by
  rw [turnFrom]
  split
  · exact h
  · split
    · exact h
    · exact turn_ne_idle h _

/-- A board that is read off its document leads to the same turn. -/
theorem turnFrom_encode (r : Runner σ) {b : Board} (consistent : b.Consistent) :
    r.turnFrom (Json.encode b) = r.turn b := by
  cases r with
  | idle => rfl
  | failed e => rfl
  | ready robot due => simp only [turnFrom, check, Board.decode_encode consistent]

/-! ## Checked robots -/

/-- A session whose robot, if it has one, has passed its check. -/
def Checked : Runner σ → Prop
  | ready robot _ => robot.fault? = none
  | _ => True

end RobotTurn.Runner
