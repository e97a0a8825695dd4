import RobotTurn.Proofs.Geometry

/-! The number of steps between two points is a metric on the whole plane. A walk is that number cut
off at the largest word, and the metric laws survive the cut (`walk_is_cut_metric`). One step apart
from a point lie exactly the neighbours that are reached without wrapping. -/
namespace RobotTurn.Point

/-! ## Steps -/

theorem steps_comm (p q : Point) : p.steps q = q.steps p := by
  unfold steps
  omega

theorem steps_eq_zero_iff {p q : Point} : p.steps q = 0 ↔ p = q := by
  constructor
  · intro none
    by_cases same : p = q
    · exact same
    · have nearer := steps_step_toward same
      omega
  · rintro rfl
    unfold steps
    omega

theorem steps_triangle (p q r : Point) : p.steps r ≤ p.steps q + q.steps r := by
  unfold steps
  omega

theorem steps_step {p : Point} {d : Direction} (unwrapped : p.Unwrapped d) :
    p.steps (p.step d) = 1 := by
  have unit := d.natAbs_vector
  rw [steps, unwrapped.x, unwrapped.y]
  omega

/-- The only point that is one step away in its direction is reached by that step. -/
theorem steps_eq_one_iff {p q : Point} :
    p.steps q = 1 ↔ p.Unwrapped (p.toward q) ∧ p.step (p.toward q) = q := by
  constructor
  · intro one
    have apart : p ≠ q := by
      intro same
      rw [steps_eq_zero_iff.mpr same] at one
      cases one
    have nearer := steps_step_toward apart
    exact ⟨unwrapped_toward apart, steps_eq_zero_iff.mp (by omega)⟩
  · rintro ⟨unwrapped, reached⟩
    rw [← steps_step unwrapped, reached]

/-! ## Walks -/

theorem toNat_cappedSum (m n : UInt64) :
    (cappedSum m n).toNat = min (m.toNat + n.toNat) (2 ^ 64 - 1) := by
  have sum : (m + n).toNat = (m.toNat + n.toNat) % 2 ^ 64 := UInt64.toNat_add m n
  have first := m.toNat_lt
  have second := n.toNat_lt
  rw [cappedSum]
  split
  · next wraps =>
    have most : (0xFFFFFFFFFFFFFFFF : UInt64).toNat = 2 ^ 64 - 1 := rfl
    rw [UInt64.lt_iff_toNat_lt, sum] at wraps
    rw [most]
    omega
  · next fits =>
    rw [UInt64.lt_iff_toNat_lt, sum] at fits
    rw [sum]
    omega

theorem toNat_walk (p q : Point) : (p.walk q).toNat = min (p.steps q) (2 ^ 64 - 1) := by
  rw [walk, toNat_cappedSum, toNat_gap, toNat_gap, ← steps]

/-- A walk that is not cut off tells the number of steps. -/
theorem walk_eq_iff {p q : Point} {n : UInt64} (short : n.toNat < 2 ^ 64 - 1) :
    p.walk q = n ↔ p.steps q = n.toNat := by
  rw [← UInt64.toNat_inj, toNat_walk]
  omega

theorem walk_comm (p q : Point) : p.walk q = q.walk p := by
  rw [← UInt64.toNat_inj, toNat_walk, toNat_walk, steps_comm]

theorem walk_eq_zero_iff {p q : Point} : p.walk q = 0 ↔ p = q := by
  rw [walk_eq_iff (by decide), ← steps_eq_zero_iff]
  rfl

theorem walk_eq_one_iff {p q : Point} :
    p.walk q = 1 ↔ p.Unwrapped (p.toward q) ∧ p.step (p.toward q) = q := by
  rw [walk_eq_iff (by decide), ← steps_eq_one_iff]
  rfl

theorem mem_around_iff {p q : Point} : q ∈ p.around ↔ ∃ d, p.step d = q := by
  rw [around, List.mem_map]
  constructor
  · rintro ⟨d, -, reached⟩
    exact ⟨d, reached⟩
  · rintro ⟨d, reached⟩
    exact ⟨d, by cases d <;> decide, reached⟩

/-- A walk has as many steps as the coordinates of two points differ by together, up to the largest
word. It is the same both ways, it has no steps only from a point to itself, and no walk is longer
than the one by way of a third point. It has one step exactly to the neighbours that are reached
without wrapping, and then the step towards the other point leads there. -/
theorem walk_is_cut_metric (p q r : Point) :
    (p.walk q).toNat =
      min ((p.x.toInt - q.x.toInt).natAbs + (p.y.toInt - q.y.toInt).natAbs) (2 ^ 64 - 1) ∧
    p.walk q = q.walk p ∧
    (p.walk q = 0 ↔ p = q) ∧
    (p.walk r).toNat ≤ min ((p.walk q).toNat + (q.walk r).toNat) (2 ^ 64 - 1) ∧
    (q ∈ p.around ↔ ∃ d, p.step d = q) ∧
    (p.walk q = 1 ↔ ∃ d, p.Unwrapped d ∧ p.step d = q) ∧
    (p.walk q = 1 → p.step (p.toward q) = q) := by
  refine ⟨toNat_walk p q, walk_comm p q, walk_eq_zero_iff, ?_, mem_around_iff, ?_, ?_⟩
  · have shorter := steps_triangle p q r
    rw [toNat_walk, toNat_walk, toNat_walk]
    omega
  · constructor
    · intro one
      exact ⟨p.toward q, walk_eq_one_iff.mp one⟩
    · rintro ⟨d, unwrapped, rfl⟩
      rw [walk_eq_one_iff, ← steps_eq_one_iff]
      exact steps_step unwrapped
  · intro one
    exact (walk_eq_one_iff.mp one).2

/-- At the edge of the range one neighbour is a step away and the one across the edge is not. -/
theorem walk_is_cut_metric_edge :
    let p : Point := ⟨.maxValue, .minValue⟩
    let q : Point := p.step .west
    let r : Point := p.step .east
    p.walk q = 1 ∧ p.step (p.toward q) = q ∧ r ∈ p.around ∧ r.x = .minValue ∧
      ¬ ∃ d, p.Unwrapped d ∧ p.step d = r := by
  intro p q r
  have one : p.walk q = 1 := by decide
  have far : p.walk r ≠ 1 := by decide
  obtain ⟨-, -, -, -, -, -, leads⟩ := walk_is_cut_metric p q r
  obtain ⟨-, -, -, -, around, near, -⟩ := walk_is_cut_metric p r q
  exact ⟨one, leads one, around.mpr ⟨.east, rfl⟩, by decide, fun stands => far (near.mpr stands)⟩

end RobotTurn.Point
