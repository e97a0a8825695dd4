import RobotTurn.Geometry

/-! Directions over the whole plane. The direction from one point to another is told by the exact
difference of the two (`toward_eq_against`), a step in it never wraps and comes nearer by one, and
the way back is the opposite one except from a diagonal (`toward_leads_to_target`). -/
namespace RobotTurn

namespace Direction

/-- The direction against a difference of points: the first of west, south, north and east whose
quarter of the plane, both diagonals included, holds the difference. -/
def against (dx dy : Int) : Direction :=
  if dy.natAbs ≤ dx then .west
  else if dx.natAbs ≤ -dy then .south
  else if dx.natAbs ≤ dy then .north
  else .east

theorem natAbs_vector (d : Direction) :
    d.vector.x.toInt.natAbs + d.vector.y.toInt.natAbs = 1 := by
  cases d <;> decide

/-- The four quarters. Only west has both of its diagonals, and east has none. -/
theorem against_cases (dx dy : Int) :
    (dy.natAbs ≤ dx ∧ against dx dy = .west) ∨
    (dx.natAbs ≤ -dy ∧ dx < dy.natAbs ∧ against dx dy = .south) ∨
    (dx.natAbs ≤ dy ∧ dx < dy.natAbs ∧ against dx dy = .north) ∨
    (dy.natAbs < -dx ∧ against dx dy = .east) := by
  unfold against
  by_cases west : dy.natAbs ≤ dx
  · exact .inl ⟨west, if_pos west⟩
  rw [if_neg west]
  by_cases south : dx.natAbs ≤ -dy
  · exact .inr (.inl ⟨south, by omega, if_pos south⟩)
  rw [if_neg south]
  by_cases north : dx.natAbs ≤ dy
  · exact .inr (.inr (.inl ⟨north, by omega, if_pos north⟩))
  rw [if_neg north]
  exact .inr (.inr (.inr ⟨by omega, rfl⟩))

/-- A step against a difference makes it smaller by one. -/
theorem natAbs_add_against {dx dy : Int} (apart : dx ≠ 0 ∨ dy ≠ 0) :
    (dx + (against dx dy).vector.x.toInt).natAbs +
      (dy + (against dx dy).vector.y.toInt).natAbs + 1 = dx.natAbs + dy.natAbs := by
  have west : west.vector.x.toInt = -1 ∧ west.vector.y.toInt = 0 := by decide
  have south : south.vector.x.toInt = 0 ∧ south.vector.y.toInt = 1 := by decide
  have north : north.vector.x.toInt = 0 ∧ north.vector.y.toInt = -1 := by decide
  have east : east.vector.x.toInt = 1 ∧ east.vector.y.toInt = 0 := by decide
  obtain ⟨_, is⟩ | ⟨_, _, is⟩ | ⟨_, _, is⟩ | ⟨_, is⟩ := against_cases dx dy
  · rw [is, west.1, west.2]
    omega
  · rw [is, south.1, south.2]
    omega
  · rw [is, north.1, north.2]
    omega
  · rw [is, east.1, east.2]
    omega

/-- Off the diagonals the quarters of a difference and of its reverse lie opposite. On a diagonal
both fall to the earlier one of the two quarters that meet there. -/
theorem against_neg_iff (dx dy : Int) :
    against (-dx) (-dy) = (against dx dy).opposite ↔ dx.natAbs ≠ dy.natAbs := by
  obtain ⟨_, is⟩ | ⟨_, _, is⟩ | ⟨_, _, is⟩ | ⟨_, is⟩ := against_cases dx dy <;>
    obtain ⟨_, back⟩ | ⟨_, _, back⟩ | ⟨_, _, back⟩ | ⟨_, back⟩ := against_cases (-dx) (-dy) <;>
    simp only [is, back, opposite, reduceCtorEq, true_iff, false_iff] <;> omega

end Direction

namespace Point

theorem inRange (p : Point) :
    (-2 ^ 63 ≤ p.x.toInt ∧ p.x.toInt < 2 ^ 63) ∧ (-2 ^ 63 ≤ p.y.toInt ∧ p.y.toInt < 2 ^ 63) :=
  ⟨⟨p.x.le_toInt, p.x.toInt_lt⟩, ⟨p.y.le_toInt, p.y.toInt_lt⟩⟩

/-- A step that ends where the exact sum lies. -/
structure Unwrapped (p : Point) (d : Direction) : Prop where
  x : (p.step d).x.toInt = p.x.toInt + d.vector.x.toInt
  y : (p.step d).y.toInt = p.y.toInt + d.vector.y.toInt

theorem toNat_toUInt64 (a : Int64) : (a.toUInt64.toNat : Int) = a.toInt % 2 ^ 64 := by
  have signed : a.toInt = Int.bmod a.toUInt64.toNat (2 ^ 64) := BitVec.toInt_eq_toNat_bmod _
  have lt := a.toUInt64.toNat_lt
  rw [signed, Int.bmod]
  omega

/-- The words of two coordinates differ by less than `2 ^ 64`, so that their difference, taken the
right way round, does not wrap. -/
theorem toNat_gap (a b : Int64) : (gap a b).toNat = (a.toInt - b.toInt).natAbs := by
  have left := toNat_toUInt64 a
  have right := toNat_toUInt64 b
  have bounds : -2 ^ 63 ≤ a.toInt ∧ a.toInt < 2 ^ 63 := ⟨a.le_toInt, a.toInt_lt⟩
  have bounds' : -2 ^ 63 ≤ b.toInt ∧ b.toInt < 2 ^ 63 := ⟨b.le_toInt, b.toInt_lt⟩
  rw [gap]
  split
  · next less =>
    rw [Int64.lt_iff_toInt_lt] at less
    rw [UInt64.toNat_sub]
    omega
  · next less =>
    rw [Int64.lt_iff_toInt_lt] at less
    rw [UInt64.toNat_sub]
    omega

/-- The number of steps between two points, however large. -/
def steps (p q : Point) : Nat :=
  (p.x.toInt - q.x.toInt).natAbs + (p.y.toInt - q.y.toInt).natAbs

theorem ne_iff_difference {p q : Point} :
    p ≠ q ↔ p.x.toInt - q.x.toInt ≠ 0 ∨ p.y.toInt - q.y.toInt ≠ 0 := by
  have same : p = q ↔ p.x.toInt = q.x.toInt ∧ p.y.toInt = q.y.toInt := by
    rw [Int64.toInt_inj, Int64.toInt_inj]
    cases p
    cases q
    exact Point.mk.injEq .. ▸ Iff.rfl
  rw [ne_eq, same]
  omega

theorem toward_eq_against (p q : Point) :
    p.toward q = .against (p.x.toInt - q.x.toInt) (p.y.toInt - q.y.toInt) := by
  simp only [toward, UInt64.le_iff_toNat_le, toNat_gap, Int64.le_iff_toInt_le,
    Int64.lt_iff_toInt_lt]
  obtain ⟨_, is⟩ | ⟨_, _, is⟩ | ⟨_, _, is⟩ | ⟨_, is⟩ :=
    Direction.against_cases (p.x.toInt - q.x.toInt) (p.y.toInt - q.y.toInt)
  · rw [is, if_pos (by omega)]
  · rw [is, if_neg (by omega), if_pos (by omega)]
  · rw [is, if_neg (by omega), if_neg (by omega), if_pos (by omega)]
  · rw [is, if_neg (by omega), if_neg (by omega), if_neg (by omega)]

theorem toInt_add_of_fits {a b : Int64} (low : -2 ^ 63 ≤ a.toInt + b.toInt)
    (high : a.toInt + b.toInt < 2 ^ 63) : (a + b).toInt = a.toInt + b.toInt := by
  rw [Int64.toInt_add]
  exact Int.bmod_eq_of_le_mul_two (by omega) (by omega)

theorem unwrapped_iff {p : Point} {d : Direction} :
    p.Unwrapped d ↔
      (-2 ^ 63 ≤ p.x.toInt + d.vector.x.toInt ∧ p.x.toInt + d.vector.x.toInt < 2 ^ 63) ∧
      (-2 ^ 63 ≤ p.y.toInt + d.vector.y.toInt ∧ p.y.toInt + d.vector.y.toInt < 2 ^ 63) := by
  constructor
  · rintro ⟨x, y⟩
    rw [← x, ← y]
    exact (p.step d).inRange
  · rintro ⟨x, y⟩
    exact ⟨toInt_add_of_fits x.1 x.2, toInt_add_of_fits y.1 y.2⟩

/-- The coordinate that changes in the step comes to lie between those of the two points. -/
theorem unwrapped_toward {p q : Point} (apart : p ≠ q) : p.Unwrapped (p.toward q) := by
  have nearer := Direction.natAbs_add_against (ne_iff_difference.mp apart)
  rw [← toward_eq_against] at nearer
  have unit := (p.toward q).natAbs_vector
  have here := p.inRange
  have there := q.inRange
  rw [unwrapped_iff]
  omega

/-- Each step in the direction of a point brings it nearer by one. -/
theorem steps_step_toward {p q : Point} (apart : p ≠ q) :
    (p.step (p.toward q)).steps q + 1 = p.steps q := by
  have nearer := Direction.natAbs_add_against (ne_iff_difference.mp apart)
  rw [← toward_eq_against] at nearer
  obtain ⟨x, y⟩ := unwrapped_toward apart
  rw [steps, steps, x, y, ← nearer]
  omega

/-- The direction to a point is the first of west, south, north and east whose quarter of the plane
holds the difference of the two, as exact integers. Unless the points are the same, a step in it
does not wrap and comes nearer by exactly one. The direction back is the opposite one exactly if
the points do not lie on a diagonal. -/
theorem toward_leads_to_target (p q : Point) :
    let dx := p.x.toInt - q.x.toInt
    let dy := p.y.toInt - q.y.toInt
    (p.toward q =
      if dy.natAbs ≤ dx then .west
      else if dx.natAbs ≤ -dy then .south
      else if dx.natAbs ≤ dy then .north
      else .east) ∧
    (p ≠ q → p.Unwrapped (p.toward q) ∧ (p.step (p.toward q)).steps q + 1 = p.steps q) ∧
    (q.toward p = (p.toward q).opposite ↔ dx.natAbs ≠ dy.natAbs) := by
  intro dx dy
  refine ⟨toward_eq_against p q, fun apart => ?_, ?_⟩
  · exact ⟨unwrapped_toward apart, steps_step_toward apart⟩
  · have turned : q.toward p = .against (-dx) (-dy) := by
      rw [toward_eq_against, Int.neg_sub, Int.neg_sub]
    rw [turned, toward_eq_against]
    exact Direction.against_neg_iff dx dy

/-- From one corner of the range to the opposite one. -/
theorem toward_leads_to_target_corners :
    let p : Point := ⟨.minValue, .maxValue⟩
    let q : Point := ⟨.maxValue, .minValue⟩
    p ≠ q ∧ p.toward q = .north ∧ p.Unwrapped .north ∧
      (p.step .north).steps q = 2 ^ 65 - 3 ∧ q.toward p ≠ .south := by
  intro p q
  have ⟨_, leads, back⟩ := toward_leads_to_target p q
  have apart : p ≠ q := by decide
  have north : p.toward q = .north := by decide
  have far : p.steps q = 2 ^ 65 - 2 := by decide
  obtain ⟨unwrapped, nearer⟩ := leads apart
  rw [north] at unwrapped nearer back
  refine ⟨apart, north, unwrapped, by omega, fun opposite => ?_⟩
  exact back.mp opposite (by decide)

end Point
end RobotTurn
