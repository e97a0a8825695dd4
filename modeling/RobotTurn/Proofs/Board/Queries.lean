import Mathlib.Data.List.Basic
import RobotTurn.Proofs.Wire.World

/-! A board is accepted exactly if it is consistent, and on an accepted board no query is left
hanging (`accepted_exactly_consistent`): each rostered id has its unit and each id in a cell has
its entity. -/
namespace RobotTurn.Board

variable {b : Board}

/-! ## Rosters -/

/-- The entities of a team are its roster, id by id. -/
theorem ids_entitiesOf (consistent : b.Consistent) (t : Team) :
    (b.entitiesOf t).map (·.id) = b.roster t := by
  have found : ∀ id ∈ b.roster t, (b.entity? id).map (·.id) = some id := by
    intro id listed
    obtain ⟨e, known, -⟩ := consistent.rostered t id listed
    rw [known, Option.map_some, consistent.id_eq known]
  rw [entitiesOf, List.map_filterMap, List.filterMap_congr found, List.filterMap_some]

theorem unit_of_mem_entitiesOf (consistent : b.Consistent) {t : Team} {e : Entity}
    (mem : e ∈ b.entitiesOf t) : ∃ health, e.role = .unit t health := by
  obtain ⟨id, listed, known⟩ := List.mem_filterMap.mp mem
  obtain ⟨e', known', team⟩ := consistent.rostered t id listed
  obtain rfl : e = e' := Option.some.inj (known.symm.trans known')
  rw [Entity.team?] at team
  cases role : e.role with
  | unit u health =>
    rw [role] at team
    cases team
    exact ⟨health, rfl⟩
  | terrain =>
    rw [role] at team
    cases team

/-! ## Cells -/

/-- What stands in the grid at a point, if the point lies in a row of it. -/
inductive CellAt (b : Board) (p : Point) : Option String → Prop
  | intro (x y : Nat) (inRows : y < b.grid.length) (inRow : x < b.grid[y].length)
      (column : p.x.toInt = x) (line : p.y.toInt = y) : CellAt b p b.grid[y][x]

theorem CellAt.idAt? {p : Point} {cell : Option String} (stands : b.CellAt p cell) :
    b.idAt? p = cell := by
  obtain ⟨x, y, inRows, inRow, column, line⟩ := stands
  have inside : ¬ (p.x < 0 ∨ p.y < 0) := by
    rw [Int64.lt_iff_toInt_lt, Int64.lt_iff_toInt_lt, column, line, Int64.toInt_zero]
    omega
  rw [Board.idAt?, if_neg inside, column, line, Int.toNat_natCast, Int.toNat_natCast,
    List.getElem?_eq_getElem inRows]
  show (b.grid[y][x]?).bind id = b.grid[y][x]
  rw [List.getElem?_eq_getElem inRow]
  rfl

theorem cellAt_of_idAt? {p : Point} {id : String} (found : b.idAt? p = some id) :
    b.CellAt p (some id) := by
  rw [Board.idAt?] at found
  by_cases negative : p.x < 0 ∨ p.y < 0
  · rw [if_pos negative] at found
    cases found
  · rw [if_neg negative] at found
    rw [Int64.lt_iff_toInt_lt, Int64.lt_iff_toInt_lt, Int64.toInt_zero] at negative
    obtain ⟨row, atLine, found⟩ := Option.bind_eq_some_iff.mp found
    obtain ⟨cell, atColumn, rfl⟩ := Option.bind_eq_some_iff.mp found
    obtain ⟨inRows, rfl⟩ := List.getElem?_eq_some_iff.mp atLine
    obtain ⟨inRow, cell⟩ := List.getElem?_eq_some_iff.mp atColumn
    rw [← cell]
    exact .intro _ _ inRows inRow (by omega) (by omega)

theorem idAt?_eq_none {p : Point} (outside : ∀ cell, ¬ b.CellAt p cell) : b.idAt? p = none := by
  cases found : b.idAt? p with
  | none => rfl
  | some id => exact absurd (cellAt_of_idAt? found) (outside (some id))

theorem CellAt.mem {p : Point} {cell : Option String} (stands : b.CellAt p cell) :
    ∃ row ∈ b.grid, cell ∈ row := by
  obtain ⟨x, y, inRows, inRow, -, -⟩ := stands
  exact ⟨b.grid[y], List.getElem_mem inRows, List.getElem_mem inRow⟩

/-- The entity at a point is the one whose id is in its cell. -/
theorem id_entityAt? (consistent : b.Consistent) (p : Point) :
    (b.entityAt? p).map (·.id) = b.idAt? p := by
  rw [entityAt?]
  cases found : b.idAt? p with
  | none => rfl
  | some id =>
    obtain ⟨row, inGrid, inRow⟩ := (cellAt_of_idAt? found).mem
    have known := consistent.placed row inGrid id inRow
    obtain ⟨e, is⟩ := Option.isSome_iff_exists.mp known
    rw [Option.bind_some, is, Option.map_some, consistent.id_eq is]

/-! ## Acceptance -/

/-- A document is accepted exactly if it says a consistent board. Of such a board every team has
the units on its roster, in order and no others; a point has the id in its cell, if it has a cell,
and the entity of that id. -/
theorem accepted_exactly_consistent (w : Board) :
    ((∃ b, w.consistent? = .ok b) ↔ w.Consistent) ∧
    (∀ bs, Json.decode Board bs = .ok w ↔ described? bs = some w ∧ w.Consistent) ∧
    ∀ b, w.consistent? = .ok b → b = w ∧
      (∀ t, (b.entitiesOf t).map (·.id) = b.roster t ∧
        ∀ e ∈ b.entitiesOf t, ∃ health, e.role = .unit t health) ∧
      ∀ p, (∀ cell, b.CellAt p cell → b.idAt? p = cell) ∧
        ((∀ cell, ¬ b.CellAt p cell) → b.idAt? p = none) ∧
        (b.entityAt? p).map (·.id) = b.idAt? p := by
  refine ⟨?_, fun bs => decode_ok_iff, ?_⟩
  · constructor
    · rintro ⟨b, accepted⟩
      exact (consistent?_ok_iff.mp accepted).2
    · intro consistent
      exact ⟨w, consistent?_ok_iff.mpr ⟨rfl, consistent⟩⟩
  · intro b accepted
    obtain ⟨rfl, consistent⟩ := consistent?_ok_iff.mp accepted
    refine ⟨rfl, fun t => ?_, fun p => ?_⟩
    · exact ⟨ids_entitiesOf consistent t, fun e mem => unit_of_mem_entitiesOf consistent mem⟩
    · exact ⟨fun cell stands => stands.idAt?, idAt?_eq_none, id_entityAt? consistent p⟩

/-- Two units of a team and a wall, on a grid with rows of different lengths. -/
def ragged : Board where
  turn := 0
  team := .red
  red := ["b", "a", "b"]
  blue := []
  entities := Dict.ofList [
    ("a", { id := "a", point := ⟨0, 0⟩, role := .unit .red 3 }),
    ("b", { id := "b", point := ⟨1, 1⟩, role := .unit .red 0 }),
    ("w", { id := "w", point := ⟨9, 9⟩, role := .terrain })]
  grid := [[some "a"], [none, some "w"], []]

/-- The same with a unit on the other roster. -/
def turncoat : Board := { ragged with blue := ["a"] }

theorem accepted_exactly_consistent_ragged :
    ragged.Consistent ∧ (ragged.entitiesOf .red).map (·.id) = ["b", "a", "b"] ∧
      ragged.idAt? ⟨1, 1⟩ = some "w" ∧ (ragged.entityAt? ⟨1, 1⟩).map (·.id) = some "w" ∧
      ragged.idAt? ⟨1, 0⟩ = none ∧ ¬ turncoat.Consistent := by
  have accepted : ragged.consistent? = .ok ragged := by decide +kernel
  have refused : turncoat.consistent? = .error (.strangerRostered .blue "a") := by decide +kernel
  have ⟨consistent, _, answers⟩ := accepted_exactly_consistent ragged
  obtain ⟨-, teams, points⟩ := answers ragged accepted
  have stands : ragged.CellAt ⟨1, 1⟩ (some "w") :=
    .intro 1 1 (by decide) (by decide) (by decide) (by decide)
  have wall : ragged.idAt? ⟨1, 1⟩ = some "w" := (points ⟨1, 1⟩).1 _ stands
  have beyond : ∀ cell, ¬ ragged.CellAt ⟨1, 0⟩ cell := by
    rintro _ ⟨x, y, inRows, inRow, column, line⟩
    obtain rfl : 1 = x := Int.ofNat.inj column
    obtain rfl : 0 = y := Int.ofNat.inj line
    have short : ragged.grid[0].length = 1 := rfl
    omega
  refine ⟨consistent.mp ⟨_, accepted⟩, (teams .red).1, wall, ?_, (points ⟨1, 0⟩).2.1 beyond, ?_⟩
  · rw [(points ⟨1, 1⟩).2.2, wall]
  · intro fits
    obtain ⟨b, taken⟩ := (accepted_exactly_consistent turncoat).1.mpr fits
    rw [refused] at taken
    cases taken

end RobotTurn.Board
