import Mathlib.Data.List.Nodup
import RobotTurn.Board.Builder
import RobotTurn.Proofs.Board.Queries

/-! Boards that are put together entity by entity. Roster, table and grid are filled by each entity
in turn, but an entity whose id comes again is replaced in the table only: what it has left on a
roster and in the grid stays. A built board is consistent exactly if no unit loses its id to
something else, and has everyone in the right place exactly if no one in a cell is placed again
elsewhere (`built_consistent_iff`). -/
namespace RobotTurn.Board.Builder

variable {b : Builder}

/-- The last entity of an id. -/
def last? (b : Builder) (id : String) : Option Entity :=
  b.entities.findRev? (·.id = id)

/-- Whether a square grid has a cell for a point. -/
def Inside (size : Nat) (p : Point) : Prop :=
  (0 ≤ p.x.toInt ∧ p.x.toInt < size) ∧ (0 ≤ p.y.toInt ∧ p.y.toInt < size)

instance (size : Nat) (p : Point) : Decidable (Inside size p) :=
  inferInstanceAs (Decidable ((_ ∧ _) ∧ _ ∧ _))

/-- The last entity placed in the cell of a point, if the point has one. -/
def holder? (b : Builder) (p : Point) : Option Entity :=
  if Inside b.size p then b.entities.findRev? (·.point = p) else none

/-- The id of a unit is not used for anything else later, be it terrain or a unit of the other
team. -/
def Loyal (b : Builder) : Prop :=
  ∀ e ∈ b.entities, ∀ t, e.team? = some t → (b.last? e.id).bind Entity.team? = some t

/-- No entity that holds its cell is placed elsewhere later. -/
def Settled (b : Builder) : Prop :=
  ∀ p e, b.holder? p = some e → (b.last? e.id).map (·.point) = some p

/-! ## The table -/

theorem entity?_build (b : Builder) (id : String) : b.build.entity? id = b.last? id := by
  have filed : b.build.entity? id = ((b.entities.map fun e => (e.id, e)).findRev? (·.1 = id)).map
      (·.2) := Dict.find?_ofList _ id
  rw [filed, last?, List.findRev?_eq_find?_reverse, List.findRev?_eq_find?_reverse,
    ← List.map_reverse, List.find?_map, Option.map_map]
  exact Option.map_id'

theorem id_last? {id : String} {e : Entity} (last : b.last? id = some e) : e.id = id := by
  rw [last?, List.findRev?_eq_find?_reverse] at last
  simpa using List.find?_some last

theorem isSome_last? {e : Entity} (mem : e ∈ b.entities) : (b.last? e.id).isSome := by
  rw [last?, List.findRev?_eq_find?_reverse, List.find?_isSome]
  exact ⟨e, List.mem_reverse.mpr mem, decide_eq_true rfl⟩

theorem filed_build (b : Builder) : ∀ e ∈ b.build.entities.entries, e.1 = e.2.id := by
  intro e mem
  obtain ⟨x, -, rfl⟩ := List.mem_map.mp (Dict.mem_of_mem_ofList mem)
  rfl

/-! ## The rosters -/

theorem mem_roster_build {t : Team} {id : String} :
    id ∈ b.build.roster t ↔ ∃ e ∈ b.entities, e.team? = some t ∧ e.id = id := by
  have roster : b.build.roster t = (b.entities.filter (·.team? = some t)).map (·.id) := by
    cases t <;> rfl
  rw [roster, List.mem_map]
  simp only [List.mem_filter, decide_eq_true_eq, and_assoc]

theorem rostered_build_iff :
    (∀ t, ∀ id ∈ b.build.roster t, ∃ e, b.build.entity? id = some e ∧ e.team? = some t) ↔
      b.Loyal := by
  simp only [mem_roster_build, entity?_build, ← Option.bind_eq_some_iff]
  constructor
  · intro rostered e mem t team
    exact rostered t e.id ⟨e, mem, team, rfl⟩
  · rintro loyal t _ ⟨e, mem, team, rfl⟩
    exact loyal e mem t team

/-! ## The grid -/

/-- The id in the cell at a point of a grid. -/
def cell? (grid : List Row) (p : Point) : Option String :=
  if p.x < 0 ∨ p.y < 0 then none
  else do
    let row ← grid[p.y.toInt.toNat]?
    (← row[p.x.toInt.toNat]?)

/-- A square grid without ids. -/
def blank (size : Nat) : List Row := .replicate size (.replicate size none)

/-- As many rows as columns. -/
structure Square (size : Nat) (grid : List Row) : Prop where
  rows : grid.length = size
  columns : ∀ row ∈ grid, row.length = size

theorem negative_iff {p : Point} : (p.x < 0 ∨ p.y < 0) ↔ p.x.toInt < 0 ∨ p.y.toInt < 0 := by
  rw [Int64.lt_iff_toInt_lt, Int64.lt_iff_toInt_lt, Int64.toInt_zero]

theorem mem_of_mem_modify {α : Type} {l : List α} {i : Nat} {f : α → α} {a : α}
    (mem : a ∈ l.modify i f) : a ∈ l ∨ ∃ x ∈ l, a = f x := by
  obtain ⟨j, found⟩ := List.mem_iff_getElem?.mp mem
  rw [List.getElem?_modify] at found
  obtain ⟨x, there, rfl⟩ := Option.map_eq_some_iff.mp found
  have before : x ∈ l := List.mem_of_getElem? there
  split
  · exact .inr ⟨x, before, rfl⟩
  · exact .inl before

theorem mem_row_mark {grid : List Row} {e : Entity} {row : Row} (mem : row ∈ mark grid e) :
    row ∈ grid ∨ ∃ x ∈ grid, row = x.set e.point.x.toInt.toNat (some e.id) := by
  rw [mark] at mem
  split at mem
  · exact .inl mem
  · exact mem_of_mem_modify mem

theorem Square.mark {size : Nat} {grid : List Row} (square : Square size grid) (e : Entity) :
    Square size (mark grid e) where
  rows := by
    rw [Builder.mark]
    split
    · exact square.rows
    · rw [List.length_modify, square.rows]
  columns := by
    intro row mem
    rcases mem_row_mark mem with before | ⟨x, before, rfl⟩
    · exact square.columns row before
    · rw [List.length_set, square.columns x before]

theorem Square.cell?_outside {size : Nat} {grid : List Row} (square : Square size grid) {p : Point}
    (outside : ¬ Inside size p) : cell? grid p = none := by
  rw [cell?]
  split
  · rfl
  · next positive =>
    rw [negative_iff] at positive
    cases found : grid[p.y.toInt.toNat]? with
    | none => rfl
    | some row =>
      have width := square.columns row (List.mem_of_getElem? found)
      obtain ⟨height, -⟩ := List.getElem?_eq_some_iff.mp found
      have beyond : row.length ≤ p.x.toInt.toNat := by
        have rows := square.rows
        unfold Inside at outside
        omega
      show (row[p.x.toInt.toNat]?).bind id = none
      rw [List.getElem?_eq_none beyond]
      rfl

theorem Square.cell?_inside {size : Nat} {grid : List Row} (square : Square size grid) {p : Point}
    (inside : Inside size p) : ∃ row, grid[p.y.toInt.toNat]? = some row ∧
      p.x.toInt.toNat < row.length ∧ cell? grid p = (row[p.x.toInt.toNat]?).join := by
  obtain ⟨column, line⟩ := inside
  have height : p.y.toInt.toNat < grid.length := by
    rw [square.rows]
    omega
  refine ⟨grid[p.y.toInt.toNat], List.getElem?_eq_getElem height, ?_, ?_⟩
  · rw [square.columns _ (List.getElem_mem height)]
    omega
  · rw [cell?, if_neg (by rw [negative_iff]; omega), List.getElem?_eq_getElem height]
    rfl

/-- Two points without negative coordinates are the same if their places in a grid are. -/
theorem eq_of_place {p q : Point} (hp : ¬ (p.x < 0 ∨ p.y < 0)) (hq : ¬ (q.x < 0 ∨ q.y < 0))
    (column : p.x.toInt.toNat = q.x.toInt.toNat) (line : p.y.toInt.toNat = q.y.toInt.toNat) :
    p = q := by
  rw [negative_iff] at hp hq
  have x : p.x = q.x := Int64.toInt_inj.mp (by omega)
  have y : p.y = q.y := Int64.toInt_inj.mp (by omega)
  cases p
  cases q
  exact Point.mk.injEq .. ▸ ⟨x, y⟩

/-- A mark changes the cell of its entity and no other. -/
theorem Square.cell?_mark {size : Nat} {grid : List Row} (square : Square size grid) (e : Entity)
    (p : Point) : cell? (Builder.mark grid e) p =
      if e.point = p ∧ Inside size p then some e.id else cell? grid p := by
  by_cases inside : Inside size p
  · have positive : ¬ (p.x < 0 ∨ p.y < 0) := by
      rw [negative_iff]
      unfold Inside at inside
      omega
    by_cases negative : e.point.x < 0 ∨ e.point.y < 0
    · have elsewhere : e.point ≠ p := fun same => positive (same ▸ negative)
      rw [if_neg fun h => elsewhere h.1, Builder.mark, if_pos negative]
    · obtain ⟨row, found, width, cell⟩ := square.cell?_inside inside
      obtain ⟨row', found', -, cell'⟩ := (square.mark e).cell?_inside inside
      rw [Builder.mark, if_neg negative, List.getElem?_modify, found, Option.map_eq_map,
        Option.map_some, Option.some.injEq] at found'
      rw [cell', cell, ← found']
      by_cases here : e.point = p
      · rw [here, if_pos rfl, if_pos ⟨rfl, inside⟩, List.getElem?_set_self width]
        rfl
      · have apart : ¬ (e.point = p ∧ Inside size p) := fun h => here h.1
        rw [if_neg apart]
        by_cases line : e.point.y.toInt.toNat = p.y.toInt.toNat
        · have column : e.point.x.toInt.toNat ≠ p.x.toInt.toNat := fun column =>
            here (eq_of_place negative positive column line)
          rw [if_pos line, List.getElem?_set_ne column]
        · rw [if_neg line]
  · rw [(square.mark e).cell?_outside inside, square.cell?_outside inside,
      if_neg fun h => inside h.2]

/-- The cells of a grid that has been marked by some entities. -/
theorem square_marked (size : Nat) (es : List Entity) :
    Square size (es.foldl mark (blank size)) := by
  induction es using List.reverseRecOn with
  | nil =>
    refine ⟨List.length_replicate, fun row mem => ?_⟩
    rw [List.eq_of_mem_replicate mem, List.length_replicate]
  | append_singleton es e ih =>
    rw [List.foldl_append]
    exact ih.mark e

theorem cell?_marked (size : Nat) (es : List Entity) (p : Point) :
    cell? (es.foldl mark (blank size)) p =
      if Inside size p then (es.findRev? (·.point = p)).map (·.id) else none := by
  induction es using List.reverseRecOn with
  | nil =>
    have empty : cell? (blank size) p = none := by
      by_cases inside : Inside size p
      · obtain ⟨row, found, -, cell⟩ := (square_marked size []).cell?_inside inside
        obtain rfl := List.eq_of_mem_replicate (List.mem_of_getElem? found)
        rw [List.foldl_nil] at cell
        rw [cell, List.getElem?_replicate]
        split <;> rfl
      · exact (square_marked size []).cell?_outside inside
    rw [List.foldl_nil, empty]
    split <;> rfl
  | append_singleton es e ih =>
    rw [List.foldl_append, List.foldl_cons, List.foldl_nil, (square_marked size es).cell?_mark, ih,
      List.findRev?_eq_find?_reverse, List.findRev?_eq_find?_reverse, List.reverse_append,
      List.reverse_singleton, List.singleton_append, List.find?_cons]
    by_cases here : e.point = p
    · by_cases inside : Inside size p
      · simp [here, inside]
      · simp [inside]
    · simp [here]

/-- The id in a cell is that of the last entity placed there. -/
theorem idAt?_build (b : Builder) (p : Point) : b.build.idAt? p = (b.holder? p).map (·.id) := by
  have cell : b.build.idAt? p = _ := cell?_marked b.size b.entities p
  rw [cell, holder?]
  split <;> rfl

theorem entityAt?_build (b : Builder) (p : Point) :
    b.build.entityAt? p = (b.holder? p).bind fun e => b.last? e.id := by
  rw [entityAt?, idAt?_build, Option.bind_map]
  simp only [Function.comp_def, entity?_build]

/-- Only ids of the entities stand in a grid that they have marked. -/
theorem mem_marked {size : Nat} {es : List Entity} {row : Row}
    (inGrid : row ∈ es.foldl mark (blank size)) {id : String} (inRow : some id ∈ row) :
    ∃ e ∈ es, e.id = id := by
  induction es using List.reverseRecOn generalizing row with
  | nil =>
    rw [List.eq_of_mem_replicate inGrid] at inRow
    cases List.eq_of_mem_replicate inRow
  | append_singleton es e ih =>
    have earlier {x : Row} (before : x ∈ es.foldl mark (blank size)) (listed : some id ∈ x) :
        ∃ y ∈ es ++ [e], y.id = id := by
      obtain ⟨y, mem, is⟩ := ih before listed
      exact ⟨y, List.mem_append_left _ mem, is⟩
    rw [List.foldl_append] at inGrid
    rcases mem_row_mark inGrid with before | ⟨x, before, rfl⟩
    · exact earlier before inRow
    · rcases List.mem_or_eq_of_mem_set inRow with same | new
      · exact earlier before same
      · exact ⟨e, List.mem_append_right _ List.mem_cons_self, (Option.some.inj new).symm⟩

theorem placed_build (b : Builder) :
    ∀ row ∈ b.build.grid, ∀ id, some id ∈ row → (b.build.entity? id).isSome := by
  intro row inGrid id inRow
  obtain ⟨e, mem, rfl⟩ := mem_marked inGrid inRow
  rw [entity?_build]
  exact isSome_last? mem

/-! ## Consistency -/

theorem consistent_build_iff : b.build.Consistent ↔ b.Loyal := by
  rw [← rostered_build_iff]
  constructor
  · intro consistent
    exact consistent.rostered
  · intro rostered
    exact ⟨filed_build b, rostered, placed_build b⟩

theorem decode_build_iff :
    Json.decode Board (Json.encode b.build) = .ok b.build ↔ b.Loyal := by
  rw [← consistent_build_iff]
  exact ⟨consistent_of_decode, decode_encode⟩

theorem holder?_mem {p : Point} {e : Entity} (holds : b.holder? p = some e) :
    e ∈ b.entities ∧ e.point = p := by
  rw [holder?] at holds
  split at holds
  · rw [List.findRev?_eq_find?_reverse] at holds
    exact ⟨List.mem_reverse.mp (List.mem_of_find?_eq_some holds), by
      simpa using List.find?_some holds⟩
  · cases holds

theorem entityAt?_build_iff :
    (∀ p e, b.build.entityAt? p = some e → e.point = p) ↔ b.Settled := by
  constructor
  · intro right p e holds
    obtain ⟨last, is⟩ := Option.isSome_iff_exists.mp (isSome_last? (holder?_mem holds).1)
    have found : b.build.entityAt? p = some last := by
      rw [entityAt?_build, holds, Option.bind_some, is]
    rw [is, Option.map_some, right p last found]
  · intro settled p e found
    rw [entityAt?_build] at found
    obtain ⟨holder, holds, is⟩ := Option.bind_eq_some_iff.mp found
    have point := settled p holder holds
    rw [is, Option.map_some] at point
    exact Option.some.inj point

/-- Where no id comes twice, every entity is the last one of its id. -/
theorem last?_of_distinct (distinct : (b.entities.map (·.id)).Nodup) {e : Entity}
    (mem : e ∈ b.entities) : b.last? e.id = some e := by
  obtain ⟨last, is⟩ := Option.isSome_iff_exists.mp (isSome_last? mem)
  have same := id_last? is
  have listed : last ∈ b.entities := by
    rw [last?, List.findRev?_eq_find?_reverse] at is
    exact List.mem_reverse.mp (List.mem_of_find?_eq_some is)
  rw [is, List.inj_on_of_nodup_map distinct listed mem same]

theorem loyal_of_distinct (distinct : (b.entities.map (·.id)).Nodup) : b.Loyal := by
  intro e mem t team
  rw [last?_of_distinct distinct mem]
  exact team

theorem settled_of_distinct (distinct : (b.entities.map (·.id)).Nodup) : b.Settled := by
  intro p e holds
  obtain ⟨mem, there⟩ := holder?_mem holds
  rw [last?_of_distinct distinct mem, Option.map_some, there]

/-- Whatever a builder is told, the board that it builds files its entities under their ids, and
its rosters and cells name entities of it. It is consistent, and is read back as it was written,
exactly if the id of each unit stays with units of its team. All that is found at a point stands
there exactly if the ids in the cells stay in their places. Both hold if no id comes twice. -/
theorem built_consistent_iff (team : Team) (calls : List Call) :
    let b := after team calls
    let board := b.build
    ((∀ e ∈ board.entities.entries, e.1 = e.2.id) ∧
      (∀ t, ∀ id ∈ board.roster t, (board.entity? id).isSome) ∧
      ∀ row ∈ board.grid, ∀ id, some id ∈ row → (board.entity? id).isSome) ∧
    (board.Consistent ↔ b.Loyal) ∧
    (Json.decode Board (Json.encode board) = .ok board ↔ b.Loyal) ∧
    ((∀ p e, board.entityAt? p = some e → e.point = p) ↔ b.Settled) ∧
    ((b.entities.map (·.id)).Nodup → b.Loyal ∧ b.Settled) := by
  intro b board
  refine ⟨⟨filed_build b, fun t id listed => ?_, placed_build b⟩, consistent_build_iff,
    decode_build_iff, entityAt?_build_iff, fun distinct => ?_⟩
  · obtain ⟨e, mem, -, rfl⟩ := mem_roster_build.mp listed
    rw [entity?_build]
    exact isSome_last? mem
  · exact ⟨loyal_of_distinct distinct, settled_of_distinct distinct⟩

/-! ## Two builders -/

/-- Two units in one cell, and a wall off the grid. -/
def crowded : List Call :=
  [.unit "a" ⟨1, 0⟩ .red 5, .size 2, .unit "b" ⟨1, 0⟩ .blue 5, .turn 7, .terrain "w" ⟨-1, 9⟩]

theorem built_consistent_iff_crowded :
    let board := (after .red crowded).build
    board.Consistent ∧ board.entityAt? ⟨1, 0⟩ = some ⟨"b", ⟨1, 0⟩, .unit .blue 5⟩ ∧
      (board.entity? "w").isSome ∧ board.turn = 7 := by
  have ⟨_, consistent, _, _, distinct⟩ := built_consistent_iff .red crowded
  have ⟨loyal, _⟩ := distinct (by decide)
  exact ⟨consistent.mpr loyal, by decide +kernel, by decide +kernel, rfl⟩

/-- A unit that comes again in the other team and in another place is still on the roster of its
first team and found in its first place, and the board is refused when it is read. -/
theorem turncoat_spoils_board :
    let board := (after .red
      [.size 2, .unit "a" ⟨0, 0⟩ .red 5, .unit "a" ⟨1, 1⟩ .blue 5]).build
    board.red = ["a"] ∧ (board.entity? "a").bind Entity.team? = some .blue ∧
      ¬ board.Consistent ∧ Json.decode Board (Json.encode board) ≠ .ok board ∧
      ∃ e, board.entityAt? ⟨0, 0⟩ = some e ∧ e.point = ⟨1, 1⟩ := by
  intro board
  have inconsistent : ¬ board.Consistent := by
    rw [← error?_eq_none_iff]
    decide +kernel
  refine ⟨by decide +kernel, by decide +kernel, inconsistent, fun read => ?_, ?_⟩
  · exact inconsistent (consistent_of_decode read)
  · exact ⟨⟨"a", ⟨1, 1⟩, .unit .blue 5⟩, by decide +kernel, rfl⟩

end RobotTurn.Board.Builder
