import RobotTurn.Demo
import RobotTurn.Proofs.Geometry
import RobotTurn.Proofs.Runner.Isolation
import RobotTurn.Proofs.Utf8
import RobotTurn.Proofs.Wire.World

/-! What a patrol does. The heading of each unit is told by the columns in which that unit has been
called and by nothing else (`Tracks`), and a unit that starts on its beat and goes where it is told
to, if it goes anywhere, stays there (`OnBeat.step`). -/
namespace RobotTurn

open EntryPoint (turnName)

/-- The session after turns on some boards. -/
def Runner.after {σ : Type} (r : Runner σ) (boards : List Board) : Runner σ :=
  boards.foldl (fun r b => (r.turn b).runner) r

/-- Where a search from the end stops. -/
theorem exists_findRev? {α : Type} {p : α → Bool} {l : List α} (found : ∃ a ∈ l, p a) :
    ∃ front a behind, l = front ++ a :: behind ∧ p a ∧ (∀ b ∈ behind, p b = false) ∧
      l.findRev? p = some a := by
  rw [List.findRev?_eq_find?_reverse]
  have some : (l.reverse.find? p).isSome := by
    rw [List.find?_isSome]
    obtain ⟨a, mem, holds⟩ := found
    exact ⟨a, List.mem_reverse.mpr mem, holds⟩
  obtain ⟨a, last⟩ := Option.isSome_iff_exists.mp some
  obtain ⟨holds, behind, front, split, others⟩ := List.find?_eq_some_iff_append.mp last
  refine ⟨front.reverse, a, behind.reverse, ?_, holds, fun b mem => ?_, last⟩
  · rw [← List.reverse_reverse l, split, List.reverse_append, List.reverse_cons,
      List.append_assoc, List.singleton_append]
  · simpa using others b (List.mem_reverse.mp mem)

namespace Demo

/-! ## Headings -/

/-- The columns in which a unit stands in some calls. -/
def columns (id : String) (units : List Entity) : List Int64 :=
  (units.filter (·.id = id)).map (·.point.x)

/-- The heading of a unit that has been called in these columns. -/
def course (xs : List Int64) : Direction := xs.foldl (fun d x => turnAt x d) .east

/-- Headings after some calls, each as its unit's own columns tell it. -/
def Tracks (hs : Headings) (units : List Entity) : Prop :=
  ∀ id, (hs.find? id).getD .east = course (columns id units)

theorem columns_append (id : String) (units more : List Entity) :
    columns id (units ++ more) = columns id units ++ columns id more := by
  rw [columns, List.filter_append, List.map_append]
  rfl

theorem columns_own (unit : Entity) : columns unit.id [unit] = [unit.point.x] := by
  simp [columns]

theorem columns_others {id : String} {units : List Entity} (others : ∀ e ∈ units, e.id ≠ id) :
    columns id units = [] := by
  rw [columns, List.map_eq_nil_iff, List.filter_eq_nil_iff]
  simpa using others

theorem course_snoc (xs : List Int64) (x : Int64) : course (xs ++ [x]) = turnAt x (course xs) := by
  simp [course]

namespace Tracks

variable {hs : Headings} {units : List Entity}

/-- A unit is told the heading of its own columns, the one it stands in included. -/
theorem heading (tracks : Tracks hs units) (unit : Entity) :
    Demo.heading hs unit = course (columns unit.id (units ++ [unit])) := by
  rw [Demo.heading, tracks, columns_append, columns_own, course_snoc]

/-- The call of a unit is noted under its own id. -/
theorem step (tracks : Tracks hs units) (unit : Entity) :
    Tracks (hs.insert unit.id (Demo.heading hs unit)) (units ++ [unit]) := by
  intro id
  rw [Dict.find?_insert]
  by_cases own : id = unit.id
  · rw [if_pos own, own, Option.getD_some, tracks.heading]
  · rw [if_neg own, tracks, columns_append,
      columns_others (List.forall_mem_singleton.mpr (Ne.symm own)), List.append_nil]

end Tracks

/-! ## Calls -/

variable {turn : EntryPoint Headings}

theorem visit_patrol (entry : patrol.entry? turnName = some turn) (b : Board) (hs : Headings)
    (unit : Entity) : turn.visit b hs unit = ⟨unit, {
      events := [.print s!"{unit.id} at x={unit.point.x}\n"]
      outcome := .returned (.action (.move (heading hs unit)))
      state := hs.insert unit.id (heading hs unit) }⟩ := by
  obtain rfl := Option.some.inj entry
  rfl

/-- Calls after some others, each of which orders the move that its unit's own columns tell. -/
def Ordered (before : List Entity) (vs : List (Visit Headings)) : Prop :=
  ∀ front v behind, vs = front ++ v :: behind → v.run.outcome = .returned (.action (.move
    (course (columns v.unit.id (before ++ (front ++ [v]).map (·.unit))))))

theorem Ordered.cons {before : List Entity} {v : Visit Headings} {vs : List (Visit Headings)}
    (first : v.run.outcome =
      .returned (.action (.move (course (columns v.unit.id (before ++ [v.unit]))))))
    (rest : Ordered (before ++ [v.unit]) vs) : Ordered before (v :: vs) := by
  intro front w behind split
  cases front with
  | nil =>
    cases split
    exact first
  | cons _ front =>
    cases split
    have order := rest front w behind rfl
    rwa [List.append_assoc] at order

/-- The calls of a turn, each of which finds the headings as the ones before it left them. -/
theorem visits_patrol (entry : patrol.entry? turnName = some turn) (b : Board) {hs : Headings}
    {before : List Entity} (tracks : Tracks hs before) (units : List Entity) :
    let vs := visits turn b hs units
    (∀ v ∈ vs, v.abandoned = false) ∧ Ordered before vs ∧
      Tracks (stateAfter hs vs) (before ++ units) := by
  -- every call hands on both its headings and itself, as one more of the calls before
  induction units generalizing hs before with
  | nil =>
    refine ⟨nofun, fun front v behind split => ?_, ?_⟩
    · cases front <;> cases split
    · rwa [List.append_nil]
  | cons unit units ih =>
    have visit := visit_patrol entry b hs unit
    have back : (turn.visit b hs unit).abandoned = false := by rw [visit]; rfl
    have noted : (turn.visit b hs unit).run.state = hs.insert unit.id (heading hs unit) := by
      rw [visit]
    obtain ⟨backs, orders, left⟩ := ih (tracks.step unit)
    rw [visits_go back, noted]
    refine ⟨List.forall_mem_cons.mpr ⟨back, backs⟩, .cons ?_ orders, ?_⟩
    · rw [visit, tracks.heading]
    · rw [List.append_assoc] at left
      rwa [stateAfter, List.foldl_cons, noted]

/-- What counts for a unit is its last call, behind which its columns do not grow. -/
theorem Ordered.last {before : List Entity} {vs : List (Visit Headings)}
    (ordered : Ordered before vs) (plain : turn.params = 2) (source : String) {id : String}
    (listed : id ∈ vs.map (·.unit.id)) :
    (vs.findRev? (·.unit.id = id)).bind (·.reply? source turn) =
      some (.ok (some (.move (course (columns id (before ++ vs.map (·.unit))))))) := by
  obtain ⟨w, mem, named⟩ := List.mem_map.mp listed
  obtain ⟨front, v, behind, split, own, others, last⟩ :=
    exists_findRev? (p := fun u : Visit Headings => u.unit.id = id) ⟨w, mem, decide_eq_true named⟩
  obtain rfl : v.unit.id = id := of_decide_eq_true own
  have later : columns v.unit.id (behind.map (·.unit)) = [] := by
    refine columns_others fun e h => ?_
    obtain ⟨u, mem, rfl⟩ := List.mem_map.mp h
    exact of_decide_eq_false (others u mem)
  have seen : columns v.unit.id (before ++ vs.map (·.unit)) =
      columns v.unit.id (before ++ (front ++ [v]).map (·.unit)) := by
    rw [split, List.append_cons, List.map_append, ← List.append_assoc, columns_append, later,
      List.append_nil]
  rw [last, Option.bind_some, seen, Visit.reply?, ordered front v behind split, Visit.breach,
    plain]
  rfl

/-! ## Turns -/

/-- The units called in turns on some boards, in the order of their calls. -/
def called (boards : List Board) : List Entity := boards.flatMap fun b => b.entitiesOf b.team

/-- A patrol that has noted the calls of some units. -/
structure Noted (r : Runner Headings) (hs : Headings) (units : List Entity) : Prop where
  ready : ∃ due, r = .ready { patrol with state := hs } due
  tracks : Tracks hs units

/-- What a patrol does in a turn after some calls. -/
structure Patrolled (r : Runner Headings) (before : List Entity) (b : Board)
    (vs : List (Visit Headings)) : Prop where
  calls : (r.turn b).calls = vs.map (·.call b)
  units : vs.map (·.unit) = b.entitiesOf b.team
  ordered : Ordered before vs
  answered : ∃ report, (r.turn b).answer = some (.ok report) ∧
    ∀ id, report.actions.find? id =
      if id ∈ b.roster b.team then
        some (.ok (some (.move (course (columns id (before ++ b.entitiesOf b.team))))))
      else none

theorem patrol_turn (entry : patrol.entry? turnName = some turn) {r : Runner Headings}
    {hs : Headings} {before : List Entity} (noted : Noted r hs before) {b : Board}
    (consistent : b.Consistent) :
    let vs := visits turn b hs (b.entitiesOf b.team)
    Patrolled r before b vs ∧
      Noted (r.turn b).runner (stateAfter hs vs) (before ++ b.entitiesOf b.team) := by
  intro vs
  obtain ⟨⟨due, rfl⟩, tracks⟩ := noted
  obtain ⟨back, ordered, left⟩ := visits_patrol entry b tracks (b.entitiesOf b.team)
  let current : Robot Headings := { patrol with state := hs }
  have sound : current.fault? = none := rfl
  have opened : current.opening? due b = some { state := hs } := rfl
  obtain ⟨turn', entry', calls, runner, -, answered⟩ := Runner.turn_accounts sound consistent opened
  obtain rfl : turn' = turn := Option.some.inj (entry'.symm.trans entry)
  have units := map_unit_visits turn' b hs (b.entitiesOf b.team) (by simpa using back)
  obtain ⟨ids, -, report, answer, accounts⟩ := answered back
  refine ⟨⟨calls, units, ordered, report, answer, fun id => ?_⟩, ⟨false, runner⟩, left⟩
  by_cases listed : id ∈ b.roster b.team
  · have plain : turn'.params = 2 := by
      obtain rfl := Option.some.inj entry
      rfl
    rw [if_pos listed, accounts.actions, ordered.last plain _ (ids ▸ listed), units]
  · rw [if_neg listed, ← Option.not_isSome_iff_eq_none, ← Dict.mem_keys_iff, accounts.keys]
    exact listed

theorem called_cons (b : Board) (boards : List Board) :
    called (b :: boards) = b.entitiesOf b.team ++ called boards := List.flatMap_cons

theorem patrol_after {r : Runner Headings} {hs : Headings} {before : List Entity}
    (noted : Noted r hs before) {boards : List Board} (consistent : ∀ b ∈ boards, b.Consistent) :
    ∃ hs, Noted (r.after boards) hs (before ++ called boards) := by
  obtain ⟨turn, entry⟩ : ∃ turn, patrol.entry? turnName = some turn := ⟨_, rfl⟩
  induction boards generalizing r hs before with
  | nil => exact ⟨hs, by rwa [called, List.flatMap_nil, List.append_nil]⟩
  | cons b boards ih =>
    obtain ⟨first, later⟩ := List.forall_mem_cons.mp consistent
    rw [called_cons, ← List.append_assoc]
    exact ih (patrol_turn entry noted first).2 later

/-! ## Beats -/

/-- Columns of a unit that starts on its beat and takes no step but the one it was told last. -/
structure Obeyed (xs : List Int64) : Prop where
  first : ∀ x, xs[0]? = some x → 0 ≤ x ∧ x ≤ eastEdge
  steps : ∀ k x y, xs[k]? = some x → xs[k + 1]? = some y →
    y = x ∨ y = x + (course (xs.take (k + 1))).vector.x

/-- Columns of a unit that stays on its beat and turns around nowhere but at the edges. -/
structure Kept (xs : List Int64) : Prop where
  within : ∀ x ∈ xs, 0 ≤ x ∧ x ≤ eastEdge
  turns : ∀ k x, xs[k]? = some x → course (xs.take (k + 1)) ≠ course (xs.take k) →
    (x = eastEdge ∧ course (xs.take (k + 1)) = .west) ∨
      (x = 0 ∧ course (xs.take (k + 1)) = .east)

/-- A unit on its beat, of which an edge is never ahead. -/
structure OnBeat (x : Int64) (d : Direction) : Prop where
  within : 0 ≤ x ∧ x ≤ eastEdge
  along : d = .west ∨ d = .east
  eastEdge : x = eastEdge → d = .west
  westEdge : x = 0 → d = .east

theorem turnAt_cases {x : Int64} (within : 0 ≤ x ∧ x ≤ eastEdge) (d : Direction) :
    (x = eastEdge ∧ turnAt x d = .west) ∨ (x = 0 ∧ turnAt x d = .east) ∨
      (x ≠ eastEdge ∧ x ≠ 0 ∧ turnAt x d = d) := by
  by_cases east : x = eastEdge
  · exact .inl ⟨east, if_pos (east ▸ Int64.le_refl _)⟩
  have inner : ¬ eastEdge ≤ x := fun beyond => east (Int64.le_antisymm within.2 beyond)
  by_cases west : x = 0
  · refine .inr (.inl ⟨west, ?_⟩)
    rw [turnAt, if_neg inner, if_pos (west ▸ Int64.le_refl _)]
  · have outer : ¬ x ≤ 0 := fun beyond => west (Int64.le_antisymm beyond within.1)
    exact .inr (.inr ⟨east, west, by rw [turnAt, if_neg inner, if_neg outer]⟩)

theorem OnBeat.turnAt {x : Int64} {d : Direction} (within : 0 ≤ x ∧ x ≤ Demo.eastEdge)
    (along : d = .west ∨ d = .east) : OnBeat x (turnAt x d) := by
  obtain ⟨rfl, west⟩ | ⟨rfl, east⟩ | ⟨inner, outer, kept⟩ := turnAt_cases within d
  · rw [west]
    exact ⟨within, .inl rfl, fun _ => rfl, nofun⟩
  · rw [east]
    exact ⟨within, .inr rfl, nofun, fun _ => rfl⟩
  · rw [kept]
    exact ⟨within, along, fun edge => absurd edge inner, fun edge => absurd edge outer⟩

theorem within_iff {x : Int64} : (0 ≤ x ∧ x ≤ eastEdge) ↔ 0 ≤ x.toInt ∧ x.toInt ≤ 17 := by
  rw [Int64.le_iff_toInt_le, Int64.le_iff_toInt_le]
  rfl

/-- A unit that stays or goes on stays on its beat. -/
theorem OnBeat.step {x y : Int64} {d : Direction} (on : OnBeat x d)
    (moved : y = x ∨ y = x + d.vector.x) : OnBeat y (Demo.turnAt y d) := by
  refine .turnAt ?_ on.along
  obtain rfl | rfl := moved
  · exact on.within
  have west : Direction.west.vector.x.toInt = -1 := by decide
  have east : Direction.east.vector.x.toInt = 1 := by decide
  have within := within_iff.mp on.within
  have sum : (x + d.vector.x).toInt = x.toInt + d.vector.x.toInt := by
    obtain rfl | rfl := on.along <;> exact Point.toInt_add_of_fits (by omega) (by omega)
  rw [within_iff, sum]
  obtain rfl | rfl := on.along
  · have inner : x.toInt ≠ 0 := fun edge => nomatch on.westEdge (Int64.toInt_inj.mp edge)
    omega
  · have inner : x.toInt ≠ 17 := fun edge => nomatch on.eastEdge (Int64.toInt_inj.mp edge)
    omega

theorem course_take {xs : List Int64} {k : Nat} {x : Int64} (here : xs[k]? = some x) :
    course (xs.take (k + 1)) = turnAt x (course (xs.take k)) := by
  rw [List.take_add_one, here, Option.toList_some, course_snoc]

/-- A unit that does as it is told is on its beat in every call. The place alone would not do for
the induction: it is the heading that keeps the next step from leading off an edge. -/
theorem Obeyed.onBeat {xs : List Int64} (obeyed : Obeyed xs) :
    ∀ (k : Nat) (x : Int64), xs[k]? = some x → OnBeat x (course (xs.take (k + 1)))
  | 0, x, here => by
    rw [course_take here]
    exact .turnAt (obeyed.first x here) (.inr rfl)
  | k + 1, y, here => by
    obtain ⟨lt, -⟩ := List.getElem?_eq_some_iff.mp here
    have last : xs[k]? = some xs[k] := List.getElem?_eq_getElem (by omega)
    rw [course_take here]
    exact (obeyed.onBeat k _ last).step (obeyed.steps k _ y last here)

theorem Obeyed.kept {xs : List Int64} (obeyed : Obeyed xs) : Kept xs := by
  refine ⟨fun x mem => ?_, fun k x here turned => ?_⟩
  · obtain ⟨k, here⟩ := List.mem_iff_getElem?.mp mem
    exact (obeyed.onBeat k x here).within
  · rw [course_take here] at turned ⊢
    obtain east | west | ⟨-, -, kept⟩ :=
      turnAt_cases (obeyed.onBeat k x here).within (course (xs.take k))
    · exact .inl east
    · exact .inr west
    · exact absurd kept turned

/-! ## Sessions -/

theorem robot_of_patrol {text : String} (mode : Text.trim text = "patrol") :
    robot (Utf8.encode text) = .ok patrol := by
  simp only [robot, Utf8.decode?_encode, mode]
  rfl

/-- In a session of patrols every unit called is told to go where its own columns say, whoever else
is called with it or has been called before. If it does as it is told it stays on its beat and turns
around at the edges alone. -/
theorem patrol_keeps_beat {payload : List UInt8} {boards : List Board} {b : Board}
    (chosen : robot payload = .ok patrol) (consistent : ∀ c ∈ boards ++ [b], c.Consistent) :
    let r := (Runner.load robot payload .idle).2.after boards
    let units := b.entitiesOf b.team
    ∃ turn hs, patrol.entry? turnName = some turn ∧ Noted r hs (called boards) ∧
      Patrolled r (called boards) b (visits turn b hs units) ∧
      ∀ id, Obeyed (columns id (called boards ++ units)) →
        Kept (columns id (called boards ++ units)) := by
  intro r units
  obtain ⟨before, now⟩ := List.forall_mem_append.mp consistent
  have fresh : Noted (Runner.load robot payload .idle).2 ∅ [] := by
    rw [Runner.load_idle chosen]
    exact ⟨⟨true, rfl⟩, fun _ => rfl⟩
  obtain ⟨turn, entry⟩ : ∃ turn, patrol.entry? turnName = some turn := ⟨_, rfl⟩
  obtain ⟨hs, noted⟩ := patrol_after fresh before
  exact ⟨turn, hs, entry, noted, (patrol_turn entry noted (now b (List.mem_singleton_self b))).1,
    fun _ => Obeyed.kept⟩

/-- Two units in one row, of which some are listed. -/
def row (ids : List String) (x : Int64) : Board where
  turn := 1
  team := .red
  red := ids
  blue := []
  entities := .ofList [("a", ⟨"a", ⟨x, 0⟩, .unit .red 5⟩), ("b", ⟨"b", ⟨3, 0⟩, .unit .red 5⟩)]
  grid := []

/-- A unit that comes back from a turn without it, at the edge and listed twice, turns around. -/
theorem patrol_keeps_beat_at_edge :
    let payload := Utf8.encode " patrol"
    let boards := [row ["a"] 16, row ["b"] 16]
    let b := row ["a", "b", "a"] 17
    let xs := columns "a" (called boards ++ b.entitiesOf b.team)
    robot payload = .ok patrol ∧ (∀ c ∈ boards ++ [b], c.Consistent) ∧ xs = [16, 17, 17] ∧
      Obeyed xs ∧ Kept xs ∧
      ∃ report, (((Runner.load robot payload .idle).2.after boards).turn b).answer =
          some (.ok report) ∧
        report.actions.find? "a" = some (.ok (some (.move .west))) := by
  intro payload boards b xs
  have chosen : robot payload = .ok patrol := robot_of_patrol (by decide)
  have consistent : ∀ c ∈ boards ++ [b], c.Consistent := by
    simp only [← Board.error?_eq_none_iff]
    decide
  obtain ⟨turn, hs, -, -, patrolled, kept⟩ := patrol_keeps_beat chosen consistent
  have seen : xs = [16, 17, 17] := by decide
  have obeyed : Obeyed xs := by
    rw [seen]
    refine ⟨fun x here => ?_, fun k x y here there => ?_⟩
    · obtain rfl := Option.some.inj here
      decide
    · match k with
      | 0 | 1 =>
        obtain rfl := Option.some.inj here
        obtain rfl := Option.some.inj there
        decide
      | k + 2 => cases there
  obtain ⟨report, answer, actions⟩ := patrolled.answered
  exact ⟨chosen, consistent, seen, obeyed, kept "a" obeyed, report, answer, actions "a"⟩

end Demo
end RobotTurn
