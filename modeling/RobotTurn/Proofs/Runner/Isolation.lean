import RobotTurn.Proofs.Runner.Turn

/-! Units do not get in each other's way. Two robots are compared that do the same at every place
of the roster but one, and leave the same state there: what they do at that place reaches the
outcome, the table, the lines and the inspections of no other (`unit_isolated`). -/
namespace RobotTurn

open EntryPoint (turnName)

variable {σ : Type}

/-- The call of a turn entry for a unit, in the state that it finds. -/
def EntryPoint.visit (turn : EntryPoint σ) (b : Board) (s : σ) (unit : Entity) : Visit σ :=
  ⟨unit, turn.body [.board b, .entity unit] (turn.params = 3) s⟩

theorem visits_stop {turn : EntryPoint σ} {b : Board} {s : σ} {unit : Entity}
    (gone : (turn.visit b s unit).abandoned = true) (units : List Entity) :
    visits turn b s (unit :: units) = [turn.visit b s unit] :=
  congrArg (_ :: ·) (if_pos gone)

theorem visits_go {turn : EntryPoint σ} {b : Board} {s : σ} {unit : Entity}
    (back : (turn.visit b s unit).abandoned = false) (units : List Entity) :
    visits turn b s (unit :: units) =
      turn.visit b s unit :: visits turn b (turn.visit b s unit).run.state units :=
  congrArg (_ :: ·) (if_neg (ne_true_of_eq_false back))

/-- The state that the visit at a place finds. -/
def foundAt (s : σ) (vs : List (Visit σ)) (place : Nat) : σ := stateAfter s (vs.take place)

/-- A turn entry that does at every place but `k` what was done in these visits. At `k` both calls
come back, in any two ways, and leave the same state. -/
structure AlikeBut (k : Nat) (turn other : EntryPoint σ) (b : Board) (s : σ)
    (vs : List (Visit σ)) : Prop where
  line : other.line = turn.line
  params : other.params = turn.params
  elsewhere : ∀ i v, i ≠ k → vs[i]? = some v → other.visit b (foundAt s vs i) v.unit = v
  back : ∀ v, vs[k]? = some v → v.abandoned = false
  here : ∀ v, vs[k]? = some v → (other.visit b (foundAt s vs k) v.unit).abandoned = false ∧
    (other.visit b (foundAt s vs k) v.unit).run.state = v.run.state

namespace AlikeBut

variable {turn other : EntryPoint σ} {b : Board} {s : σ} {v : Visit σ} {vs : List (Visit σ)}

theorem tail {k : Nat} (alike : AlikeBut (k + 1) turn other b s (v :: vs)) :
    AlikeBut k turn other b v.run.state vs where
  line := alike.line
  params := alike.params
  elsewhere i w off at_i := alike.elsewhere (i + 1) w (by omega) at_i
  back := alike.back
  here := alike.here

/-- Behind the place that differs, the one that may differ lies past the end. -/
theorem rest (alike : AlikeBut 0 turn other b s (v :: vs)) :
    AlikeBut vs.length turn other b v.run.state vs where
  line := alike.line
  params := alike.params
  elsewhere i w _ at_i := alike.elsewhere (i + 1) w (by omega) at_i
  back w at_end := by simp at at_end
  here w at_end := by simp at at_end

end AlikeBut

/-- The visits differ at the one place only: behind it both turns find the same states again. -/
theorem visits_alike {turn other : EntryPoint σ} {b : Board} {units : List Entity} {s : σ}
    {k : Nat} (alike : AlikeBut k turn other b s (visits turn b s units)) :
    visits other b s units = (visits turn b s units).modify k fun v =>
      other.visit b (foundAt s (visits turn b s units) k) v.unit := by
  induction units generalizing s k with
  | nil => simp [visits]
  | cons unit units ih =>
    cases gone : (turn.visit b s unit).abandoned with
    | true =>
      rw [visits_stop gone] at alike ⊢
      cases k with
      | zero =>
        have back := alike.back _ rfl
        rw [gone] at back
        cases back
      | succ k =>
        have same : other.visit b s unit = turn.visit b s unit :=
          alike.elsewhere 0 _ (by omega) rfl
        rw [List.modify_succ_cons, List.modify_nil, ← same, visits_stop (same ▸ gone)]
    | false =>
      rw [visits_go gone] at alike ⊢
      cases k with
      | zero =>
        obtain ⟨back, same⟩ : (other.visit b s unit).abandoned = false ∧
            (other.visit b s unit).run.state = (turn.visit b s unit).run.state :=
          alike.here _ rfl
        have equal := ih alike.rest
        rw [List.modify_eq_self (Nat.le_refl _)] at equal
        rw [visits_go back, same, equal]
        rfl
      | succ k =>
        have same : other.visit b s unit = turn.visit b s unit :=
          alike.elsewhere 0 _ (by omega) rfl
        rw [List.modify_succ_cons, visits_go (same ▸ gone), same, ih alike.tail]
        rfl

/-- A list around one of its elements, which may be replaced. -/
theorem modify_split {α : Type} {l : List α} {k : Nat} {a : α} (at_k : l[k]? = some a)
    (f : α → α) :
    l = l.take k ++ a :: l.drop (k + 1) ∧ l.modify k f = l.take k ++ f a :: l.drop (k + 1) := by
  obtain ⟨lt, rfl⟩ := List.getElem?_eq_some_iff.mp at_k
  refine ⟨?_, List.modify_eq_take_cons_drop lt⟩
  rw [← List.drop_eq_getElem_cons lt, List.take_append_drop]

/-- What does not see one element does not see it replaced. -/
theorem modify_unseen {α β : Type} {l : List α} {k : Nat} {f : α → α} (look : List α → β)
    (unseen : ∀ a, l[k]? = some a → ∀ front behind,
      look (front ++ f a :: behind) = look (front ++ a :: behind)) :
    look (l.modify k f) = look l := by
  cases at_k : l[k]? with
  | none => rw [List.modify_eq_self (List.getElem?_eq_none_iff.mp at_k)]
  | some a =>
    obtain ⟨whole, replaced⟩ := modify_split at_k f
    rw [replaced, unseen a at_k, ← whole]

/-- A search for something that neither of two elements is does not tell them apart. -/
theorem findRev?_swap {α : Type} {p : α → Bool} {a a' : α} (h : p a = false) (h' : p a' = false)
    (front behind : List α) :
    (front ++ a' :: behind).findRev? p = (front ++ a :: behind).findRev? p := by
  simp [List.findRev?_eq_find?_reverse, List.find?_append, h, h']

namespace AlikeBut

variable {k : Nat} {turn other : EntryPoint σ} {b : Board} {s : σ} {vs : List (Visit σ)}

/-- Both entries turn what happened in a call into the same report. -/
theorem accounts (alike : AlikeBut k turn other b s vs) {r : TurnReport} {source : String}
    {roster opening : List String} {ws : List (Visit σ)}
    (h : r.Accounts source other roster opening ws) : r.Accounts source turn roster opening ws := by
  have replies (v : Visit σ) : v.reply? source other = v.reply? source turn := by
    simp only [Visit.reply?, Visit.breach, alike.line, alike.params]
  have entries (v : Visit σ) : v.entries other = v.entries turn := by
    simp only [Visit.entries, alike.params]
  have inspections (v : Visit σ) : v.inspections other = v.inspections turn := by
    simp only [Visit.inspections, alike.params]
  obtain ⟨⟨keys, logs, inspected, tables, filled⟩, actions⟩ := h
  simp only [replies, entries, inspections] at actions inspected tables
  exact ⟨⟨keys, logs, inspected, tables, filled⟩, actions⟩

/-- The place that differs leaves nothing behind in the state. -/
theorem stateAfter_eq (alike : AlikeBut k turn other b s vs) :
    stateAfter s (vs.modify k fun v => other.visit b (foundAt s vs k) v.unit) = stateAfter s vs :=
  modify_unseen (stateAfter s) fun v at_k front behind => by
    simp only [stateAfter, List.foldl_append, List.foldl_cons, (alike.here v at_k).2]

/-- A call is abandoned in both turns or in none. -/
theorem any_abandoned (alike : AlikeBut k turn other b s vs) :
    (vs.modify k fun v => other.visit b (foundAt s vs k) v.unit).any (·.abandoned) =
      vs.any (·.abandoned) :=
  modify_unseen (List.any · Visit.abandoned) fun v at_k front behind => by
    simp only [List.any_append, List.any_cons, alike.back v at_k, (alike.here v at_k).1]

end AlikeBut

/-- A report whose lines and inspections are those of an opening, of the visits in front of one
visit, of that visit and of the ones behind it, in this order. -/
structure TurnReport.Splits (r : TurnReport) (turn : EntryPoint σ) (opening : List String)
    (front : List (Visit σ)) (v : Visit σ) (behind : List (Visit σ)) : Prop where
  logs : r.logs = opening ++ (front.flatMap (·.logs) ++ v.logs ++ behind.flatMap (·.logs))
  inspections : r.inspections =
    front.flatMap (·.inspections turn) ++ v.inspections turn ++
      behind.flatMap (·.inspections turn)

namespace TurnReport.Accounts

variable {r r' : TurnReport} {source : String} {turn : EntryPoint σ}
  {roster opening opening' : List String} {front behind : List (Visit σ)} {v w : Visit σ}

theorem splits (h : r.Accounts source turn roster opening (front ++ v :: behind)) :
    r.Splits turn opening front v behind where
  logs := by rw [h.logs, List.flatMap_append, List.flatMap_cons, List.append_assoc]
  inspections := by rw [h.inspections, List.flatMap_append, List.flatMap_cons, List.append_assoc]

/-- Reports that account for the same visits, one excepted, agree about the units of the others. -/
theorem agree (h : r.Accounts source turn roster opening (front ++ v :: behind))
    (h' : r'.Accounts source turn roster opening' (front ++ w :: behind))
    (same : w.unit = v.unit) {id : String} (off : id ≠ v.unit.id) :
    r'.actions.find? id = r.actions.find? id ∧ r'.tables.find? id = r.tables.find? id := by
  have other : v.unit.id ≠ id := off.symm
  have replied : (front ++ w :: behind).findRev? (·.unit.id = id) =
      (front ++ v :: behind).findRev? (·.unit.id = id) :=
    findRev?_swap (by simp [other]) (by simp [same, other]) front behind
  have filled : (front ++ w :: behind).findRev? (fun u => u.unit.id = id ∧ u.entries turn ≠ []) =
      (front ++ v :: behind).findRev? (fun u => u.unit.id = id ∧ u.entries turn ≠ []) :=
    findRev?_swap (by simp [other]) (by simp [same, other]) front behind
  rw [h.actions, h'.actions, replied, h.tables, h'.tables, filled]
  exact ⟨rfl, rfl⟩

end TurnReport.Accounts

namespace Runner

/-- What becomes of one unit stays with it. Two robots that do the same at every place of the
roster but `k`, and leave the same state there, end the turn in the same state, and both are
answered or neither is. Their reports agree about every other unit, and the lines and inspections
of the other places are the same, in the same order. -/
theorem unit_isolated {robot robot' : Robot σ} {due : Bool} {b : Board} {turn turn' : EntryPoint σ}
    {opening opening' : Opening σ} {k : Nat} {unit : String}
    (entry : robot.entry? turnName = some turn) (entry' : robot'.entry? turnName = some turn')
    (source : robot'.source = robot.source)
    (opened : robot.opening? due b = some opening)
    (opened' : robot'.opening? due b = some opening') (same : opening'.state = opening.state)
    (consistent : b.Consistent) (placed : (b.roster b.team)[k]? = some unit)
    (alike : AlikeBut k turn turn' b opening.state
      (visits turn b opening.state (b.entitiesOf b.team))) :
    let vs := visits turn b opening.state (b.entitiesOf b.team)
    let step := (ready robot due).turn b
    let step' := (ready robot' due).turn b
    (∃ s, step.runner = .ready { robot with state := s } false ∧
      step'.runner = .ready { robot' with state := s } false) ∧
    ((∃ v ∈ vs, v.abandoned = true) → step.answer = none ∧ step'.answer = none) ∧
    ((∀ v ∈ vs, v.abandoned = false) → ∃ report report' v v',
      step.answer = some (.ok report) ∧ step'.answer = some (.ok report') ∧
      (∀ id, id ≠ unit → report'.actions.find? id = report.actions.find? id ∧
        report'.tables.find? id = report.tables.find? id) ∧
      vs[k]? = some v ∧ v' = turn'.visit b (foundAt opening.state vs k) v.unit ∧
      report.Splits turn opening.logs (vs.take k) v (vs.drop (k + 1)) ∧
      report'.Splits turn opening'.logs (vs.take k) v' (vs.drop (k + 1))) := by
  intro vs step step'
  let f := fun v : Visit σ => turn'.visit b (foundAt opening.state vs k) v.unit
  have swapped : visits turn' b opening.state (b.entitiesOf b.team) = vs.modify k f :=
    visits_alike alike
  obtain ⟨runner, stops, goes⟩ := opened_accounts entry opened consistent
  obtain ⟨runner', stops', goes'⟩ := opened_accounts entry' opened' consistent
  rw [same, swapped] at runner' stops' goes'
  have all_back (us : List (Visit σ)) :
      (∀ u ∈ us, u.abandoned = false) ↔ us.any (·.abandoned) = false := by simp
  refine ⟨⟨_, runner, ?_⟩, fun gone => ⟨stops gone, stops' ?_⟩, fun back => ?_⟩
  · rw [runner', alike.stateAfter_eq]
  · rwa [← List.any_eq_true, alike.any_abandoned, List.any_eq_true]
  · obtain ⟨ids, report, answer, accounts⟩ := goes back
    obtain ⟨-, report', answer', accounts'⟩ := goes' <| by
      rwa [all_back, alike.any_abandoned, ← all_back]
    obtain ⟨v, at_k, named⟩ : ∃ v, vs[k]? = some v ∧ v.unit.id = unit := by
      rwa [← ids, List.getElem?_map, Option.map_eq_some_iff] at placed
    obtain ⟨whole, replaced⟩ := modify_split at_k f
    replace accounts : report.Accounts robot.source turn (b.roster b.team) opening.logs
        (vs.take k ++ v :: vs.drop (k + 1)) := by rwa [← whole]
    replace accounts' : report'.Accounts robot.source turn (b.roster b.team) opening'.logs
        (vs.take k ++ f v :: vs.drop (k + 1)) := by
      rw [← replaced, ← source]
      exact alike.accounts accounts'
    exact ⟨report, report', v, f v, answer, answer',
      fun id off => accounts.agree accounts' rfl (named ▸ off), at_k, rfl,
      accounts.splits, accounts'.splits⟩

/-! ## A unit that goes astray -/

/-- A turn that numbers the calls in the tables of the units, and does as it likes with the
unit `a`. -/
def strayingTurn (stray : Act Nat (Option Action)) : EntryPoint Nat :=
  .turnWithDebug fun _ unit => do
    let n ← .getState
    .setState (n + 1)
    .log unit.id
    if unit.id = "a" then stray
    else
      .emit (.set "call" (toString n))
      return none

def straying (stray : Act Nat (Option Action)) : Robot Nat :=
  (Robot.blank 0).define turnName (strayingTurn stray)

/-- A board with two units. -/
def duo : Board where
  turn := 1
  team := .red
  red := ["a", "b"]
  blue := []
  entities := .ofList [("a", ⟨"a", ⟨0, 0⟩, .unit .red 5⟩), ("b", ⟨"b", ⟨1, 0⟩, .unit .red 5⟩)]
  grid := [[some "a", some "b"]]

theorem consistent_duo : duo.Consistent := (Board.error?_eq_none_iff duo).mp rfl

/-- A table is begun and the call panics. -/
def astray : Act Nat (Option Action) := do
  .emit (.set "lost" "yes")
  .panic none

/-- Both turns number the call of the second unit alike. -/
theorem alike_astray :
    AlikeBut 0 (strayingTurn (return none)) (strayingTurn astray) duo 0
      (visits (strayingTurn (return none)) duo 0 (duo.entitiesOf duo.team)) where
  line := rfl
  params := rfl
  elsewhere := by
    rintro (_ | _ | i) v other at_i
    · exact absurd rfl other
    · cases at_i
      rfl
    · cases at_i
  back := by
    rintro v ⟨⟩
    rfl
  here := by
    rintro v ⟨⟩
    exact ⟨rfl, rfl⟩

/-- The panic of the first unit changes nothing for the second one. -/
theorem unit_isolated_straying :
    let robot := straying (return none)
    let robot' := straying astray
    duo.Consistent ∧ (duo.roster duo.team)[0]? = some "a" ∧
    ∃ report report',
      ((ready robot false).turn duo).answer = some (.ok report) ∧
      ((ready robot' false).turn duo).answer = some (.ok report') ∧
      report'.actions.find? "b" = report.actions.find? "b" ∧
      report'.tables.find? "b" = report.tables.find? "b" ∧
      report.logs = ["a", "b"] ∧ report'.logs = ["a", "b"] := by
  have entry (stray : Act Nat (Option Action)) :
      Robot.entry? (straying stray) turnName = some (strayingTurn stray) := rfl
  have opened (stray : Act Nat (Option Action)) :
      (straying stray).opening? false duo = some { state := 0 } := rfl
  have source (stray : Act Nat (Option Action)) :
      (straying stray).source = Robot.defaultSource := rfl
  have placed : (duo.roster duo.team)[0]? = some "a" := rfl
  obtain ⟨-, -, answered⟩ := unit_isolated (entry (return none)) (entry astray)
    ((source _).trans (source _).symm) (opened _) (opened _) rfl consistent_duo placed alike_astray
  obtain ⟨report, report', v, v', answer, answer', agree, at_a, rfl, splits, splits'⟩ :=
    answered (by decide)
  cases at_a
  obtain ⟨actions, tables⟩ := agree "b" (by decide)
  exact ⟨consistent_duo, placed, report, report', answer, answer', actions, tables, splits.logs,
    splits'.logs⟩

end Runner
end RobotTurn
