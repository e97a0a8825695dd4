import RobotTurn.Proofs.Robot.Ledger
import RobotTurn.Proofs.Runner.Session

/-! What one turn comes to. The units of the roster are called one after the other, each call
finding the state that the one before it left (`visits`), and the report of the turn accounts
for every one of these calls (`Runner.play_accounts`). -/
namespace RobotTurn

variable {σ : Type}

/-- A call of the turn entry: the unit it was made for and what it came to. -/
structure Visit (σ : Type) where
  unit : Entity
  run : Run σ Value

namespace Visit

def call (b : Board) (v : Visit σ) : Call := ⟨EntryPoint.turnName, [.board b, .entity v.unit]⟩

def abandoned (v : Visit σ) : Bool :=
  match v.run.outcome with
  | .abandoned => true
  | _ => false

/-- The lines that a call logged, however it ended. -/
def logs (v : Visit σ) : List String := v.run.events.filterMap Event.line?

def printed (v : Visit σ) : String := String.join (v.run.events.filterMap Event.text?)

/-- What a call entered in its debug table. Without a debug handle it has none. -/
def entries (turn : EntryPoint σ) (v : Visit σ) : List (String × String) :=
  if turn.params = 3 then v.run.events.filterMap Event.entry? else []

/-- The ids that a call pointed at. -/
def inspections (turn : EntryPoint σ) (v : Visit σ) : List String :=
  if turn.params = 3 then v.run.events.filterMap Event.inspected? else []

/-- The first breach of the rules of the debug handle. -/
def breach (turn : EntryPoint σ) (v : Visit σ) : Option Failure :=
  if turn.params = 3 then v.run.events.findSome? Event.breach? else none

/-- The outcome of a call for its unit. An abandoned call has none. -/
def reply? (source : String) (turn : EntryPoint σ) (v : Visit σ) : Option ActionReply :=
  (EntryPoint.settle turn.line v.run.outcome).map fun result =>
    (EntryPoint.verdict turn.line (v.breach turn) result).mapError (·.report source)

theorem isNone_settle (line : Option UInt64) (v : Visit σ) :
    (EntryPoint.settle line v.run.outcome).isNone = v.abandoned := by
  rw [abandoned]
  cases v.run.outcome <;> rfl

theorem isSome_settle (line : Option UInt64) (v : Visit σ) :
    (EntryPoint.settle line v.run.outcome).isSome = !v.abandoned := by
  rw [← isNone_settle line, Option.not_isNone]

theorem isSome_reply? (source : String) (turn : EntryPoint σ) (v : Visit σ) :
    (v.reply? source turn).isSome = !v.abandoned := by
  rw [reply?, Option.isSome_map, isSome_settle]

end Visit

/-- The calls that a turn makes for its units. Each finds the state that the one before it
left, and none comes after an abandoned one. -/
def visits (turn : EntryPoint σ) (b : Board) : σ → List Entity → List (Visit σ)
  | _, [] => []
  | s, unit :: units =>
    let v : Visit σ := ⟨unit, turn.body [.board b, .entity unit] (turn.params = 3) s⟩
    v :: if v.abandoned then [] else visits turn b v.run.state units

/-- The state that the calls leave. -/
def stateAfter (s : σ) (vs : List (Visit σ)) : σ :=
  vs.foldl (fun _ v => v.run.state) s

/-- Units are visited in order, and all of them unless a call is abandoned. -/
theorem map_unit_visits (turn : EntryPoint σ) (b : Board) (s : σ) (units : List Entity)
    (h : (visits turn b s units).any (·.abandoned) = false) :
    (visits turn b s units).map (·.unit) = units := by
  induction units generalizing s with
  | nil => rfl
  | cons unit units ih =>
    simp only [visits, List.any_cons, Bool.or_eq_false_iff] at h ⊢
    obtain ⟨here, later⟩ := h
    rw [here] at later ⊢
    simpa using ih _ later

namespace Runner.Progress

/-- A turn under way after one more call for a unit. -/
def absorb (source : String) (turn : EntryPoint σ) (b : Board) (p : Progress σ) (v : Visit σ) :
    Progress σ :=
  let q : Progress σ := {
    state := v.run.state
    report := { p.report with
      logs := p.report.logs ++ v.logs
      inspections := p.report.inspections ++ v.inspections turn }
    calls := p.calls ++ [v.call b]
    printed := p.printed ++ v.printed
    abandoned := v.abandoned }
  match v.reply? source turn with
  | none => q
  | some reply => q.enter v.unit.id reply (Dict.ofList (v.entries turn))

variable {source : String} {turn : EntryPoint σ} {b : Board}

theorem visit_eq_absorb {p : Progress σ} (going : p.abandoned = false) {id : String}
    {unit : Entity} (found : b.entity? id = some unit) (filed : unit.id = id) :
    p.visit source turn b id = p.absorb source turn b
      ⟨unit, turn.body [.board b, .entity unit] (turn.params = 3) p.state⟩ := by
  rw [visit, going, found]
  simp only [Bool.false_eq_true, ↓reduceIte, call, Ledger.ofEvents_eq, decide_eq_true_eq, absorb,
    Visit.reply?, ← Visit.isNone_settle turn.line, Visit.logs, Visit.inspections, Visit.call,
    Visit.printed, Visit.entries, Visit.breach]
  cases EntryPoint.settle turn.line _ with
  | none => rfl
  | some result =>
    simp only [Option.map_some, filed]
    by_cases debug : turn.params = 3
    · simp only [debug, ↓reduceIte]
    · simp only [debug, ↓reduceIte]
      rfl

theorem visit_of_abandoned {p : Progress σ} (h : p.abandoned = true) (id : String) :
    p.visit source turn b id = p := by
  rw [visit, h]
  rfl

theorem abandoned_absorb (p : Progress σ) (v : Visit σ) :
    (p.absorb source turn b v).abandoned = v.abandoned := by
  rw [absorb]
  split <;> rfl

theorem state_absorb (p : Progress σ) (v : Visit σ) :
    (p.absorb source turn b v).state = v.run.state := by
  rw [absorb]
  split <;> rfl

theorem calls_absorb (p : Progress σ) (v : Visit σ) :
    (p.absorb source turn b v).calls = p.calls ++ [v.call b] := by
  rw [absorb]
  split <;> rfl

theorem logs_absorb (p : Progress σ) (v : Visit σ) :
    (p.absorb source turn b v).report.logs = p.report.logs ++ v.logs := by
  rw [absorb]
  split <;> rfl

theorem inspections_absorb (p : Progress σ) (v : Visit σ) :
    (p.absorb source turn b v).report.inspections =
      p.report.inspections ++ v.inspections turn := by
  rw [absorb]
  split <;> rfl

theorem find?_actions_absorb (id : String) (p : Progress σ) (v : Visit σ) :
    (p.absorb source turn b v).report.actions.find? id =
      (if v.unit.id = id then v.reply? source turn else none).or (p.report.actions.find? id) := by
  rw [absorb]
  cases v.reply? source turn with
  | none => simp
  | some reply =>
    by_cases here : v.unit.id = id
    · simp [enter, here]
    · simp [enter, here, Ne.symm here]

theorem find?_tables_absorb (id : String) (p : Progress σ) {v : Visit σ}
    (done : v.abandoned = false) :
    (p.absorb source turn b v).report.tables.find? id =
      (if v.unit.id = id ∧ v.entries turn ≠ [] then some (Dict.ofList (v.entries turn))
        else none).or (p.report.tables.find? id) := by
  obtain ⟨reply, given⟩ : ∃ reply, v.reply? source turn = some reply := by
    rw [← Option.isSome_iff_exists, Visit.isSome_reply?, done]
    rfl
  rw [absorb, given]
  by_cases none : v.entries turn = []
  · simp [enter, none, Dict.isEmpty_ofList]
  · by_cases here : v.unit.id = id
    · simp [enter, none, here, Dict.isEmpty_ofList]
    · simp [enter, none, here, Ne.symm here, Dict.isEmpty_ofList]

theorem visitAll_of_abandoned {p : Progress σ} (h : p.abandoned = true) (ids : List String) :
    p.visitAll source turn b ids = p := by
  induction ids with
  | nil => rfl
  | cons id ids ih =>
    rw [visitAll, List.foldl_cons, visit_of_abandoned h]
    exact ih

/-- A turn over a roster of known units comes to its visits, one after the other. -/
theorem visitAll_eq {p : Progress σ} (going : p.abandoned = false) {ids : List String}
    (known : ∀ id ∈ ids, ∃ unit, b.entity? id = some unit ∧ unit.id = id) :
    p.visitAll source turn b ids =
      (visits turn b p.state (ids.filterMap b.entity?)).foldl (absorb source turn b) p := by
  induction ids generalizing p with
  | nil => rfl
  | cons id ids ih =>
    obtain ⟨unit, found, filed⟩ := known id List.mem_cons_self
    have later := fun other h => known other (List.mem_cons_of_mem _ h)
    rw [visitAll, List.foldl_cons, visit_eq_absorb going found filed,
      List.filterMap_cons_some found, visits, List.foldl_cons]
    split
    · next stopped =>
      exact visitAll_of_abandoned (abandoned_absorb _ _ ▸ stopped) ids
    · next goes =>
      have going : (p.absorb source turn b
          ⟨unit, turn.body [.board b, .entity unit] (turn.params = 3) p.state⟩).abandoned =
          false := by
        simpa [abandoned_absorb] using goes
      have rest := ih going later
      rwa [state_absorb] at rest

/-- A turn is abandoned exactly if one of its calls is. -/
theorem abandoned_visits {p : Progress σ} (going : p.abandoned = false) (s : σ)
    (units : List Entity) :
    ((visits turn b s units).foldl (absorb source turn b) p).abandoned =
      (visits turn b s units).any (·.abandoned) := by
  induction units generalizing s p with
  | nil => exact going
  | cons unit units ih =>
    rw [visits, List.foldl_cons, List.any_cons]
    split
    · next stopped => simp [abandoned_absorb, stopped]
    · next goes =>
      rw [ih (by simpa [abandoned_absorb] using goes), Bool.eq_false_iff.mpr goes, Bool.false_or]

theorem state_visits (p : Progress σ) (vs : List (Visit σ)) :
    (vs.foldl (absorb source turn b) p).state = stateAfter p.state vs := by
  induction vs generalizing p with
  | nil => rfl
  | cons v vs ih =>
    rw [List.foldl_cons, ih, state_absorb]
    rfl

theorem calls_visits (p : Progress σ) (vs : List (Visit σ)) :
    (vs.foldl (absorb source turn b) p).calls = p.calls ++ vs.map (·.call b) := by
  rw [Dict.foldl_gather Progress.calls calls_absorb, List.map_eq_flatMap]

end Runner.Progress

/-- What a turn does before it calls its units. -/
structure Opening (σ : Type) where
  calls : List Call := []
  logs : List String := []
  printed : String := ""
  state : σ

/-- The opening of a turn: the call of `init`, if it is due and there is one. It comes to
nothing unless that call returns. -/
def Robot.opening? (robot : Robot σ) (due : Bool) (b : Board) : Option (Opening σ) :=
  match robot.entry? EntryPoint.initName with
  | none => some { state := robot.state }
  | some init =>
    if due then
      let run := init.body [.board b] false robot.state
      match run.outcome with
      | .returned _ => some {
          calls := [⟨EntryPoint.initName, [.board b]⟩]
          logs := run.events.filterMap Event.line?
          printed := String.join (run.events.filterMap Event.text?)
          state := run.state }
      | _ => none
    else some { state := robot.state }

/-- A report with all that the calls of a turn leave: it has an outcome for each place on the roster,
no line or inspection of any call is missing, and each unit has the table of the last call that
filled one. -/
structure TurnReport.Gathers (r : TurnReport) (turn : EntryPoint σ) (roster opening : List String)
    (vs : List (Visit σ)) : Prop where
  keys : ∀ id, id ∈ r.actions.keys ↔ id ∈ roster
  logs : r.logs = opening ++ vs.flatMap (·.logs)
  inspections : r.inspections = vs.flatMap (·.inspections turn)
  tables : ∀ id, r.tables.find? id =
    (vs.findRev? fun v => v.unit.id = id ∧ v.entries turn ≠ []).map fun v =>
      Dict.ofList (v.entries turn)
  filled : ∀ id table, r.tables.find? id = some table → table.isEmpty = false

/-- A report that accounts for the calls of a turn: each unit has the outcome of its last call. -/
structure TurnReport.Accounts (r : TurnReport) (source : String) (turn : EntryPoint σ)
    (roster opening : List String) (vs : List (Visit σ)) : Prop
    extends r.Gathers turn roster opening vs where
  actions : ∀ id,
    r.actions.find? id = (vs.findRev? (·.unit.id = id)).bind (·.reply? source turn)

namespace Runner

open Progress

theorem mem_of_findRev? {α : Type} {p : α → Bool} {l : List α} {a : α}
    (last : l.findRev? p = some a) : a ∈ l := by
  rw [List.findRev?_eq_find?_reverse] at last
  exact List.mem_reverse.mp (List.mem_of_find?_eq_some last)

/-- Visits that have all come back are accounted for by the report they lead to. -/
theorem accounts_visits {source : String} {turn : EntryPoint σ} {b : Board} {p : Progress σ}
    {opening : List String} {vs : List (Visit σ)} (fresh : p.report = { logs := opening })
    (back : ∀ v ∈ vs, v.abandoned = false) :
    (vs.foldl (absorb source turn b) p).report.Accounts source turn (vs.map (·.unit.id))
      opening vs := by
  have replied (v : Visit σ) (h : v ∈ vs.reverse) : (v.reply? source turn).isSome := by
    rw [Visit.isSome_reply?, back v (List.mem_reverse.mp h)]
    rfl
  have actions (id : String) :
      (vs.foldl (absorb source turn b) p).report.actions.find? id =
        (vs.findRev? (·.unit.id = id)).bind (·.reply? source turn) := by
    have last := Dict.foldl_last (absorb source turn b)
      (fun q : Progress σ => q.report.actions.find? id)
      (fun v => if v.unit.id = id then v.reply? source turn else none)
      (fun q v (_ : v ∈ vs) => find?_actions_absorb id q v) p
    rw [Dict.findSome?_ite replied] at last
    simpa [fresh] using last
  have tables (id : String) :
      (vs.foldl (absorb source turn b) p).report.tables.find? id =
        (vs.findRev? fun v => v.unit.id = id ∧ v.entries turn ≠ []).map fun v =>
          Dict.ofList (v.entries turn) := by
    have last := Dict.foldl_last (absorb source turn b)
      (fun q : Progress σ => q.report.tables.find? id)
      (fun v => if v.unit.id = id ∧ v.entries turn ≠ [] then some (Dict.ofList (v.entries turn))
        else none) (fun q v h => find?_tables_absorb id q (back v h)) p
    rw [Dict.findSome?_ite fun _ _ => rfl] at last
    simpa [fresh, Option.map_eq_bind, Function.comp_def] using last
  refine ⟨⟨fun id => ?_, ?_, ?_, tables, fun id table given => ?_⟩, actions⟩
  · rw [Dict.mem_keys_iff, actions, List.findRev?_eq_find?_reverse]
    constructor
    · intro given
      obtain ⟨reply, given⟩ := Option.isSome_iff_exists.mp given
      obtain ⟨v, found, -⟩ := Option.bind_eq_some_iff.mp given
      have named := List.find?_some found
      simp only [decide_eq_true_eq] at named
      exact List.mem_map.mpr ⟨v, List.mem_reverse.mp (List.mem_of_find?_eq_some found), named⟩
    · intro listed
      obtain ⟨w, mem, named⟩ := List.mem_map.mp listed
      have some : (vs.reverse.find? (·.unit.id = id)).isSome := by
        rw [List.find?_isSome]
        exact ⟨w, List.mem_reverse.mpr mem, by simp [named]⟩
      obtain ⟨v, found⟩ := Option.isSome_iff_exists.mp some
      rw [found, Option.bind_some]
      exact replied v (List.mem_of_find?_eq_some found)
  · rw [Dict.foldl_gather (fun q : Progress σ => q.report.logs) logs_absorb, fresh]
  · rw [Dict.foldl_gather (fun q : Progress σ => q.report.inspections) inspections_absorb, fresh]
    rfl
  · rw [tables, List.findRev?_eq_find?_reverse] at given
    obtain ⟨v, found, rfl⟩ := Option.map_eq_some_iff.mp given
    have filled := List.find?_some found
    simp only [decide_eq_true_eq] at filled
    simpa [Dict.isEmpty_ofList] using filled.2

/-- A turn whose opening is done goes on with its units. -/
theorem turn_eq_play {robot : Robot σ} {due : Bool} {b : Board} {opening : Opening σ}
    (opened : robot.opening? due b = some opening) :
    (ready robot due).turn b = play robot b {
      state := opening.state, report := { logs := opening.logs }
      calls := opening.calls, printed := opening.printed } := by
  cases entry : robot.entry? EntryPoint.initName with
  | none =>
    simp only [Robot.opening?, entry, Option.some.injEq] at opened
    cases due <;> simp [turn, start, entry, ← opened]
  | some init =>
    simp only [Robot.opening?, entry] at opened
    cases due with
    | false => cases opened; rfl
    | true =>
      simp only [turn, start, entry, Progress.call]
      cases outcome : (init.body [.board b] false robot.state).outcome with
      | returned v =>
        simp only [outcome, ↓reduceIte, Option.some.injEq] at opened
        simp [EntryPoint.settle, Ledger.ofEvents_eq, ← opened]
      | _ => simp [outcome] at opened

theorem start_none {robot : Robot σ} (none : robot.entry? EntryPoint.initName = none)
    (b : Board) : start robot b = play robot b { state := robot.state } := by
  rw [start, none]

/-- The turn in which `init` is due calls it first, and goes on only if it returns. -/
theorem start_cases {robot : Robot σ} {init : EntryPoint σ}
    (entry : robot.entry? EntryPoint.initName = some init) (b : Board) :
    let run := init.body [.board b] false robot.state
    let result := EntryPoint.settle init.line run.outcome
    let calls := [⟨EntryPoint.initName, [.board b]⟩]
    (result = none ∧ (start robot b).calls = calls ∧ (start robot b).answer = none ∧
      (start robot b).runner = .ready { robot with state := run.state } true) ∨
    (∃ f e, result = some (.error f) ∧ e = SessionError.initFailed (f.report robot.source) ∧
      (start robot b).calls = calls ∧ (start robot b).answer = some (.error e) ∧
      (start robot b).runner = .failed e) ∨
    ∃ v logs p, result = some (.ok v) ∧ start robot b = play robot b p ∧ p.calls = calls ∧
      p.state = run.state ∧ p.report = { logs } ∧ p.abandoned = false := by
  intro run result calls
  let p : Progress σ := {
    state := run.state
    report := { logs := run.events.filterMap Event.line? }
    calls
    printed := String.join (run.events.filterMap Event.text?)
    abandoned := result.isNone }
  have called : Progress.call { state := robot.state } EntryPoint.initName init false [.board b] =
      (p, Ledger.ofEvents false run.events, result) := by
    simp [Progress.call, Ledger.ofEvents_eq, run, result, calls, p]
  cases came : result with
  | none =>
    have begun : start robot b = p.finish robot true := by
      rw [start, entry]
      simp only [called, came]
    rw [begun]
    refine .inl ⟨rfl, rfl, ?_, rfl⟩
    simp [finish, p, came]
  | some ended =>
    cases ended with
    | error f =>
      let e := SessionError.initFailed (f.report robot.source)
      have failed : start robot b = {
          answer := some (.error e), calls, printed := p.printed, runner := .failed e } := by
        rw [start, entry]
        simp only [called, came, p, e]
      rw [failed]
      exact .inr (.inl ⟨f, e, rfl, rfl, rfl, rfl, rfl⟩)
    | ok v =>
      refine .inr (.inr ⟨v, _, p, rfl, ?_, rfl, rfl, rfl, by simp [p, came]⟩)
      rw [start, entry]
      simp only [called, came]

theorem entry?_turn {robot : Robot σ} (sound : robot.fault? = none) :
    ∃ turn, robot.entry? EntryPoint.turnName = some turn := by
  rw [Robot.fault?] at sound
  cases entry : robot.entry? EntryPoint.turnName with
  | none => rw [entry] at sound; cases sound
  | some turn => exact ⟨turn, rfl⟩

/-- No place on a roster is skipped. -/
theorem roster_eq {b : Board} (consistent : b.Consistent) {t : Team} :
    (b.entitiesOf t).map (·.id) = b.roster t := by
  have each (ids : List String) (known : ∀ id ∈ ids, ∃ unit, b.entity? id = some unit) :
      (ids.filterMap b.entity?).map (·.id) = ids := by
    induction ids with
    | nil => rfl
    | cons id ids ih =>
      obtain ⟨unit, found⟩ := known id List.mem_cons_self
      rw [List.filterMap_cons_some found, List.map_cons, consistent.id_eq found,
        ih fun other h => known other (List.mem_cons_of_mem _ h)]
  refine each (b.roster t) fun id h => ?_
  obtain ⟨unit, found, -⟩ := consistent.rostered t id h
  exact ⟨unit, found⟩

/-- Once its opening is done, a turn calls the entry once for every place on the roster, in
order, with the unit of that place. -/
theorem play_accounts {robot : Robot σ} {turn : EntryPoint σ} {b : Board} {p : Progress σ}
    {opening : List String} (entry : robot.entry? EntryPoint.turnName = some turn)
    (consistent : b.Consistent) (fresh : p.report = { logs := opening })
    (going : p.abandoned = false) :
    let vs := visits turn b p.state (b.entitiesOf b.team)
    let step := play robot b p
    step.calls = p.calls ++ vs.map (·.call b) ∧
    step.runner = .ready { robot with state := stateAfter p.state vs } false ∧
    ((∃ v ∈ vs, v.abandoned = true) → step.answer = none) ∧
    ((∀ v ∈ vs, v.abandoned = false) →
      vs.map (·.unit.id) = b.roster b.team ∧
      (∀ v ∈ vs, b.entity? v.unit.id = some v.unit) ∧
      ∃ report, step.answer = some (.ok report) ∧
        report.Accounts robot.source turn (b.roster b.team) opening vs) := by
  intro vs step
  have known (id : String) (h : id ∈ b.roster b.team) :
      ∃ unit, b.entity? id = some unit ∧ unit.id = id := by
    obtain ⟨unit, found, -⟩ := consistent.rostered b.team id h
    exact ⟨unit, found, consistent.id_eq found⟩
  have played : step = (vs.foldl (absorb robot.source turn b) p).finish robot false := by
    simp only [step, play, entry]
    rw [visitAll_eq going known]
    rfl
  have stops : (vs.foldl (absorb robot.source turn b) p).abandoned = vs.any (·.abandoned) :=
    abandoned_visits going _ _
  rw [played]
  refine ⟨calls_visits _ _, ?_, ?_, ?_⟩
  · rw [finish, state_visits]
  · rintro ⟨v, mem, gone⟩
    have abandoned : vs.any (·.abandoned) = true := List.any_eq_true.mpr ⟨v, mem, gone⟩
    rw [finish, stops, if_pos abandoned]
  · intro back
    have finished : vs.any (·.abandoned) = false := by simpa using back
    have units : vs.map (·.unit) = b.entitiesOf b.team := map_unit_visits turn b _ _ finished
    have ids : vs.map (·.unit.id) = b.roster b.team := by
      rw [← roster_eq consistent, ← units, List.map_map]
      rfl
    refine ⟨ids, ?_, (vs.foldl (absorb robot.source turn b) p).report, ?_, ?_⟩
    · intro v mem
      have listed : v.unit ∈ b.entitiesOf b.team := units ▸ List.mem_map_of_mem mem
      obtain ⟨id, -, found⟩ := List.mem_filterMap.mp listed
      rwa [consistent.id_eq found]
    · rw [finish, stops, finished]
      rfl
    · rw [← ids]
      exact accounts_visits fresh back

/-- A turn whose opening is done comes to its visits from there on. -/
theorem opened_accounts {robot : Robot σ} {due : Bool} {b : Board} {turn : EntryPoint σ}
    {opening : Opening σ} (entry : robot.entry? EntryPoint.turnName = some turn)
    (opened : robot.opening? due b = some opening) (consistent : b.Consistent) :
    let vs := visits turn b opening.state (b.entitiesOf b.team)
    let step := (ready robot due).turn b
    step.runner = .ready { robot with state := stateAfter opening.state vs } false ∧
    ((∃ v ∈ vs, v.abandoned = true) → step.answer = none) ∧
    ((∀ v ∈ vs, v.abandoned = false) →
      vs.map (·.unit.id) = b.roster b.team ∧
      ∃ report, step.answer = some (.ok report) ∧
        report.Accounts robot.source turn (b.roster b.team) opening.logs vs) := by
  intro vs step
  obtain ⟨-, runner, stops, goes⟩ := play_accounts (p := {
    state := opening.state, report := { logs := opening.logs }
    calls := opening.calls, printed := opening.printed }) entry consistent rfl rfl
  rw [← turn_eq_play opened] at runner stops goes
  exact ⟨runner, stops, fun back => ⟨(goes back).1, (goes back).2.2⟩⟩

/-- The turn of a checked robot on a consistent board is answered unless one of its calls is
abandoned, and then by a report that accounts for all of them and for the opening. -/
theorem turn_accounts {robot : Robot σ} {due : Bool} {b : Board} {opening : Opening σ}
    (sound : robot.fault? = none) (consistent : b.Consistent)
    (opened : robot.opening? due b = some opening) :
    ∃ turn, robot.entry? EntryPoint.turnName = some turn ∧
      let vs := visits turn b opening.state (b.entitiesOf b.team)
      let step := (ready robot due).turn b
      step.calls = opening.calls ++ vs.map (·.call b) ∧
      step.runner = .ready { robot with state := stateAfter opening.state vs } false ∧
      ((∃ v ∈ vs, v.abandoned = true) → step.answer = none) ∧
      ((∀ v ∈ vs, v.abandoned = false) →
        vs.map (·.unit.id) = b.roster b.team ∧
        (∀ v ∈ vs, b.entity? v.unit.id = some v.unit) ∧
        ∃ report, step.answer = some (.ok report) ∧
          report.Accounts robot.source turn (b.roster b.team) opening.logs vs) := by
  obtain ⟨turn, entry⟩ := entry?_turn sound
  refine ⟨turn, entry, ?_⟩
  rw [turn_eq_play opened]
  exact play_accounts entry consistent rfl rfl

/-! ## A robot at work -/

/-- A robot that numbers its calls. -/
def tally : Robot Nat :=
  (Robot.blank 0)
    |>.define EntryPoint.initName (.init fun _ => .log "start")
    |>.define EntryPoint.turnName (.turnWithDebug fun _ unit => do
      let n ← .getState
      .setState (n + 1)
      .log unit.id
      .emit (.set "call" (toString n))
      return none)

/-- A board with one unit that is listed twice. -/
def lone : Board where
  turn := 1
  team := .red
  red := ["a", "a"]
  blue := []
  entities := .ofList [("a", ⟨"a", ⟨0, 0⟩, .unit .red 5⟩)]
  grid := [[some "a"]]

theorem consistent_lone : lone.Consistent := (Board.error?_eq_none_iff lone).mp rfl

end Runner
end RobotTurn
