import Mathlib.Data.List.Basic
import Mathlib.Data.List.Find
import RobotTurn.Proofs.Runner.Verdict

/-! The debug handle. An operation with an argument of the wrong kind gives an error; robot code may
drop it or end with it. Either way the first such breach is the verdict on the unit, however its
call ends, while the table, the lines and the inspections are those of the valid operations, from
before and from after the breach (`breach_decides_unit`). A call is seen as a list of deeds: code
that does them one by one is (`follows_perform`), and all other code can be (`follows_dropping`). -/
namespace RobotTurn

open EntryPoint (turnName)

variable {σ : Type}

namespace Event

/-- A breach leaves nothing. -/
theorem nothing_of_breach {e : Event} {f : Failure} (breach : e.breach? = some f) :
    e.line? = none ∧ e.entry? = none ∧ e.inspected? = none := by
  cases breach?_eq_some_iff.mp breach with
  | @key key value other =>
    cases key with
    | text s => exact absurd rfl (other s)
    | _ => exact ⟨rfl, rfl, rfl⟩
  | @target v other =>
    cases v with
    | entity e => exact absurd rfl (other e)
    | _ => exact ⟨rfl, rfl, rfl⟩

end Event

/-- An operation of robot code. The error that it may give is dropped or ends the call. -/
structure Deed where
  event : Event
  drops : Bool

namespace Deed

/-- The error that a deed ends its call with. -/
def end? (d : Deed) : Option Failure := if d.drops then none else d.event.breach?

/-- The code that does it. -/
def act (d : Deed) : Act σ Unit :=
  if d.drops then discard (Act.attempt (.emit d.event)) else .emit d.event

/-- One deed after the other, and then the end of the call. -/
def perform (ending : Outcome Value) : List Deed → Act σ Value
  | [] => fun _ s => { outcome := ending, state := s }
  | d :: ds => do
    d.act
    perform ending ds

/-- What comes to be done: nothing after an error that is not dropped. -/
def done : List Deed → List Event
  | [] => []
  | d :: ds => d.event :: if d.end?.isSome then [] else done ds

/-- How the call ends. -/
def fate (ending : Outcome Value) : List Deed → Outcome Value
  | [] => ending
  | d :: ds =>
    match d.end? with
    | some f => .failed f
    | none => fate ending ds

/-- The deeds that are done and are no breach. -/
def valid (ds : List Deed) : List Event := (done ds).filter (·.breach?.isNone)

/-- The first breach among some deeds. -/
def FirstBreach (ds : List Deed) (f : Failure) : Prop :=
  ∃ before d after, ds = before ++ d :: after ∧ d.event.Breach f ∧
    ∀ x ∈ before, ∀ g, ¬ x.event.Breach g

end Deed

/-- A call that does these deeds and ends like this unless an error ends it. -/
structure Run.Follows (run : Run σ Value) (ds : List Deed) (ending : Outcome Value) : Prop where
  events : run.events = Deed.done ds
  outcome : run.outcome = Deed.fate ending ds

namespace Deed

variable {ending : Outcome Value} {ds : List Deed}

theorem run_act (d : Deed) (debug : Bool) (s : σ) : d.act debug s = {
    events := [d.event]
    outcome := match d.end? with
      | some f => .failed f
      | none => .returned ()
    state := s } := by
  obtain ⟨event, drops⟩ := d
  cases drops with
  | true =>
    cases breach : event.breach? <;>
      simp [act, end?, discard, Functor.discard, Functor.mapConst, Act.bind, Act.pure,
        Act.attempt, Act.emit, breach]
  | false =>
    cases breach : event.breach? <;> simp [act, end?, Act.emit, breach]

/-- The code of some deeds does them. -/
theorem follows_perform (ending : Outcome Value) (ds : List Deed) (debug : Bool) (s : σ) :
    (perform ending ds debug s).Follows ds ending := by
  induction ds with
  | nil => exact ⟨rfl, rfl⟩
  | cons d ds ih =>
    have step : perform ending (d :: ds) debug s =
        Act.bind d.act (fun _ => perform ending ds) debug s := rfl
    rw [step, Act.bind, run_act]
    cases stops : d.end? with
    | some f => exact ⟨by simp [done, stops], by simp [fate, stops]⟩
    | none =>
      constructor
      · simp [done, stops, ih.events]
      · simp [fate, stops, ih.outcome]

/-- Any code can be taken to drop its errors and to end as it likes. -/
theorem follows_dropping (run : Run σ Value) :
    run.Follows (run.events.map fun e => ⟨e, true⟩) run.outcome := by
  constructor
  · induction run.events with
    | nil => rfl
    | cons e es ih => exact congrArg (e :: ·) ih
  · induction run.events with
    | nil => rfl
    | cons e es ih => exact ih

/-- An error that ends a call is a breach, so the first breach always comes to be done. -/
theorem findSome?_done (ds : List Deed) :
    (done ds).findSome? Event.breach? = ds.findSome? (·.event.breach?) := by
  induction ds with
  | nil => rfl
  | cons d ds ih =>
    rw [done, List.findSome?_cons, List.findSome?_cons]
    cases breach : d.event.breach? with
    | some f => rfl
    | none =>
      have goes : d.end? = none := by simp [end?, breach]
      simp only [goes, Option.isSome_none, Bool.false_eq_true, ↓reduceIte, ih]

theorem firstBreach_iff {f : Failure} :
    FirstBreach ds f ↔ ds.findSome? (·.event.breach?) = some f := by
  simp only [List.findSome?_eq_some_iff, FirstBreach, ← Event.breach?_eq_some_iff,
    Option.eq_none_iff_forall_ne_some, ne_eq]

/-- Without a breach nothing ends the call before its end. -/
theorem fate_of_sound (sound : ds.findSome? (·.event.breach?) = none) :
    fate ending ds = ending := by
  induction ds with
  | nil => rfl
  | cons d ds ih =>
    rw [List.findSome?_cons] at sound
    cases breach : d.event.breach? with
    | some f =>
      rw [breach] at sound
      cases sound
    | none =>
      rw [breach] at sound
      have goes : d.end? = none := by simp [end?, breach]
      rw [fate, goes]
      exact ih sound

/-- What breaches do not leave is left by the valid deeds. -/
theorem filterMap_done {α : Type} {look : Event → Option α}
    (nothing : ∀ e f, e.breach? = some f → look e = none) (ds : List Deed) :
    (done ds).filterMap look = (valid ds).filterMap look := by
  rw [valid, List.filterMap_filter]
  refine List.filterMap_congr fun e _ => ?_
  cases breach : e.breach? with
  | none => rfl
  | some f => exact nothing e f breach

/-- The lines that the valid deeds log. -/
def lines (ds : List Deed) : List String := (valid ds).filterMap Event.line?

/-- The ids that the valid deeds point at. -/
def inspected (ds : List Deed) : List String := (valid ds).filterMap Event.inspected?

/-- The entries that the valid deeds write to the table. -/
def written (ds : List Deed) : List (String × String) := (valid ds).filterMap Event.entry?

end Deed

/-- The first breach of a call is the first among its deeds. -/
theorem Run.Follows.firstBreach_iff {run : Run σ Value} {ds : List Deed} {ending : Outcome Value}
    (follows : run.Follows ds ending) {f : Failure} :
    Event.FirstBreach run.events f ↔ Deed.FirstBreach ds f := by
  rw [Event.firstBreach_iff, follows.events, Deed.findSome?_done, Deed.firstBreach_iff]

namespace Visit

variable {turn : EntryPoint σ} {v : Visit σ} {ds : List Deed} {ending : Outcome Value}

theorem logs_of_follows (follows : v.run.Follows ds ending) : v.logs = Deed.lines ds := by
  rw [logs, follows.events]
  exact Deed.filterMap_done (fun _ _ breach => (Event.nothing_of_breach breach).1) ds

theorem entries_of_follows (debug : turn.params = 3) (follows : v.run.Follows ds ending) :
    v.entries turn = Deed.written ds := by
  rw [entries, if_pos debug, follows.events]
  exact Deed.filterMap_done (fun _ _ breach => (Event.nothing_of_breach breach).2.1) ds

theorem inspections_of_follows (debug : turn.params = 3) (follows : v.run.Follows ds ending) :
    v.inspections turn = Deed.inspected ds := by
  rw [inspections, if_pos debug, follows.events]
  exact Deed.filterMap_done (fun _ _ breach => (Event.nothing_of_breach breach).2.2) ds

theorem run_of_mem_visits {b : Board} {units : List Entity} {s : σ}
    (mem : v ∈ visits turn b s units) :
    ∃ s, v.run = turn.body [.board b, .entity v.unit] (turn.params = 3) s := by
  induction units generalizing s with
  | nil => cases mem
  | cons unit units ih =>
    rw [visits] at mem
    rcases List.mem_cons.mp mem with rfl | later
    · exact ⟨s, rfl⟩
    · split at later
      · cases later
      · exact ih later

/-- Without a breach the call itself decides. -/
theorem told_iff_of_sound_deeds (follows : v.run.Follows ds ending)
    (sound : ∀ f, ¬ Deed.FirstBreach ds f) {source : String} {reply : ActionReply} :
    v.Told source turn reply ↔ ending.Told source turn.line reply := by
  have none : ds.findSome? (·.event.breach?) = none := by
    simpa only [Deed.firstBreach_iff, Option.eq_none_iff_forall_ne_some] using sound
  have ends : v.run.outcome = ending := follows.outcome.trans (Deed.fate_of_sound none)
  have silent (f : Failure) : ¬ Event.FirstBreach v.run.events f := fun first =>
    sound f (follows.firstBreach_iff.mp first)
  rw [← ends]
  constructor
  · rintro (⟨-, -, first⟩ | ⟨-, told⟩)
    · exact absurd first (silent _)
    · exact told
  · exact .ended fun _ => silent

end Visit

namespace Runner

open Deed

/-- The tables are those that the valid deeds of the calls write. -/
theorem accounts_tables {r : TurnReport} {source : String} {turn : EntryPoint σ}
    {roster opening : List String} {vs : List (Visit σ)} {deeds : Visit σ → List Deed}
    {ending : Visit σ → Outcome Value} (debug : turn.params = 3)
    (accounts : r.Accounts source turn roster opening vs)
    (follows : ∀ v ∈ vs, v.run.Follows (deeds v) (ending v)) (id : String) :
    r.tables.find? id = (vs.findRev? fun v => v.unit.id = id ∧ written (deeds v) ≠ []).map
      fun v => Dict.ofList (written (deeds v)) := by
  have entries (v : Visit σ) (mem : v ∈ vs) : v.entries turn = written (deeds v) :=
    Visit.entries_of_follows debug (follows v mem)
  have same : (vs.findRev? fun v => v.unit.id = id ∧ v.entries turn ≠ []) =
      vs.findRev? fun v => v.unit.id = id ∧ written (deeds v) ≠ [] := by
    rw [List.findRev?_eq_find?_reverse, List.findRev?_eq_find?_reverse]
    refine List.find?_congr fun v mem => ?_
    rw [entries v (List.mem_reverse.mp mem)]
  rw [accounts.tables, same]
  refine Option.map_congr fun v last => ?_
  rw [entries v (mem_of_findRev? last)]

/-- Calls with a debug handle, each of which does some deeds and comes back in some way. The first
breach among the deeds of a unit's last call is told as its failure, at its own line or else at that
of the entry; without one the unit is told how that call ended. Lines, inspections and tables are
those of the valid deeds that came to be done, a table is that of the unit's last call that wrote
one, and what was last written under a key stays. -/
theorem breach_decides_unit {robot : Robot σ} {due : Bool} {b : Board} {turn : EntryPoint σ}
    {opening : Opening σ} {deeds : Visit σ → List Deed} {ending : Visit σ → Outcome Value}
    (entry : robot.entry? turnName = some turn) (debug : turn.params = 3)
    (opened : robot.opening? due b = some opening) (consistent : b.Consistent) :
    let vs := visits turn b opening.state (b.entitiesOf b.team)
    (∀ v ∈ vs, v.abandoned = false) → (∀ v ∈ vs, v.run.Follows (deeds v) (ending v)) →
    ∃ report, ((ready robot due).turn b).answer = some (.ok report) ∧
      (∀ id v, vs.findRev? (·.unit.id = id) = some v →
        (∀ f, FirstBreach (deeds v) f → report.actions.find? id =
          some (.error ((f.located turn.line).report robot.source))) ∧
        ((∀ f, ¬ FirstBreach (deeds v) f) → ∃ reply,
          (ending v).Told robot.source turn.line reply ∧ report.actions.find? id = some reply)) ∧
      report.logs = opening.logs ++ vs.flatMap (fun v => lines (deeds v)) ∧
      report.inspections = vs.flatMap (fun v => inspected (deeds v)) ∧
      ∀ id, match vs.findRev? fun v => v.unit.id = id ∧ written (deeds v) ≠ [] with
        | none => report.tables.find? id = none
        | some v => ∃ table, report.tables.find? id = some table ∧ ∀ key,
            table.find? key = ((written (deeds v)).findRev? (·.1 = key)).map (·.2) := by
  intro vs back follows
  obtain ⟨-, -, goes⟩ := opened_accounts entry opened consistent
  obtain ⟨-, report, answer, accounts⟩ := goes back
  refine ⟨report, answer, fun id v last => ?_, ?_, ?_, fun id => ?_⟩
  · have mem : v ∈ vs := mem_of_findRev? last
    have actions := accounts.tells.actions id
    constructor
    · intro f first
      have first := (follows v mem).firstBreach_iff.mpr first
      exact (actions _).mpr ⟨v, last, .breach debug (back v mem) first⟩
    · intro sound
      obtain ⟨reply, told⟩ := Visit.exists_told robot.source turn (back v mem)
      exact ⟨reply, (Visit.told_iff_of_sound_deeds (follows v mem) sound).mp told,
        (actions _).mpr ⟨v, last, told⟩⟩
  · rw [accounts.logs]
    congr 1
    exact List.flatMap_congr fun v mem => Visit.logs_of_follows (follows v mem)
  · rw [accounts.inspections]
    exact List.flatMap_congr fun v mem => Visit.inspections_of_follows debug (follows v mem)
  · rw [accounts_tables debug accounts follows]
    cases last : vs.findRev? fun v => v.unit.id = id ∧ written (deeds v) ≠ [] with
    | none => rfl
    | some v => exact ⟨_, rfl, fun key => Dict.find?_ofList _ key⟩

/-! ## A clumsy robot -/

/-- Two breaches, of which the first is dropped, around a key that is written twice. -/
def fumble : List Deed := [
  ⟨.set "k" "1", false⟩, ⟨.record (.int 1) .null, true⟩, ⟨.record (.text "k") (.int 2), false⟩,
  ⟨.log "said", true⟩, ⟨.locate .null, false⟩, ⟨.log "unsaid", false⟩]

def fumbling : EntryPoint Unit where
  params := 3
  line := some 3
  body _ := perform (.returned .null) fumble

def clumsy : Robot Unit := (Robot.blank ()).define turnName fumbling

/-- The dropped breach is told, and not the one that ended the call. -/
theorem breach_decides_unit_clumsy :
    clumsy.entry? turnName = some fumbling ∧ fumbling.params = 3 ∧ lone.Consistent ∧
    (∃ opening, clumsy.opening? true lone = some opening) ∧
    ∃ report, ((ready clumsy true).turn lone).answer = some (.ok report) ∧
      report.actions.find? "a" = some (.error {
        span := some (.ofLine 3)
        summary := "ContractViolation: debug keys must be strings, got int"
        details := none }) ∧
      report.logs = ["said", "said"] ∧
      ∃ table, report.tables.find? "a" = some table ∧ table.find? "k" = some "2" := by
  have entry : clumsy.entry? turnName = some fumbling := rfl
  have opened : clumsy.opening? true lone = some { state := () } := rfl
  have follows : ∀ v ∈ visits fumbling lone () (lone.entitiesOf lone.team),
      v.run.Follows fumble (.returned .null) := by
    intro v mem
    obtain ⟨s, run⟩ := Visit.run_of_mem_visits mem
    rw [run]
    exact follows_perform _ fumble true s
  have first : FirstBreach fumble (.violation "debug keys must be strings, got int") :=
    firstBreach_iff.mpr rfl
  obtain ⟨report, answer, told, logs, -, tables⟩ :=
    breach_decides_unit entry rfl opened consistent_lone (by decide) follows
  refine ⟨entry, rfl, consistent_lone, ⟨_, opened⟩, report, answer, ?_, logs, ?_⟩
  · exact (told "a" _ rfl).1 _ first
  · obtain ⟨table, filed, found⟩ := tables "a"
    exact ⟨table, filed, found "k"⟩

end Runner

end RobotTurn
