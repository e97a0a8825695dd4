import RobotTurn.Proofs.Runner.Turn

/-! What a unit is told of a call. A call with a debug handle that breaks the rules of the handle is
told by its first breach; every other call is told by the way it ended (`Visit.Told`). A turn whose
calls all come back is answered by a report that tells each unit of its last call, and nothing of
any call is missing from it (`Runner.turn_tells_calls`). -/
namespace RobotTurn

open EntryPoint (turnName initName)

variable {σ : Type}

/-! ## Breaches -/

namespace Event

/-- The wrong use of the debug handle: a key that is no text, or something located that is no
entity. -/
inductive Breach : Event → Failure → Prop
  | key {key value : Value} (other : ∀ s, key ≠ .text s) : Breach (record key value)
      (.violation s!"debug keys must be strings, got {key.kind.name}")
  | target {v : Value} (other : ∀ e, v ≠ .entity e) : Breach (locate v)
      (.mismatch "debug.locate" "Obj" v.kind)

theorem breach?_eq_some_iff {e : Event} {f : Failure} : e.breach? = some f ↔ e.Breach f := by
  constructor
  · intro breach
    cases e with
    | record key value =>
      cases key with
      | text s => cases breach
      | _ =>
        cases breach
        exact .key nofun
    | locate v =>
      cases v with
      | entity e => cases breach
      | _ =>
        cases breach
        exact .target nofun
    | _ => cases breach
  · rintro (other | other)
    · next key _ =>
      cases key with
      | text s => exact absurd rfl (other s)
      | _ => rfl
    · next v =>
      cases v with
      | entity e => exact absurd rfl (other e)
      | _ => rfl

/-- The first breach among some events. -/
def FirstBreach (events : List Event) (f : Failure) : Prop :=
  ∃ before e after, events = before ++ e :: after ∧ e.Breach f ∧
    ∀ x ∈ before, ∀ g, ¬ x.Breach g

theorem firstBreach_iff {events : List Event} {f : Failure} :
    FirstBreach events f ↔ events.findSome? breach? = some f := by
  simp only [List.findSome?_eq_some_iff, FirstBreach, ← breach?_eq_some_iff,
    Option.eq_none_iff_forall_ne_some, ne_eq]

theorem no_firstBreach_iff {events : List Event} :
    (∀ f, ¬ FirstBreach events f) ↔ events.findSome? breach? = none := by
  simp only [firstBreach_iff, Option.eq_none_iff_forall_ne_some, ne_eq]

end Event

/-! ## What is told -/

/-- What a unit is told of its own call, if it has not breached a rule: the five ways to end. -/
inductive Outcome.Told (source : String) (line : Option UInt64) :
    Outcome Value → ActionReply → Prop
  | action (a : Action) : Told source line (.returned (.action a)) (.ok (some a))
  | null : Told source line (.returned .null) (.ok none)
  | other {v : Value} (noAction : ∀ a, v ≠ .action a) (notNull : v ≠ .null) :
    Told source line (.returned v) (.error ((Failure.violation
      s!"`turn` must return an Action or null, got {v.kind.name}").report source))
  | failed (f : Failure) : Told source line (.failed f) (.error ((f.located line).report source))
  | panicked (message : Option String) : Told source line (.panicked message) (.error
      (((Failure.runtime (message.getD "the program panicked")).located line).report source))

/-- What is told is what the call is settled with. -/
theorem Outcome.told_iff {source : String} {line : Option UInt64} {outcome : Outcome Value}
    {reply : ActionReply} : outcome.Told source line reply ↔
      (EntryPoint.settle line outcome).map (fun result =>
        (EntryPoint.verdict line none result).mapError (·.report source)) = some reply := by
  constructor
  · intro told
    cases told with
    | @other v noAction notNull =>
      cases v with
      | action a => exact absurd rfl (noAction a)
      | null => exact absurd rfl notNull
      | _ => rfl
    | _ => rfl
  · intro given
    cases outcome with
    | returned v =>
      cases v with
      | action a => cases given; exact .action a
      | null => cases given; exact .null
      | _ => cases given; exact .other nofun nofun
    | failed f => cases given; exact .failed f
    | panicked message => cases given; exact .panicked message
    | abandoned => cases given

namespace Visit

/-- What the unit of a call is told of it. Only a turn of three parameters has a debug handle, and
of an abandoned call nothing is told. -/
inductive Told (source : String) (turn : EntryPoint σ) (v : Visit σ) : ActionReply → Prop
  | breach {f : Failure} (debug : turn.params = 3) (back : v.abandoned = false)
      (first : Event.FirstBreach v.run.events f) :
      Told source turn v (.error ((f.located turn.line).report source))
  | ended {reply : ActionReply}
      (sound : turn.params = 3 → ∀ f, ¬ Event.FirstBreach v.run.events f)
      (told : v.run.outcome.Told source turn.line reply) : Told source turn v reply

theorem reply?_eq_some_iff {source : String} {turn : EntryPoint σ} {v : Visit σ}
    {reply : ActionReply} : v.reply? source turn = some reply ↔ v.Told source turn reply := by
  cases breach : v.breach turn with
  | none =>
    have sound : turn.params = 3 → ∀ f, ¬ Event.FirstBreach v.run.events f := by
      intro debug
      rw [Visit.breach, if_pos debug] at breach
      exact Event.no_firstBreach_iff.mpr breach
    rw [reply?, breach, ← Outcome.told_iff]
    constructor
    · exact .ended sound
    · rintro (⟨debug, -, first⟩ | ⟨-, told⟩)
      · exact absurd first (sound debug _)
      · exact told
  | some f =>
    obtain ⟨debug, first⟩ : turn.params = 3 ∧ Event.FirstBreach v.run.events f := by
      rw [Visit.breach] at breach
      split at breach
      · next debug => exact ⟨debug, Event.firstBreach_iff.mpr breach⟩
      · cases breach
    have settled := v.isSome_settle turn.line
    rw [reply?, breach]
    constructor
    · intro given
      obtain ⟨result, came, rfl⟩ := Option.map_eq_some_iff.mp given
      rw [came] at settled
      exact .breach debug (by simpa using settled.symm) first
    · rintro (⟨-, back, other⟩ | ⟨sound, -⟩)
      · obtain rfl := Option.some.inj
          ((Event.firstBreach_iff.mp other).symm.trans (Event.firstBreach_iff.mp first))
        rw [back] at settled
        obtain ⟨result, came⟩ := Option.isSome_iff_exists.mp settled
        rw [came]
        rfl
      · exact absurd first (sound debug f)

/-- Of every call that comes back something is told. -/
theorem exists_told (source : String) (turn : EntryPoint σ) {v : Visit σ}
    (back : v.abandoned = false) : ∃ reply, v.Told source turn reply := by
  have some : (v.reply? source turn).isSome := by
    rw [isSome_reply?, back]
    rfl
  obtain ⟨reply, given⟩ := Option.isSome_iff_exists.mp some
  exact ⟨reply, reply?_eq_some_iff.mp given⟩

end Visit

/-! ## Reports -/

/-- A report that tells of the calls of a turn: beside all that they leave, each unit is told of its
last call. -/
structure TurnReport.Tells (r : TurnReport) (source : String) (turn : EntryPoint σ)
    (roster opening : List String) (vs : List (Visit σ)) : Prop
    extends r.Gathers turn roster opening vs where
  actions : ∀ id reply, r.actions.find? id = some reply ↔
    ∃ v, vs.findRev? (·.unit.id = id) = some v ∧ v.Told source turn reply

theorem TurnReport.Accounts.tells {r : TurnReport} {source : String} {turn : EntryPoint σ}
    {roster opening : List String} {vs : List (Visit σ)}
    (accounts : r.Accounts source turn roster opening vs) :
    r.Tells source turn roster opening vs where
  toGathers := accounts.toGathers
  actions id reply := by
    simp only [accounts.actions, Option.bind_eq_some_iff, Visit.reply?_eq_some_iff]

namespace Runner

/-- The turn of a checked robot on a consistent board calls the entry once for every place on the
roster, in order, with the unit of that place, and each call finds the state that the one before it
left. It is answered unless a call is abandoned, and then by a report that tells of all of them. -/
theorem turn_tells_calls {robot : Robot σ} {due : Bool} {b : Board} {opening : Opening σ}
    (sound : robot.fault? = none) (consistent : b.Consistent)
    (opened : robot.opening? due b = some opening) :
    ∃ turn, robot.entry? turnName = some turn ∧
      let vs := visits turn b opening.state (b.entitiesOf b.team)
      let step := (ready robot due).turn b
      step.calls = opening.calls ++ vs.map (·.call b) ∧
      step.runner = .ready { robot with state := stateAfter opening.state vs } false ∧
      ((∃ v ∈ vs, v.abandoned = true) → step.answer = none) ∧
      ((∀ v ∈ vs, v.abandoned = false) →
        vs.map (·.unit.id) = b.roster b.team ∧
        (∀ v ∈ vs, b.entity? v.unit.id = some v.unit) ∧
        ∃ report, step.answer = some (.ok report) ∧
          report.Tells robot.source turn (b.roster b.team) opening.logs vs) := by
  obtain ⟨turn, entry, calls, runner, stops, goes⟩ := turn_accounts sound consistent opened
  refine ⟨turn, entry, calls, runner, stops, fun back => ?_⟩
  obtain ⟨ids, units, report, answer, accounts⟩ := goes back
  exact ⟨ids, units, report, answer, accounts.tells⟩

/-! ## A robot of many fates -/

/-- A robot whose units fare differently: one panics when it is called first and acts afterwards,
one fails, and one drops the error of a breach and then acts. -/
def motley : Robot Nat :=
  (Robot.blank 0)
    |>.define initName (.init fun _ => .log "start")
    |>.define turnName { EntryPoint.turnWithDebug fun _ unit => do
      let n ← .getState
      .setState (n + 1)
      .log unit.id
      if unit.id = "b" then .fail (.runtime "lost")
      else if unit.id = "c" then do
        discard (Act.attempt (.emit (.locate .null)))
        return some (.move .north)
      else if n = 0 then .panic none
      else do
        .emit (.inspect unit)
        .emit (.set "call" (toString n))
        return some (.move .north) with line := some 4 }

/-- A board with three units, one of which is listed twice. -/
def trio : Board where
  turn := 1
  team := .red
  red := ["a", "b", "c", "a"]
  blue := []
  entities := .ofList [("a", ⟨"a", ⟨0, 0⟩, .unit .red 5⟩), ("b", ⟨"b", ⟨1, 0⟩, .unit .red 5⟩),
    ("c", ⟨"c", ⟨2, 0⟩, .unit .red 5⟩)]
  grid := [[some "a", some "b", some "c"]]

theorem consistent_trio : trio.Consistent := (Board.error?_eq_none_iff trio).mp rfl

/-- The unit that panicked acts in its later call, a failure is told at its place, and a dropped
breach outweighs the action. -/
theorem turn_tells_calls_motley :
    motley.fault? = none ∧ trio.Consistent ∧
      (∃ opening, motley.opening? true trio = some opening) ∧
      ∃ report, ((ready motley true).turn trio).answer = some (.ok report) ∧
        report.actions.find? "a" = some (.ok (some (.move .north))) ∧
        report.actions.find? "b" = some (.error {
          span := some (.ofLine 4), summary := "RuntimeError: lost", details := none }) ∧
        report.actions.find? "c" = some (.error {
          span := some (.ofLine 4)
          summary := "TypeMismatch: debug.locate argument must be Obj, got null"
          details := none }) ∧
        report.logs = ["start", "a", "b", "c", "a"] ∧
        report.inspections = ["a"] ∧
        report.tables.find? "a" = some (.ofList [("call", "3")]) := by
  refine ⟨rfl, consistent_trio, ⟨_, rfl⟩, ?_⟩
  obtain ⟨turn, entry, -, -, -, answered⟩ :=
    turn_tells_calls rfl consistent_trio (rfl : motley.opening? true trio = some _)
  obtain rfl := Option.some.inj entry
  obtain ⟨-, -, report, answer, tells⟩ := answered (by decide)
  refine ⟨report, answer, ?_, ?_, ?_, tells.logs, tells.inspections, tells.tables "a"⟩
  · refine (tells.actions _ _).mpr ⟨_, rfl, .ended (fun _ => ?_) (.action _)⟩
    exact Event.no_firstBreach_iff.mpr rfl
  · refine (tells.actions _ _).mpr ⟨_, rfl, .ended (fun _ => ?_) (.failed (.runtime "lost"))⟩
    exact Event.no_firstBreach_iff.mpr rfl
  · refine (tells.actions _ _).mpr ⟨_, rfl, .breach (f := .mismatch "debug.locate" "Obj" .null)
      rfl rfl (Event.firstBreach_iff.mpr rfl)⟩

end Runner
end RobotTurn
