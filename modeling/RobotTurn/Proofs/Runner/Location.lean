import RobotTurn.Proofs.Runner.Turn

/-! Where the reports of failures point. The line of an entry point is attached to whatever its
calls fail with, to breaches of the rules of the debug handle and to complaints about its
parameters, but not to the failure of a value that is no order (`located_unless_misshapen`). -/
namespace RobotTurn

open EntryPoint (initName turnName)

variable {σ : Type}

namespace Failure

/-- A failure told with its own line, or else with the one of its entry point. -/
def reportAt (f : Failure) (line : UInt64) : Report :=
  { span := some (.ofLine (f.line.getD line)), summary := f.summary, details := f.details }

/-- A failure told without a line. -/
def reportNowhere (f : Failure) : Report :=
  { span := none, summary := f.summary, details := f.details }

theorem report_located (f : Failure) (line : UInt64) (source : String) :
    (f.located (some line)).report source = f.reportAt line := by
  cases own : f.line with
  | none => simp [report, reportAt, lineIn, located, own, summary, details, trace]
  | some n => simp [report, reportAt, lineIn, located, own, summary, details, trace]

theorem report_violation (message source : String) :
    (violation message).report source = (violation message).reportNowhere := rfl

end Failure

/-- The failure that a call ends with, before a line is attached to it. -/
def Outcome.failure? : Outcome Value → Option Failure
  | .failed f => some f
  | .panicked message => some (.runtime (message.getD "the program panicked"))
  | _ => none

theorem EntryPoint.settle_of_failure {outcome : Outcome Value} {f : Failure}
    (failed : outcome.failure? = some f) (line : Option UInt64) :
    settle line outcome = some (.error (f.located line)) := by
  cases outcome with
  | returned v => cases failed
  | failed g =>
    cases failed
    rfl
  | panicked message =>
    cases failed
    rfl
  | abandoned => cases failed

namespace Visit

/-- The failure of a value that is no order. -/
def misfit? (value : Value) : Option Failure :=
  match EntryPoint.order value with
  | .ok _ => none
  | .error f => some f

/-- What a unit fails with, before a line is attached to it: the first breach of the rules of
the debug handle, or else the failure of the call, or else that of a value which is no order. -/
def failure? (turn : EntryPoint σ) (v : Visit σ) : Option Failure :=
  (v.breach turn).or <| match v.run.outcome with
    | .returned value => misfit? value
    | outcome => outcome.failure?

/-- A call without a breach that returned a value which is no order. -/
def misshapen (turn : EntryPoint σ) (v : Visit σ) : Bool :=
  (v.breach turn).isNone && match v.run.outcome with
    | .returned value => (misfit? value).isSome
    | _ => false

/-- The report that is recorded for a unit which fails. -/
def complaint (turn : EntryPoint σ) (line : UInt64) (v : Visit σ) (f : Failure) : Report :=
  if v.misshapen turn then f.reportNowhere else f.reportAt line

theorem order_cases (value : Value) :
    (∃ order, EntryPoint.order value = .ok order ∧ misfit? value = none) ∨
      ∃ f, EntryPoint.order value = .error f ∧ misfit? value = some f := by
  rw [misfit?]
  cases EntryPoint.order value with
  | ok order => exact .inl ⟨order, rfl, rfl⟩
  | error f => exact .inr ⟨f, rfl, rfl⟩

/-- What is wrong with a value has neither a line nor a trace. -/
theorem report_misfit {value : Value} {f : Failure} (misfit : misfit? value = some f)
    (source : String) : f.report source = f.reportNowhere := by
  cases value <;> cases misfit <;> exact Failure.report_violation _ source

theorem reply?_of_failure {turn : EntryPoint σ} {line : UInt64} (there : turn.line = some line)
    (source : String) {v : Visit σ} (back : v.abandoned = false) {f : Failure}
    (failed : v.failure? turn = some f) :
    v.reply? source turn = some (.error (v.complaint turn line f)) := by
  rw [reply?, there, complaint]
  cases breach : v.breach turn with
  | some g =>
    obtain ⟨result, settled⟩ : ∃ result, EntryPoint.settle (some line) v.run.outcome =
        some result := by
      rw [← Option.isSome_iff_exists, ← Option.not_isNone, isNone_settle, back]
      rfl
    rw [failure?, breach, Option.some_or] at failed
    cases failed
    simp [settled, EntryPoint.verdict, Except.mapError, Failure.report_located, misshapen, breach]
  | none =>
    rw [failure?, breach, Option.none_or] at failed
    cases outcome : v.run.outcome with
    | returned value =>
      rw [outcome] at failed
      replace failed : misfit? value = some f := failed
      rcases order_cases value with ⟨_, -, fits⟩ | ⟨g, refused, misfit⟩
      · rw [fits] at failed
        cases failed
      · obtain rfl : g = f := Option.some.inj (misfit.symm.trans failed)
        simp [EntryPoint.settle, EntryPoint.verdict, Except.bind, refused, Except.mapError,
          report_misfit misfit, misshapen, breach, outcome, misfit]
    | abandoned => simp [abandoned, outcome] at back
    | _ =>
      rw [outcome] at failed
      simp [EntryPoint.settle_of_failure failed, EntryPoint.verdict, Except.bind, Except.mapError,
        Failure.report_located, misshapen, breach, outcome]

theorem reply?_of_sound {turn : EntryPoint σ} (source : String) {v : Visit σ}
    (sound : v.failure? turn = none) (r : Report) : v.reply? source turn ≠ some (.error r) := by
  rw [failure?, Option.or_eq_none_iff] at sound
  obtain ⟨breach, sound⟩ := sound
  rw [reply?, breach]
  cases outcome : v.run.outcome with
  | returned value =>
    rw [outcome] at sound
    replace sound : misfit? value = none := sound
    rcases order_cases value with ⟨order, accepted, -⟩ | ⟨f, -, misfit⟩
    · simp [EntryPoint.settle, EntryPoint.verdict, Except.bind, accepted, Except.mapError]
    · rw [misfit] at sound
      cases sound
  | abandoned =>
    intro told
    cases told
  | _ =>
    rw [outcome] at sound
    cases sound

/-- A unit is recorded as failed exactly if it failed, with what it failed with. -/
theorem reply?_error_iff {turn : EntryPoint σ} {line : UInt64} (there : turn.line = some line)
    (source : String) {v : Visit σ} (back : v.abandoned = false) {r : Report} :
    v.reply? source turn = some (.error r) ↔
      ∃ f, v.failure? turn = some f ∧ r = v.complaint turn line f := by
  cases failed : v.failure? turn with
  | none => simp [reply?_of_sound source failed r]
  | some f => simp [reply?_of_failure there source back failed, eq_comm]

end Visit

/-- An entry point whose parameters keep a robot from playing. The turn is looked at first. -/
inductive Robot.Misfit (robot : Robot σ) : EntryPoint σ → Prop
  | turn {turn : EntryPoint σ} (entry : robot.entry? turnName = some turn)
      (arity : ¬ (2 ≤ turn.params ∧ turn.params ≤ 3)) : robot.Misfit turn
  | init {turn init : EntryPoint σ} (sound : robot.entry? turnName = some turn)
      (arity : 2 ≤ turn.params ∧ turn.params ≤ 3) (entry : robot.entry? initName = some init)
      (params : init.params ≠ 1) : robot.Misfit init

namespace Runner

/-- Wrong parameters are reported where their entry point is defined. -/
theorem init_misfit {robot : Robot σ} {e : EntryPoint σ} {line : UInt64}
    (misfit : robot.Misfit e) (there : e.line = some line) :
    ∃ message, (Runner.idle.init robot).1 =
      .error (.initFailed ((Failure.violation message).reportAt line)) := by
  obtain ⟨message, fault⟩ : ∃ message,
      robot.fault? = some ((Failure.violation message).located (some line)) := by
    rw [← there]
    cases misfit with
    | turn entry arity => exact ⟨_, by simp only [Robot.fault?, entry, arity]; rfl⟩
    | init sound arity entry params =>
      exact ⟨_, by simp only [Robot.fault?, sound, arity, entry, params]; rfl⟩
  refine ⟨message, ?_⟩
  simp only [Runner.init, fault, Runner.fault, Failure.report_located]

/-- An `init` that fails is reported at its own line, unless the failure has one. -/
theorem start_failed {robot : Robot σ} {init : EntryPoint σ} {line : UInt64}
    (entry : robot.entry? initName = some init) (there : init.line = some line) {b : Board}
    {f : Failure}
    (failed : (init.body [.board b] false robot.state).outcome.failure? = some f) :
    ((ready robot true).turn b).answer = some (.error (.initFailed (f.reportAt line))) := by
  have settled := EntryPoint.settle_of_failure failed init.line
  rcases start_cases entry b with ⟨none, -⟩ | ⟨g, _, same, rfl, -, answer, -⟩ |
    ⟨v, _, _, returned, -⟩
  · rw [settled] at none
    cases none
  · rw [settled, there] at same
    cases same
    rw [← Failure.report_located f line robot.source]
    exact answer
  · rw [settled] at returned
    cases returned

/-- A report holds the failures of the last calls of the units that failed, and no others. -/
theorem accounts_error_iff {r : TurnReport} {source : String} {turn : EntryPoint σ}
    {roster opening : List String} {vs : List (Visit σ)}
    (h : r.Accounts source turn roster opening vs) (back : ∀ v ∈ vs, v.abandoned = false)
    {line : UInt64} (there : turn.line = some line) (id : String) (complaint : Report) :
    r.actions.find? id = some (.error complaint) ↔
      ∃ v f, vs.findRev? (·.unit.id = id) = some v ∧ v.failure? turn = some f ∧
        complaint = v.complaint turn line f := by
  rw [h.actions, Option.bind_eq_some_iff]
  refine exists_congr fun v => ?_
  constructor
  · rintro ⟨last, replied⟩
    have mem : v ∈ vs := mem_of_findRev? last
    obtain ⟨f, failed, same⟩ := (Visit.reply?_error_iff there source (back v mem)).mp replied
    exact ⟨f, last, failed, same⟩
  · rintro ⟨f, last, failed, same⟩
    have mem : v ∈ vs := mem_of_findRev? last
    exact ⟨last, (Visit.reply?_error_iff there source (back v mem)).mpr ⟨f, failed, same⟩⟩

/-- Whatever goes wrong at an entry point with a line is told with a line, which is that of the
failure if it has one: wrong parameters, an `init` that fails, and a unit that fails in any way but
one. A value that is no order is told without a line. -/
theorem located_unless_misshapen (robot : Robot σ) :
    (∀ e line, robot.Misfit e → e.line = some line →
      ∃ message, (Runner.idle.init robot).1 =
        .error (.initFailed ((Failure.violation message).reportAt line))) ∧
    (∀ init line, robot.entry? initName = some init → init.line = some line →
      ∀ b f, (init.body [.board b] false robot.state).outcome.failure? = some f →
        ((ready robot true).turn b).answer = some (.error (.initFailed (f.reportAt line)))) ∧
    ∀ turn line, robot.entry? turnName = some turn → turn.line = some line →
      ∀ due b opening, b.Consistent → robot.opening? due b = some opening →
        let vs := visits turn b opening.state (b.entitiesOf b.team)
        (∀ v ∈ vs, v.abandoned = false) →
          ∃ report, ((ready robot due).turn b).answer = some (.ok report) ∧
            ∀ id r, report.actions.find? id = some (.error r) ↔
              ∃ v f, vs.findRev? (·.unit.id = id) = some v ∧ v.failure? turn = some f ∧
                r = if v.misshapen turn then f.reportNowhere else f.reportAt line := by
  refine ⟨fun e line misfit there => init_misfit misfit there,
    fun init line entry there b f failed => start_failed entry there failed, ?_⟩
  intro turn line entry there due b opening consistent opened vs back
  obtain ⟨-, -, goes⟩ := opened_accounts entry opened consistent
  obtain ⟨-, report, answer, accounts⟩ := goes back
  exact ⟨report, answer, accounts_error_iff accounts back there⟩

/-! ## A robot that fails -/

/-- A robot with an `init` at line 2 and a turn at line 3. -/
def lined (params : Nat) (start act : Act Unit Value) : Robot Unit :=
  (Robot.blank ())
    |>.define initName { params := 1, line := some 2, body := fun _ => start }
    |>.define turnName { params, line := some 3, body := fun _ => act }

/-- Wrong parameters, an `init` that panics and a turn that fails are all told with their lines. -/
theorem located_unless_misshapen_lined :
    (∃ message, (Runner.idle.init (lined 1 (return .null) (return .null))).1 =
      .error (.initFailed ((Failure.violation message).reportAt 3))) ∧
    ((ready (lined 2 (.panic none) (return .null)) true).turn lone).answer = some (.error
      (.initFailed ((Failure.runtime "the program panicked").reportAt 2))) ∧
    ∃ report, ((ready (lined 2 (return .null) (.panic (some "no"))) true).turn lone).answer =
        some (.ok report) ∧
      report.actions.find? "a" = some (.error ((Failure.runtime "no").reportAt 3)) := by
  obtain ⟨misfits, -, -⟩ := located_unless_misshapen (lined 1 (return .null) (return .null))
  obtain ⟨-, starts, -⟩ := located_unless_misshapen (lined 2 (.panic none) (return .null))
  obtain ⟨-, -, units⟩ := located_unless_misshapen (lined 2 (return .null) (.panic (some "no")))
  obtain ⟨report, answer, told⟩ := units _ 3 rfl rfl true lone _ consistent_lone rfl (by decide)
  exact ⟨misfits _ 3 (.turn rfl (by decide)) rfl, starts _ 2 rfl rfl lone _ rfl, report, answer,
    (told "a" _).mpr ⟨_, _, rfl, rfl, rfl⟩⟩

/-- A turn at line 3 that returns a number: the failure of its unit is told without a line. -/
theorem misshapen_value_has_no_line :
    let robot := lined 2 (return .null) (return .int 3)
    (∃ turn, robot.entry? turnName = some turn ∧ turn.line = some 3) ∧
      ∃ report r, ((ready robot true).turn lone).answer = some (.ok report) ∧
        report.actions.find? "a" = some (.error r) ∧
        r.summary = "ContractViolation: `turn` must return an Action or null, got int" ∧
        r.span ≠ some (.ofLine 3) :=
  ⟨⟨_, rfl, rfl⟩, _, _, rfl, rfl, rfl, nofun⟩

end Runner
end RobotTurn
