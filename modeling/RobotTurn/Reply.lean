import RobotTurn.Failure

/-! What a robot answers: to its initialization, and to each turn. -/
namespace RobotTurn

/-- Why a whole session or turn has no answer of its own. -/
inductive SessionError where
  | initFailed (report : Report)
  | internal
  | noData
  | noInit
  | badData (message : String)
  | io (message : String)
  deriving DecidableEq, Repr, Inhabited

def SessionError.text : SessionError → String
  | initFailed report => s!"the program failed to initialize: {report.summary}"
  | internal => "internal error while running the program"
  | noData => "the program produced no output"
  | noInit => "the program did not report its initialization"
  | badData message => s!"malformed data: {message}"
  | io message => s!"i/o error: {message}"

/-- The outcome of one unit: an action, no action, or its failure. -/
abbrev ActionReply := Except Report (Option Action)

-- Before any instance that another library derives, so that outcomes are compared in one way.
instance (priority := 2000) decidableEqExcept {ε α : Type} [DecidableEq ε] [DecidableEq α] :
    DecidableEq (Except ε α)
  | .ok a, .ok b => decidable_of_iff (a = b) ⟨congrArg _, Except.ok.inj⟩
  | .error e, .error f => decidable_of_iff (e = f) ⟨congrArg _, Except.error.inj⟩
  | .ok _, .error _ => .isFalse nofun
  | .error _, .ok _ => .isFalse nofun

/-- Outcomes and debug tables are keyed by the ids of units; `inspections` lists the ids
that were pointed at, in order. -/
structure TurnReport where
  actions : Dict ActionReply := ∅
  logs : List String := []
  tables : Dict (Dict String) := ∅
  inspections : List String := []
  deriving DecidableEq, Inhabited

/-- Puts lines at the end of the log. -/
def TurnReport.noting (r : TurnReport) (lines : List String) : TurnReport :=
  { r with logs := r.logs ++ lines }

abbrev InitReply := Except SessionError Unit
abbrev TurnReply := Except SessionError TurnReport

end RobotTurn
