import RobotTurn.Proofs.Runner.Turn

/-! The order in which a session calls its robot. The calls are replayed on the robot alone,
each finding the state that the one before it left, so that what each came back with is known.
Every call of a turn is one that the calls before it allow (`Runner.Steady.turn`). -/
namespace RobotTurn

open EntryPoint (initName turnName)

variable {σ : Type}

theorem initName_ne_turnName : initName ≠ turnName := by decide

/-- A call that was made: what it came back with, unless it was abandoned, and the state that it
left. -/
structure Made (σ : Type) where
  call : Call
  result : Option (Except Failure Value)
  state : σ

namespace Made

/-- An `init` that returned. -/
def Started (v : Made σ) : Prop := v.call.entry = initName ∧ ∃ a, v.result = some (.ok a)

/-- An `init` that failed or panicked. -/
def FailedWith (v : Made σ) (f : Failure) : Prop :=
  v.call.entry = initName ∧ v.result = some (.error f)

/-- An `init` that was abandoned. -/
def Interrupted (v : Made σ) : Prop := v.call.entry = initName ∧ v.result = none

/-- The state that calls leave. -/
def left (s : σ) (vs : List (Made σ)) : σ := vs.foldl (fun _ v => v.state) s

theorem left_append (s : σ) (vs ws : List (Made σ)) : left s (vs ++ ws) = left (left s vs) ws :=
  List.foldl_append

theorem Interrupted.not_started {v : Made σ} (h : v.Interrupted) : ¬ v.Started := by
  rintro ⟨-, a, returned⟩
  rw [h.2] at returned
  cases returned

theorem Started.not_failed {v : Made σ} (h : v.Started) (f : Failure) : ¬ v.FailedWith f := by
  obtain ⟨-, a, returned⟩ := h
  rintro ⟨-, failed⟩
  rw [returned] at failed
  cases failed

theorem Interrupted.not_failed {v : Made σ} (h : v.Interrupted) (f : Failure) :
    ¬ v.FailedWith f := by
  rintro ⟨-, failed⟩
  rw [h.2] at failed
  cases failed

end Made

namespace Robot

/-- What a call comes to if the robot has its entry point. Only the turn of a unit can have a
debug handle. -/
def made? (robot : Robot σ) (s : σ) (c : Call) : Option (Made σ) :=
  match robot.entry? c.entry with
  | none => none
  | some e =>
    let run := e.body c.arguments (c.entry = turnName ∧ e.params = 3) s
    some ⟨c, EntryPoint.settle e.line run.outcome, run.state⟩

/-- What calls come to, one after the other. -/
def replay (robot : Robot σ) : σ → List Call → List (Made σ)
  | _, [] => []
  | s, c :: cs =>
    match robot.made? s c with
    | none => robot.replay s cs
    | some v => v :: robot.replay v.state cs

theorem made?_init {robot : Robot σ} {init : EntryPoint σ}
    (entry : robot.entry? initName = some init) (b : Board) (s : σ) :
    robot.made? s ⟨initName, [.board b]⟩ =
      let run := init.body [.board b] false s
      some ⟨⟨initName, [.board b]⟩, EntryPoint.settle init.line run.outcome, run.state⟩ := by
  simp [made?, entry, initName_ne_turnName]

theorem of_made? {robot : Robot σ} {s : σ} {c : Call} {v : Made σ}
    (made : robot.made? s c = some v) :
    v.call = c ∧ ∃ e, robot.entry? c.entry = some e := by
  rw [made?] at made
  cases entry : robot.entry? c.entry with
  | none =>
    rw [entry] at made
    cases made
  | some e =>
    rw [entry] at made
    cases made
    exact ⟨rfl, e, rfl⟩

theorem replay_cons {robot : Robot σ} {s : σ} {c : Call} {v : Made σ}
    (made : robot.made? s c = some v) (cs : List Call) :
    robot.replay s (c :: cs) = v :: robot.replay v.state cs := by
  rw [replay, made]

theorem replay_append (robot : Robot σ) (s : σ) (cs ds : List Call) :
    robot.replay s (cs ++ ds) =
      robot.replay s cs ++ robot.replay (Made.left s (robot.replay s cs)) ds := by
  induction cs generalizing s with
  | nil => rfl
  | cons c cs ih =>
    simp only [List.cons_append, replay]
    cases robot.made? s c with
    | none => exact ih s
    | some v => exact congrArg (v :: ·) (ih v.state)

/-- Only entry points that the robot has are called. -/
theorem entry?_of_mem_replay {robot : Robot σ} {s : σ} {cs : List Call} {v : Made σ}
    (mem : v ∈ robot.replay s cs) : ∃ e, robot.entry? v.call.entry = some e := by
  induction cs generalizing s with
  | nil => cases mem
  | cons c cs ih =>
    rw [replay] at mem
    cases made : robot.made? s c with
    | none =>
      rw [made] at mem
      exact ih mem
    | some w =>
      rw [made] at mem
      rcases List.mem_cons.mp mem with rfl | later
      · obtain ⟨rfl, known⟩ := of_made? made
        exact known
      · exact ih later

/-- A visit as a call that was made. -/
def ofVisit (turn : EntryPoint σ) (b : Board) (v : Visit σ) : Made σ :=
  ⟨v.call b, EntryPoint.settle turn.line v.run.outcome, v.run.state⟩

/-- The calls of the units come to their visits. -/
theorem replay_visits {robot : Robot σ} {turn : EntryPoint σ}
    (entry : robot.entry? turnName = some turn) (b : Board) (s : σ) (units : List Entity) :
    robot.replay s ((visits turn b s units).map (·.call b)) =
      (visits turn b s units).map (ofVisit turn b) := by
  induction units generalizing s with
  | nil => rfl
  | cons unit units ih =>
    have first : robot.made? s ⟨turnName, [.board b, .entity unit]⟩ = some (ofVisit turn b
        ⟨unit, turn.body [.board b, .entity unit] (turn.params = 3) s⟩) := by
      simp [made?, entry, ofVisit, Visit.call]
    simp only [visits, List.map_cons]
    refine (replay_cons first _).trans (congrArg (_ :: ·) ?_)
    split
    · rfl
    · exact ih _

theorem left_visits (turn : EntryPoint σ) (b : Board) (s : σ) (vs : List (Visit σ)) :
    Made.left s (vs.map (ofVisit turn b)) = stateAfter s vs := by
  rw [Made.left, List.foldl_map]
  rfl

/-! ## What the calls before it allow -/

/-- A robot whose `init`, if it has one, has returned. -/
def Begun (robot : Robot σ) (trace : List (Made σ)) : Prop :=
  robot.entry? initName = none ∨ ∃ u ∈ trace, u.Started

theorem Begun.append {robot : Robot σ} {trace : List (Made σ)} (h : robot.Begun trace)
    (later : List (Made σ)) : robot.Begun (trace ++ later) := by
  rcases h with none | ⟨u, mem, started⟩
  · exact .inl none
  · exact .inr ⟨u, List.mem_append_left _ mem, started⟩

/-- A call that may follow other calls: none follows an `init` that failed, an `init` follows
only ones that were abandoned, and a unit is called behind an `init` that returned, if there
is one. -/
structure Allows (robot : Robot σ) (earlier : List (Made σ)) (c : Call) : Prop where
  alive : ∀ u ∈ earlier, ∀ f, ¬ u.FailedWith f
  init : c.entry = initName → ∀ u ∈ earlier, u.call.entry = initName → u.Interrupted
  turn : c.entry = turnName → robot.Begun earlier

/-- Calls each of which was allowed by the ones before it. -/
def Orderly (robot : Robot σ) (trace : List (Made σ)) : Prop :=
  ∀ before v after, trace = before ++ v :: after → robot.Allows before v.call

theorem Orderly.nil (robot : Robot σ) : robot.Orderly [] := by
  intro before v after split
  simp at split

theorem Orderly.snoc {robot : Robot σ} {earlier : List (Made σ)} {v : Made σ}
    (h : robot.Orderly earlier) (allowed : robot.Allows earlier v.call) :
    robot.Orderly (earlier ++ [v]) := by
  intro before w after split
  rcases List.eq_nil_or_concat after with rfl | ⟨after, x, rfl⟩
  · obtain ⟨rfl, last⟩ := List.append_inj' split rfl
    cases last
    exact allowed
  · rw [List.concat_eq_append, ← List.cons_append, ← List.append_assoc] at split
    exact h before w after (List.append_inj' split rfl).1

/-- Units may be called once a session is alive and has begun. -/
theorem Orderly.turns {robot : Robot σ} {earlier later : List (Made σ)}
    (orderly : robot.Orderly earlier) (alive : ∀ u ∈ earlier, ∀ f, ¬ u.FailedWith f)
    (begun : robot.Begun earlier)
    (units : ∀ v ∈ later, v.call.entry = turnName) :
    robot.Orderly (earlier ++ later) ∧ ∀ u ∈ earlier ++ later, ∀ f, ¬ u.FailedWith f := by
  have other {v : Made σ} (h : v.call.entry = turnName) : v.call.entry ≠ initName :=
    h ▸ initName_ne_turnName.symm
  have alive (u : Made σ) (mem : u ∈ earlier ++ later) (f : Failure) : ¬ u.FailedWith f := by
    rcases List.mem_append.mp mem with mem | mem
    · exact alive u mem f
    · exact fun failed => other (units u mem) failed.1
  refine ⟨?_, alive⟩
  induction later using List.reverseRecOn with
  | nil => rwa [List.append_nil]
  | append_singleton later v ih =>
    rw [← List.append_assoc] at alive ⊢
    refine .snoc (ih (fun w mem => units w (List.mem_append_left _ mem))
      fun u mem => alive u (List.mem_append_left _ mem)) ⟨?_, ?_, ?_⟩
    · exact fun u mem => alive u (List.mem_append_left _ mem)
    · exact fun init => absurd init (other (units v (by simp)))
    · exact fun _ => begun.append later

/-- Where a session stands after some calls of its robot. While `init` is due nothing has
happened but abandoned attempts at it, and a failed session has failed by its last call. -/
def Standing (robot : Robot σ) (trace : List (Made σ)) : Runner σ → Prop
  | .idle => trace = []
  | .ready r true =>
    r = { robot with state := Made.left robot.state trace } ∧ ∀ u ∈ trace, u.Interrupted
  | .ready r false =>
    r = { robot with state := Made.left robot.state trace } ∧
      (∀ u ∈ trace, ∀ f, ¬ u.FailedWith f) ∧ robot.Begun trace
  | .failed e =>
    trace = [] ∨ ∃ earlier u f, trace = earlier ++ [u] ∧ u.FailedWith f ∧
      e = .initFailed (f.report robot.source)

end Robot

namespace Runner

open Progress

/-- A session whose calls have been orderly so far. -/
structure Steady (robot : Robot σ) (trace : List (Made σ)) (r : Runner σ) : Prop where
  checked : r.Checked
  orderly : robot.Orderly trace
  standing : robot.Standing trace r

/-- Calls that keep a session steady: all of them are entry points of the robot. -/
structure Keeps (robot : Robot σ) (trace : List (Made σ)) (cs : List Call) (r : Runner σ) :
    Prop where
  known : (robot.replay (Made.left robot.state trace) cs).map (·.call) = cs
  steady : r.Steady robot (trace ++ robot.replay (Made.left robot.state trace) cs)

theorem Steady.keeps_nil {robot : Robot σ} {trace : List (Made σ)} {r : Runner σ}
    (h : r.Steady robot trace) : Keeps robot trace [] r :=
  ⟨rfl, by rwa [Robot.replay, List.append_nil]⟩

theorem keeps_cons {robot : Robot σ} {trace : List (Made σ)} {c : Call} {cs : List Call}
    {v : Made σ} {r : Runner σ} (made : robot.made? (Made.left robot.state trace) c = some v)
    (rest : Keeps robot (trace ++ [v]) cs r) : Keeps robot trace (c :: cs) r := by
  obtain ⟨known, steady⟩ := rest
  rw [Made.left_append] at known steady
  refine ⟨?_, ?_⟩
  · rw [Robot.replay_cons made, List.map_cons, (Robot.of_made? made).1]
    exact congrArg (c :: ·) known
  · rw [List.append_assoc] at steady
    rw [Robot.replay_cons made]
    exact steady

theorem keeps_append {robot : Robot σ} {trace : List (Made σ)} {cs ds : List Call} {r : Runner σ}
    (front : (robot.replay (Made.left robot.state trace) cs).map (·.call) = cs)
    (back : Keeps robot (trace ++ robot.replay (Made.left robot.state trace) cs) ds r) :
    Keeps robot trace (cs ++ ds) r := by
  obtain ⟨known, steady⟩ := back
  rw [Made.left_append] at known steady
  refine ⟨?_, ?_⟩
  · rw [Robot.replay_append, List.map_append, front, known]
  · rwa [Robot.replay_append, ← List.append_assoc]

/-- The turn of a robot whose `init` is done calls its units and nothing else. -/
theorem keeps_play {robot : Robot σ} (sound : robot.fault? = none) {b : Board}
    (consistent : b.Consistent) {trace : List (Made σ)} (orderly : robot.Orderly trace)
    (alive : ∀ u ∈ trace, ∀ f, ¬ u.FailedWith f)
    (begun : robot.Begun trace) {p : Progress σ}
    {opening : List String} (fresh : p.report = { logs := opening }) (going : p.abandoned = false)
    (before : p.state = Made.left robot.state trace) (s : σ) :
    ∃ later, (play { robot with state := s } b p).calls = p.calls ++ later ∧
      Keeps robot trace later (play { robot with state := s } b p).runner := by
  obtain ⟨turn, entry⟩ := entry?_turn sound
  let found : Robot σ := { robot with state := s }
  have same : found.entry? turnName = some turn := entry
  obtain ⟨calls, runner, -⟩ := play_accounts same consistent fresh going
  refine ⟨_, calls, ?_⟩
  rw [before] at runner ⊢
  have replayed := Robot.replay_visits entry b (Made.left robot.state trace)
    (b.entitiesOf b.team)
  have units : ∀ v ∈ (visits turn b (Made.left robot.state trace) (b.entitiesOf b.team)).map
      (Robot.ofVisit turn b), v.call.entry = turnName := by
    intro v mem
    obtain ⟨w, -, rfl⟩ := List.mem_map.mp mem
    rfl
  obtain ⟨orderly, alive⟩ := orderly.turns alive begun units
  refine ⟨?_, ?_⟩
  · rw [replayed, List.map_map]
    rfl
  · rw [replayed, runner]
    refine ⟨sound, orderly, ?_, alive, begun.append _⟩
    rw [Made.left_append, Robot.left_visits]

/-- The turn in which `init` is due calls it, and its units only if it returns. -/
theorem keeps_start {robot : Robot σ} (sound : robot.fault? = none) {b : Board}
    (consistent : b.Consistent) {init : EntryPoint σ} (entry : robot.entry? initName = some init)
    {trace : List (Made σ)} (orderly : robot.Orderly trace) (tries : ∀ u ∈ trace, u.Interrupted) :
    let found := { robot with state := Made.left robot.state trace }
    Keeps robot trace (start found b).calls (start found b).runner := by
  intro found
  let run := init.body [.board b] false found.state
  let v : Made σ :=
    ⟨⟨initName, [.board b]⟩, EntryPoint.settle init.line run.outcome, run.state⟩
  have made : robot.made? (Made.left robot.state trace) v.call = some v :=
    Robot.made?_init entry b _
  have alive (u : Made σ) (mem : u ∈ trace) := (tries u mem).not_failed
  have called : robot.Orderly (trace ++ [v]) := orderly.snoc
    ⟨alive, fun _ u mem _ => tries u mem, fun same => absurd same initName_ne_turnName⟩
  have left : Made.left robot.state (trace ++ [v]) = run.state := Made.left_append ..
  have same : found.entry? initName = some init := entry
  rcases start_cases same b with
    ⟨none, calls, -, runner⟩ | ⟨f, _, failed, rfl, calls, -, runner⟩ |
      ⟨a, logs, p, returned, begun, calls, state, fresh, going⟩
  · rw [calls, runner]
    refine keeps_cons made (Steady.keeps_nil ⟨sound, called, ?_, fun u mem => ?_⟩)
    · rw [left]
    · rcases List.mem_append.mp mem with mem | mem
      · exact tries u mem
      · rw [List.mem_singleton.mp mem]
        exact ⟨rfl, none⟩
  · rw [calls, runner]
    exact keeps_cons made (Steady.keeps_nil ⟨trivial, called,
      .inr ⟨trace, v, f, rfl, ⟨rfl, failed⟩, rfl⟩⟩)
  · have started : v.Started := ⟨rfl, a, returned⟩
    have alive (u : Made σ) (mem : u ∈ trace ++ [v]) (f : Failure) : ¬ u.FailedWith f := by
      rcases List.mem_append.mp mem with mem | mem
      · exact alive u mem f
      · rw [List.mem_singleton.mp mem]
        exact started.not_failed f
    obtain ⟨later, played, keeps⟩ := keeps_play sound consistent called alive
      (.inr ⟨v, by simp, started⟩) fresh going (state.trans left.symm) found.state
    rw [begun, played, calls]
    exact keeps_cons made keeps

/-- The calls of a turn keep a session steady. -/
theorem Steady.turn {robot : Robot σ} {trace : List (Made σ)} {r : Runner σ}
    (h : r.Steady robot trace) {b : Board} (consistent : b.Consistent) :
    Keeps robot trace (r.turn b).calls (r.turn b).runner := by
  obtain ⟨checked, orderly, standing⟩ := h
  cases r with
  | idle => exact Steady.keeps_nil ⟨checked, orderly, standing⟩
  | failed e => exact Steady.keeps_nil ⟨checked, orderly, standing⟩
  | ready found due =>
    cases due with
    | false =>
      obtain ⟨rfl, alive, begun⟩ := standing
      have sound : robot.fault? = none := checked
      obtain ⟨later, calls, keeps⟩ := keeps_play sound consistent orderly alive begun
        (p := { state := Made.left robot.state trace }) rfl rfl rfl _
      rw [Runner.turn, calls]
      exact keeps
    | true =>
      obtain ⟨rfl, tries⟩ := standing
      have sound : robot.fault? = none := checked
      cases entry : robot.entry? initName with
      | none =>
        let found := { robot with state := Made.left robot.state trace }
        have none : found.entry? initName = none := entry
        have begun : start found b = play found b { state := found.state } := start_none none b
        obtain ⟨later, calls, keeps⟩ := keeps_play sound consistent orderly
          (fun u mem => (tries u mem).not_failed) (.inl entry)
          (p := { state := Made.left robot.state trace }) rfl rfl rfl _
        rw [Runner.turn, begun, calls]
        exact keeps
      | some init => exact keeps_start sound consistent entry orderly tries

/-- `init` stays due behind an abandoned one. -/
theorem Steady.due {robot : Robot σ} {earlier : List (Made σ)} {v : Made σ} {r : Runner σ}
    (h : r.Steady robot (earlier ++ [v])) (interrupted : v.Interrupted) {init : EntryPoint σ}
    (entry : robot.entry? initName = some init) :
    r = .ready { robot with state := Made.left robot.state (earlier ++ [v]) } true := by
  obtain ⟨-, orderly, standing⟩ := h
  cases r with
  | idle => exact absurd standing (List.concat_ne_nil v earlier)
  | failed e =>
    rcases standing with none | ⟨before, u, f, same, failed, -⟩
    · exact absurd none (List.concat_ne_nil v earlier)
    · obtain ⟨-, last⟩ := List.append_inj' same rfl
      cases last
      exact absurd failed (interrupted.not_failed f)
  | ready found due =>
    cases due with
    | true =>
      rw [standing.1]
    | false =>
      obtain ⟨-, -, none | ⟨u, mem, started⟩⟩ := standing
      · rw [entry] at none
        cases none
      · rcases List.mem_append.mp mem with mem | mem
        · have tried := (orderly earlier v [] rfl).init interrupted.1 u mem started.1
          exact absurd started tried.not_started
        · rw [List.mem_singleton.mp mem] at started
          exact absurd started interrupted.not_started

/-- A session is failed once `init` has failed. -/
theorem Steady.failed {robot : Robot σ} {trace : List (Made σ)} {r : Runner σ}
    (h : r.Steady robot trace) {v : Made σ} (mem : v ∈ trace) {f : Failure}
    (failed : v.FailedWith f) : r = .failed (.initFailed (f.report robot.source)) := by
  obtain ⟨-, orderly, standing⟩ := h
  cases r with
  | idle =>
    rw [show trace = [] from standing] at mem
    cases mem
  | ready found due =>
    cases due with
    | true => exact absurd failed ((standing.2 v mem).not_failed f)
    | false => exact absurd failed (standing.2.1 v mem f)
  | failed e =>
    rcases standing with rfl | ⟨earlier, u, g, rfl, last, rfl⟩
    · cases mem
    · rcases List.mem_append.mp mem with mem | mem
      · exact absurd failed ((orderly earlier u [] rfl).alive v mem f)
      · rw [List.mem_singleton.mp mem] at failed
        cases failed.2.symm.trans last.2
        rfl

/-- The turn in which `init` is due begins with it. -/
theorem calls_start {robot : Robot σ} (sound : robot.fault? = none) {b : Board}
    (consistent : b.Consistent) {init : EntryPoint σ}
    (entry : robot.entry? initName = some init) :
    ∃ later, (start robot b).calls = ⟨initName, [.board b]⟩ :: later := by
  rcases start_cases entry b with ⟨-, calls, -⟩ | ⟨f, e, -, -, calls, -⟩ |
    ⟨v, logs, p, -, begun, calls, -, fresh, going⟩
  · exact ⟨[], calls⟩
  · exact ⟨[], calls⟩
  · obtain ⟨turn, defined⟩ := entry?_turn sound
    obtain ⟨played, -⟩ := play_accounts defined consistent fresh going
    rw [begun, played, calls]
    exact ⟨_, rfl⟩

/-- The next turn begins with `init` where it was abandoned. -/
theorem Steady.retries {robot : Robot σ} {earlier : List (Made σ)} {v : Made σ} {r : Runner σ}
    (h : r.Steady robot (earlier ++ [v])) (interrupted : v.Interrupted) {init : EntryPoint σ}
    (entry : robot.entry? initName = some init) :
    r.isReady = true ∧ ∀ b : Board, b.Consistent →
      ∃ later, (r.turn b).calls = ⟨initName, [.board b]⟩ :: later := by
  let found := { robot with state := Made.left robot.state (earlier ++ [v]) }
  obtain rfl : r = .ready found true := h.due interrupted entry
  have sound : found.fault? = none := h.checked
  have same : found.entry? initName = some init := entry
  exact ⟨rfl, fun b consistent => calls_start sound consistent same⟩

/-- A session that runs no turns, or gets no board, is left as it is. -/
theorem turnFrom_unread {r : Runner σ} {document : List UInt8}
    (unread : ¬ (r.isReady = true ∧ ∃ b, Json.decode Board document = .ok b)) :
    (r.turnFrom document).calls = [] ∧ (r.turnFrom document).runner = r := by
  cases r with
  | idle => exact ⟨rfl, rfl⟩
  | failed e => exact ⟨rfl, rfl⟩
  | ready robot due =>
    cases read : Json.decode Board document with
    | error e => simp only [turnFrom, check, read, and_self]
    | ok b => exact absurd ⟨rfl, b, read⟩ unread

theorem turnFrom_read {r : Runner σ} (ready : r.isReady = true) {document : List UInt8}
    {b : Board} (read : Json.decode Board document = .ok b) : r.turnFrom document = r.turn b := by
  cases r with
  | ready robot due => simp only [turnFrom, check, read]
  | idle => cases ready
  | failed e => cases ready

/-- A turn that fails the session is answered with the failure. -/
theorem answer_of_failed {r : Runner σ} {b : Board} {e : SessionError}
    (failed : (r.turn b).runner = .failed e) : (r.turn b).answer = some (.error e) := by
  have unplayed (robot : Robot σ) (p : Progress σ) : (play robot b p).runner ≠ .failed e := by
    obtain ⟨s, kept⟩ := runner_play robot b p
    rw [kept]
    exact nofun
  cases r with
  | idle => cases failed
  | failed _ =>
    cases failed
    rfl
  | ready robot due =>
    cases due with
    | false => exact absurd failed (unplayed _ _)
    | true =>
      rw [Runner.turn] at failed ⊢
      cases entry : robot.entry? initName with
      | none =>
        rw [start_none entry] at failed
        exact absurd failed (unplayed _ _)
      | some init =>
        rcases start_cases entry b with ⟨-, -, -, kept⟩ | ⟨f, _, -, rfl, -, answer, stopped⟩ |
          ⟨v, logs, p, -, begun, -⟩
        · rw [kept] at failed
          cases failed
        · rw [stopped] at failed
          cases failed
          exact answer
        · rw [begun] at failed
          exact absurd failed (unplayed _ _)

theorem turnFrom_answer_of_failed {r : Runner σ} {document : List UInt8} {e : SessionError}
    (failed : (r.turnFrom document).runner = .failed e) :
    (r.turnFrom document).answer = some (.error e) := by
  by_cases read : r.isReady = true ∧ ∃ b, Json.decode Board document = .ok b
  · obtain ⟨ready, b, read⟩ := read
    rw [turnFrom_read ready read] at failed ⊢
    exact answer_of_failed failed
  · rw [(turnFrom_unread read).2] at failed
    rw [failed]
    rfl

end Runner
end RobotTurn
