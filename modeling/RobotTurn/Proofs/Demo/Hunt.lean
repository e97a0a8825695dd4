import RobotTurn.Demo
import RobotTurn.Proofs.Board.Queries
import RobotTurn.Proofs.Geometry.Walk
import RobotTurn.Proofs.Robot.Ledger

/-! What a hunter does. Its target is the least of the other team by walk and id, so that neither
the order nor the repetitions of a roster matter (`target?_eq_some_iff`). It attacks a target that
is one step away, and else it takes the first way round that is free, if there is one
(`approach_decides`). -/
namespace RobotTurn

/-! ## Cells -/

/-- A point of the grid where something stands. -/
def Board.Occupied (b : Board) (p : Point) : Prop := ∃ id, b.CellAt p (some id)

theorem Board.isNone_entityAt?_iff {b : Board} (consistent : b.Consistent) {p : Point} :
    (b.entityAt? p).isNone ↔ ¬ b.Occupied p := by
  have held := id_entityAt? consistent p
  rw [Option.isNone_iff_eq_none]
  constructor
  · rintro none ⟨id, stands⟩
    rw [none, stands.idAt?] at held
    cases held
  · intro free
    cases found : b.entityAt? p with
    | none => rfl
    | some e =>
      rw [found] at held
      exact absurd ⟨e.id, cellAt_of_idAt? held.symm⟩ free

namespace Demo

variable {σ : Type} {b : Board}

/-! ## The target -/

/-- An entity that is nearer than another, or as near and not behind it by id. -/
def NoLater (here : Point) (a b : Entity) : Prop :=
  here.walk a.point < here.walk b.point ∨
    here.walk a.point = here.walk b.point ∧ a.id ≤ b.id

theorem closer_iff {here : Point} {a b : Entity} : closer here a b ↔
    here.walk a.point < here.walk b.point ∨
      here.walk a.point = here.walk b.point ∧ a.id < b.id := by
  simp [closer]

namespace NoLater

variable {here : Point} {a b c : Entity}

theorem refl (here : Point) (a : Entity) : NoLater here a a :=
  .inr ⟨rfl, String.le_refl _⟩

theorem of_closer (h : closer here a b) : NoLater here a b := by
  rcases closer_iff.mp h with nearer | ⟨level, before⟩
  · exact .inl nearer
  · exact .inr ⟨level, String.not_lt.mp (String.lt_asymm before)⟩

theorem of_not_closer (h : ¬ closer here a b) : NoLater here b a := by
  rw [closer_iff, not_or, not_and, UInt64.not_lt] at h
  obtain ⟨near, behind⟩ := h
  by_cases level : here.walk a.point = here.walk b.point
  · exact .inr ⟨level.symm, String.not_lt.mp (behind level)⟩
  · exact .inl (UInt64.lt_of_le_of_ne near (Ne.symm level))

theorem trans (h : NoLater here a b) (h' : NoLater here b c) : NoLater here a c := by
  rcases h with nearer | ⟨level, before⟩
  · rcases h' with nearer' | ⟨level', -⟩
    · exact .inl (UInt64.lt_trans nearer nearer')
    · exact .inl (level' ▸ nearer)
  · rcases h' with nearer' | ⟨level', before'⟩
    · exact .inl (level ▸ nearer')
    · exact .inr ⟨level.trans level', String.le_trans before before'⟩

theorem id_eq (h : NoLater here a b) (h' : NoLater here b a) : a.id = b.id := by
  rcases h with nearer | ⟨level, before⟩
  · rcases h' with nearer' | ⟨level', -⟩
    · exact absurd nearer' (UInt64.lt_asymm nearer)
    · exact absurd nearer (level' ▸ UInt64.lt_irrefl _)
  · rcases h' with nearer' | ⟨-, before'⟩
    · exact absurd nearer' (level ▸ UInt64.lt_irrefl _)
    · exact String.le_antisymm before before'

end NoLater

/-- Going through some entities, the one that is kept comes no later than those that were passed. -/
theorem foldl_closer (here : Point) (e : Entity) (es : List Entity) :
    let kept := es.foldl (fun best e => if closer here e best then e else best) e
    kept ∈ e :: es ∧ ∀ x ∈ e :: es, NoLater here kept x := by
  induction es generalizing e with
  | nil =>
    intro kept
    refine ⟨List.mem_singleton_self e, fun x mem => ?_⟩
    rw [List.mem_singleton.mp mem]
    exact .refl here e
  | cons a es ih =>
    simp only [List.foldl_cons, List.forall_mem_cons] at ih ⊢
    by_cases wins : closer here a e
    · rw [if_pos wins]
      obtain ⟨mem, first, rest⟩ := ih a
      exact ⟨List.mem_cons_of_mem e mem, first.trans (.of_closer wins), first, rest⟩
    · rw [if_neg wins]
      obtain ⟨mem, first, rest⟩ := ih e
      refine ⟨?_, first, first.trans (.of_not_closer wins), rest⟩
      exact List.mem_cons.mpr ((List.mem_cons.mp mem).imp_right (List.mem_cons_of_mem a))

/-- The enemy that no other one comes before. -/
structure Target (b : Board) (unit target : Entity) : Prop where
  enemy : target ∈ b.entitiesOf b.otherTeam
  least : ∀ e ∈ b.entitiesOf b.otherTeam, NoLater unit.point target e

theorem target?_eq_none_iff {unit : Entity} :
    target? b unit = none ↔ b.entitiesOf b.otherTeam = [] := by
  rw [target?]
  cases b.entitiesOf b.otherTeam with
  | nil => exact ⟨fun _ => rfl, fun _ => rfl⟩
  | cons e es => exact ⟨nofun, nofun⟩

theorem Target.of_target? {unit target : Entity} (chosen : target? b unit = some target) :
    Target b unit target := by
  rw [target?] at chosen
  cases enemies : b.entitiesOf b.otherTeam with
  | nil =>
    rw [enemies] at chosen
    cases chosen
  | cons e es =>
    rw [enemies] at chosen
    cases chosen
    obtain ⟨enemy, least⟩ := foldl_closer unit.point e es
    exact ⟨enemies ▸ enemy, enemies ▸ least⟩

/-- Ids are told apart, so there is no second target. -/
theorem Target.unique (consistent : b.Consistent) {unit target other : Entity}
    (h : Target b unit target) (h' : Target b unit other) : other = target := by
  have known {e : Entity} (enemy : e ∈ b.entitiesOf b.otherTeam) : b.entity? e.id = some e := by
    obtain ⟨id, -, found⟩ := List.mem_filterMap.mp enemy
    rwa [consistent.id_eq found]
  have same : other.id = target.id := (h'.least target h.enemy).id_eq (h.least other h'.enemy)
  exact Option.some.inj ((known h'.enemy).symm.trans (same ▸ known h.enemy))

theorem target?_eq_some_iff (consistent : b.Consistent) {unit target : Entity} :
    target? b unit = some target ↔ Target b unit target := by
  constructor
  · exact .of_target?
  · intro h
    cases chosen : target? b unit with
    | none =>
      have enemy := h.enemy
      rw [target?_eq_none_iff.mp chosen] at enemy
      cases enemy
    | some other => rw [h.unique consistent (.of_target? chosen)]

/-! ## The decision -/

/-- The ways that a hunter tries, in this order. -/
def ways (toward : Direction) : List Direction := [toward, toward.right, toward.left]

theorem opposite_not_mem_ways (toward : Direction) : toward.opposite ∉ ways toward := by
  cases toward <;> decide

/-- The first of some directions that leads to a free cell. -/
def FirstFree (b : Board) (here : Point) (ds : List Direction) (d : Direction) : Prop :=
  ∃ before after, ds = before ++ d :: after ∧ ¬ b.Occupied (here.step d) ∧
    ∀ x ∈ before, b.Occupied (here.step x)

theorem sidestep?_eq_some_iff (consistent : b.Consistent) {here : Point} {toward d : Direction} :
    sidestep? b here toward = some d ↔ FirstFree b here (ways toward) d := by
  simp only [sidestep?, FirstFree, ways, List.find?_eq_some_iff_append, Bool.not_eq_true',
    ← Bool.not_eq_true, Board.isNone_entityAt?_iff consistent, Classical.not_not]
  constructor
  · rintro ⟨free, before, after, split, taken⟩
    exact ⟨before, after, split, free, taken⟩
  · rintro ⟨before, after, split, free, taken⟩
    exact ⟨free, before, after, split, taken⟩

theorem sidestep?_eq_none_iff (consistent : b.Consistent) {here : Point} {toward : Direction} :
    sidestep? b here toward = none ↔ ∀ d ∈ ways toward, b.Occupied (here.step d) := by
  simp only [sidestep?, ways, List.find?_eq_none, Board.isNone_entityAt?_iff consistent,
    Classical.not_not]

/-- What a hunter at a point may do about a target at another one. -/
structure Decision (b : Board) (here target : Point) (action : Option Action) : Prop where
  attacks : (∃ d, action = some (.attack d)) ↔ here.walk target = 1
  hits : ∀ d, action = some (.attack d) → here.Unwrapped d ∧ here.step d = target
  moves : here.walk target ≠ 1 → ∀ d,
    action = some (.move d) ↔ FirstFree b here (ways (here.toward target)) d
  stays : here.walk target ≠ 1 →
    (action = none ↔ ∀ d ∈ ways (here.toward target), b.Occupied (here.step d))
  neverBack : ∀ d, action = some (.move d) → d ≠ (here.toward target).opposite
  nearer : here ≠ target → action = some (.move (here.toward target)) →
    (here.step (here.toward target)).steps target + 1 = here.steps target

theorem approach_decides (consistent : b.Consistent) (here : Point) (target : Entity) :
    Decision b here target.point (approach b here target) := by
  by_cases one : here.walk target.point = 1
  · have attack : approach b here target = some (.attack (here.toward target.point)) := if_pos one
    rw [attack]
    constructor
    case attacks => exact ⟨fun _ => one, fun _ => ⟨_, rfl⟩⟩
    case hits =>
      rintro d ⟨⟩
      exact Point.walk_eq_one_iff.mp one
    case moves => exact fun far => absurd one far
    case stays => exact fun far => absurd one far
    case neverBack => exact nofun
    case nearer => exact nofun
  · have move : approach b here target =
        (sidestep? b here (here.toward target.point)).map .move := if_neg one
    have moves (d : Direction) : approach b here target = some (.move d) ↔
        FirstFree b here (ways (here.toward target.point)) d := by
      rw [move, ← sidestep?_eq_some_iff consistent, Option.map_eq_some_iff]
      constructor
      · rintro ⟨_, chosen, ⟨⟩⟩
        exact chosen
      · exact fun chosen => ⟨d, chosen, rfl⟩
    have spares (d : Direction) : approach b here target ≠ some (.attack d) := by
      rw [move]
      intro attack
      obtain ⟨_, -, ⟨⟩⟩ := Option.map_eq_some_iff.mp attack
    constructor
    case attacks =>
      constructor
      · rintro ⟨d, attack⟩
        exact absurd attack (spares d)
      · exact fun near => absurd near one
    case hits => exact fun d attack => absurd attack (spares d)
    case moves => exact fun _ => moves
    case stays =>
      intro _
      rw [move, Option.map_eq_none_iff, sidestep?_eq_none_iff consistent]
    case neverBack =>
      rintro d forward rfl
      obtain ⟨before, after, split, -⟩ := (moves _).mp forward
      exact opposite_not_mem_ways (here.toward target.point) (split ▸ List.mem_append_cons_self)
    case nearer => exact fun apart _ => Point.steps_step_toward apart

/-! ## The turn -/

theorem hunt_alone {unit : Entity} (alone : target? b unit = none) (debug : Bool) (s : σ) :
    hunt b unit debug s = { outcome := .returned none, state := s } := by
  simp only [hunt, alone]
  rfl

theorem hunt_chosen {unit target : Entity} (chosen : target? b unit = some target) (s : σ) :
    hunt b unit true s = {
      events := [.set "target" target.id, .inspect target]
      outcome := .returned (approach b unit.point target)
      state := s } := by
  simp only [hunt, chosen]
  rfl

/-- Boards with the same entities in the same cells, on which the other team lists the same ids, in
any order and any number of times. -/
structure Relisted (b c : Board) : Prop where
  team : c.team = b.team
  entities : c.entities = b.entities
  grid : c.grid = b.grid
  enemies : ∀ id, id ∈ c.roster b.otherTeam ↔ id ∈ b.roster b.otherTeam

namespace Relisted

variable {c : Board}

theorem entity? (same : Relisted b c) : c.entity? = b.entity? := by
  funext id
  rw [Board.entity?, Board.entity?, same.entities]

theorem mem_entitiesOf (same : Relisted b c) (e : Entity) :
    e ∈ c.entitiesOf c.otherTeam ↔ e ∈ b.entitiesOf b.otherTeam := by
  have other : c.otherTeam = b.otherTeam := congrArg Team.opposite same.team
  simp only [Board.entitiesOf, List.mem_filterMap, other, same.entity?, same.enemies]

theorem target? (same : Relisted b c) (consistent : b.Consistent) (unit : Entity) :
    Demo.target? c unit = Demo.target? b unit := by
  cases chosen : Demo.target? c unit with
  | none =>
    rw [eq_comm, target?_eq_none_iff, List.eq_nil_iff_forall_not_mem]
    intro e enemy
    rw [← same.mem_entitiesOf, target?_eq_none_iff.mp chosen] at enemy
    cases enemy
  | some target =>
    rw [eq_comm, target?_eq_some_iff consistent]
    obtain ⟨enemy, least⟩ := Target.of_target? chosen
    exact ⟨(same.mem_entitiesOf target).mp enemy,
      fun e listed => least e ((same.mem_entitiesOf e).mpr listed)⟩

theorem hunt (same : Relisted b c) (consistent : b.Consistent) (unit : Entity) :
    (Demo.hunt c unit : Act σ (Option Action)) = Demo.hunt b unit := by
  have cells : c.entityAt? = b.entityAt? := by
    funext p
    simp only [Board.entityAt?, Board.idAt?, same.entity?, same.grid]
  simp only [Demo.hunt, approach, sidestep?, same.target? consistent, cells]

end Relisted

/-- On a consistent board a hunter without enemies does nothing. With enemies it has exactly one
target, the least of them by walk and id, which it enters in its table and points at, and it decides
what to do about that one. How often and in which order the enemies are listed makes no
difference. -/
theorem hunt_decides (consistent : b.Consistent) (unit : Entity) (s : σ) :
    let run := hunt b unit true s
    run.state = s ∧
    (b.roster b.otherTeam = [] → run.events = [] ∧ run.outcome = .returned none) ∧
    (b.roster b.otherTeam ≠ [] → ∃ target action,
      (∀ e, Target b unit e ↔ e = target) ∧
      Ledger.ofEvents true run.events = {
        table := .ofList [("target", target.id)], inspections := [target.id] } ∧
      run.outcome = .returned action ∧ Decision b unit.point target.point action) ∧
    ∀ c, Relisted b c → hunt c unit true s = run := by
  intro run
  have listed : b.entitiesOf b.otherTeam = [] ↔ b.roster b.otherTeam = [] := by
    rw [← Board.ids_entitiesOf consistent, List.map_eq_nil_iff]
  have relisted (c : Board) (same : Relisted b c) : hunt c unit true s = run := by
    rw [same.hunt consistent]
  cases chosen : target? b unit with
  | none =>
    have none : b.roster b.otherTeam = [] := listed.mp (target?_eq_none_iff.mp chosen)
    have idle : run = { outcome := .returned .none, state := s } := hunt_alone chosen true s
    rw [idle] at relisted ⊢
    exact ⟨rfl, fun _ => ⟨rfl, rfl⟩, fun some => absurd none some, relisted⟩
  | some target =>
    have busy : run = _ := hunt_chosen chosen s
    rw [busy] at relisted ⊢
    have least := Target.of_target? chosen
    refine ⟨rfl, fun none => ?_, fun _ => ⟨target, _, fun e => ?_, rfl, rfl, ?_⟩, relisted⟩
    · have enemy := least.enemy
      rw [listed.mpr none] at enemy
      cases enemy
    · constructor
      · exact least.unique consistent
      · rintro rfl
        exact least
    · exact approach_decides consistent unit.point target

/-- A hunter between two enemies at the same distance, with a wall on the way to the one that is
first by id. -/
def walled : Board where
  turn := 1
  team := .red
  red := ["r"]
  blue := ["z", "a", "z"]
  entities := .ofList [
    ("a", ⟨"a", ⟨0, 2⟩, .unit .blue 5⟩),
    ("r", ⟨"r", ⟨2, 2⟩, .unit .red 5⟩),
    ("w", ⟨"w", ⟨1, 2⟩, .terrain⟩),
    ("z", ⟨"z", ⟨2, 0⟩, .unit .blue 5⟩)]
  grid := [[none, none, some "z"], [], [some "a", some "w", some "r"]]

/-- It turns right before the wall. -/
theorem hunt_decides_walled :
    let unit : Entity := ⟨"r", ⟨2, 2⟩, .unit .red 5⟩
    let target : Entity := ⟨"a", ⟨0, 2⟩, .unit .blue 5⟩
    walled.Consistent ∧ walled.roster walled.otherTeam ≠ [] ∧ Target walled unit target ∧
      Decision walled unit.point target.point (some (.move .north)) ∧
      FirstFree walled unit.point [.west, .north, .south] .north ∧
      hunt { walled with blue := ["a", "z"] } unit true () = hunt walled unit true () := by
  intro unit target
  have consistent : walled.Consistent := (Board.error?_eq_none_iff walled).mp (by decide)
  have enemies : walled.roster walled.otherTeam ≠ [] := nofun
  obtain ⟨-, -, goes, relisted⟩ := hunt_decides consistent unit ()
  obtain ⟨chosen, action, least, -, acted, decision⟩ := goes enemies
  have first : target? walled unit = some target := by decide
  have north : approach walled unit.point target = some (.move .north) := by decide
  obtain rfl : target = chosen := (least target).mp (.of_target? first)
  rw [hunt_chosen first, north] at acted
  cases acted
  have far : unit.point.walk target.point ≠ 1 := by decide
  have ahead : unit.point.toward target.point = .west := by decide
  have free := (decision.moves far .north).mp rfl
  rw [ahead] at free
  have listed (id : String) : id ∈ ["a", "z"] ↔ id ∈ ["z", "a", "z"] := by grind
  refine ⟨consistent, enemies, .of_target? first, decision, free, relisted _ ?_⟩
  exact ⟨rfl, rfl, rfl, listed⟩

end Demo
end RobotTurn
