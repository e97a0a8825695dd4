import RobotTurn.Proofs.Dict
import RobotTurn.Proofs.Json.Lawful
import RobotTurn.Wire.World

/-! Boards and what stands on them are read back as they were written, in whichever order the
tables of a board are written (`Document.reads`). A document is read as the board that it says, if
that board passes its own check (`decode_ok_iff`), and `error?_eq_none_iff` says what the check
asks for. -/
namespace RobotTurn

open Json (Wire Lawful Solid Reads Folds Record Reader Choice)

theorem Wire.reads_word64 (expected : String) (n : UInt64) :
    Reads (Wire.word64 expected) (.int n.toNat) n := by
  have bound := n.toNat_lt
  have read := (Json.reads_integer expected (show (0 : Int) ≤ n.toNat by omega)
    (show (n.toNat : Int) ≤ 2 ^ 64 - 1 by omega) (by omega) (by omega)).map (·.toNat.toUInt64)
  rwa [Int.toNat_natCast, Nat.toUInt64_eq, UInt64.ofNat_toNat] at read

instance : Lawful Int64 where
  reads n := by
    have low := n.le_toInt
    have high := n.toInt_lt
    have read := (Json.reads_integer "i64" low (show n.toInt ≤ 2 ^ 63 - 1 by omega) low
      (by omega)).map Int64.ofInt
    rwa [Int64.ofInt_toInt] at read

instance : Lawful UInt32 where
  reads n := by
    have bound := n.toNat_lt
    have read := (Json.reads_integer "u32" (show (0 : Int) ≤ n.toNat by omega)
      (show (n.toNat : Int) ≤ 2 ^ 32 - 1 by omega) (by omega) (by omega)).map (·.toNat.toUInt32)
    rwa [Int.toNat_natCast, Nat.toUInt32_eq, UInt32.ofNat_toNat] at read

instance : Lawful Point where
  reads p := ((Lawful.reads p.x).pair (Lawful.reads p.y)).map fun p => Point.mk p.1 p.2

instance : Lawful Direction where
  reads d := by cases d <;> exact Choice.reads_bare rfl

instance : Lawful Team where
  reads t := by cases t <;> exact Choice.reads_bare rfl

instance : Solid Team := ⟨nofun⟩

instance : Solid UInt32 := ⟨nofun⟩

instance : Lawful Action.Kind where
  reads k := by cases k <;> exact Choice.reads_bare rfl

instance : Lawful Entity.Kind where
  reads k := by cases k <;> exact Choice.reads_bare rfl

instance : Lawful Action where
  reads a := by
    refine Record.reads (d := { kind := some a.kind, direction := some a.direction }) ?_ rfl
    refine .cons (Record.member_ok rfl rfl ((Lawful.reads a.kind).bind_pure _)) ?_
    exact .cons (Record.member_ok rfl rfl ((Lawful.reads a.direction).bind_pure _)) (.nil _)

instance : Solid Action := ⟨nofun⟩

namespace Entity

theorem checked_ok_iff {α : Type} {x : Except BoardError α} {a : α} :
    checked x = .ok a ↔ x = .ok a := by
  cases x with
  | error e => exact ⟨nofun, nofun⟩
  | ok b =>
    constructor
    · rintro ⟨⟩
      rfl
    · rintro ⟨⟩
      rfl

/-- The members that every entity has. -/
theorem folds_head {d : Draft} {ms : List (String × Json)} (e : Entity) (label : String)
    (h : Folds record.member ms { id := some e.id, point := some e.point, kind := some e.kind
                                  label := some (some label) } d) :
    Folds record.member (("id", Wire.toJson e.id) :: ("coords", Wire.toJson e.point) ::
      ("obj_type", Wire.toJson e.kind) :: ("type", Wire.toJson label) :: ms) record.draft d := by
  refine .cons (Record.member_ok rfl rfl ((Lawful.reads e.id).bind_pure _)) ?_
  refine .cons (Record.member_ok rfl rfl ((Lawful.reads e.point).bind_pure _)) ?_
  refine .cons (Record.member_ok rfl rfl ((Lawful.reads e.kind).bind_pure _)) ?_
  exact .cons (Record.member_ok rfl rfl ((Lawful.reads (some label)).bind_pure _)) h

end Entity

instance : Lawful Entity where
  reads e := by
    cases e with
    | mk id point role =>
      cases role with
      | unit team health =>
        refine Record.reads (Entity.folds_head ⟨id, point, .unit team health⟩ "Soldier" <|
          .cons (Record.member_ok rfl rfl ((Lawful.reads (some team)).bind_pure _)) <|
          .cons (Record.member_ok rfl rfl ((Lawful.reads (some health)).bind_pure _)) (.nil _)) ?_
        rfl
      | terrain =>
        exact Record.reads (Entity.folds_head ⟨id, point, .terrain⟩ "Wall" (.nil _)) rfl

namespace Board

theorem filingError?_eq_none_iff (b : Board) :
    b.filingError? = none ↔ ∀ e ∈ b.entities.entries, e.1 = e.2.id := by
  simp [filingError?]

theorem rosterError?_eq_none_iff (b : Board) (t : Team) :
    b.rosterError? t = none ↔
      ∀ id ∈ b.roster t, ∃ e, b.entity? id = some e ∧ e.team? = some t := by
  rw [rosterError?, List.findSome?_eq_none_iff]
  refine forall₂_congr fun id _ => ?_
  cases h : b.entity? id <;> simp

theorem cellError?_eq_none_iff (b : Board) (x y : Nat) (cell : Option String) :
    b.cellError? x y cell = none ↔ ∀ id, some id = cell → (b.entity? id).isSome := by
  cases cell <;> simp [cellError?, Option.isSome_iff_ne_none]

theorem gridError?_eq_none_iff (b : Board) :
    b.gridError? = none ↔ ∀ row ∈ b.grid, ∀ id, some id ∈ row → (b.entity? id).isSome := by
  simp only [gridError?, List.findSome?_eq_none_iff, cellError?_eq_none_iff, Prod.forall,
    List.mem_zipIdx_iff_getElem?]
  constructor
  · intro h row hr id hid
    obtain ⟨y, hy⟩ := List.mem_iff_getElem?.mp hr
    obtain ⟨x, hx⟩ := List.mem_iff_getElem?.mp hid
    exact h row y hy (some id) x hx id rfl
  · rintro h row y hy _ x hx id rfl
    exact h row (List.mem_iff_getElem?.mpr ⟨y, hy⟩) id (List.mem_iff_getElem?.mpr ⟨x, hx⟩)

/-- A board passes its check exactly if it is consistent. -/
theorem error?_eq_none_iff (b : Board) : b.error? = none ↔ b.Consistent := by
  simp only [error?, Option.orElse_eq_orElse, Option.orElse_eq_or, Option.or_eq_none_iff,
    filingError?_eq_none_iff, rosterError?_eq_none_iff, gridError?_eq_none_iff]
  constructor
  · rintro ⟨filed, red, blue, placed⟩
    exact ⟨filed, fun t => by cases t; exacts [red, blue], placed⟩
  · rintro ⟨filed, rostered, placed⟩
    exact ⟨filed, rostered .red, rostered .blue, placed⟩

theorem consistent?_ok_iff {w b : Board} : w.consistent? = .ok b ↔ b = w ∧ w.Consistent := by
  rw [consistent?, ← error?_eq_none_iff]
  cases checked : w.error? with
  | some e => exact ⟨nofun, nofun⟩
  | none =>
    constructor
    · intro same
      cases same
      exact ⟨rfl, rfl⟩
    · rintro ⟨rfl, -⟩
      rfl

/-- The record of a board is finished with the check of the board. -/
theorem finish_ok_iff {d : Draft} {b : Board} :
    record.finish d = .ok b ↔ d.finish = .ok b ∧ b.Consistent := by
  have checks : record.finish d = d.finish >>= fun w => Entity.checked w.consistent? := rfl
  rw [checks]
  cases d.finish with
  | error e => exact ⟨nofun, nofun⟩
  | ok w =>
    show Entity.checked w.consistent? = .ok b ↔ _
    rw [Entity.checked_ok_iff, consistent?_ok_iff]
    constructor
    · rintro ⟨rfl, consistent⟩
      exact ⟨rfl, consistent⟩
    · rintro ⟨⟨⟩, consistent⟩
      exact ⟨rfl, consistent⟩

/-- The documents of a board. Its two tables list their members in any order. -/
inductive Document (b : Board) : Json → Prop
  | intro {teams : List Team} {entities : List (String × Entity)}
      (both : teams.Perm Team.all) (all : entities.Perm b.entities.entries) :
      Document b (.object [
        ("turn", .int b.turn.toNat),
        ("team", Wire.toJson b.team),
        ("teams", .object (teams.map fun t => (t.name, Wire.toJson (b.roster t)))),
        ("objs", .object (entities.map fun e => (e.1, Wire.toJson e.2))),
        ("grid", Wire.toJson b.grid)])

theorem document_toJson (b : Board) : b.Document (Wire.toJson b) := .intro (.refl _) (.refl _)

theorem teamKey_name (t : Team) (bs : List UInt8) : teamKey t.name bs = .ok (t, bs) := by
  cases t <;> rfl

theorem rosters_of_perm (b : Board) {teams : List Team} (both : teams.Perm Team.all) :
    teams.foldl (fun (r : Rosters) t => r.put t (b.roster t)) {} =
      { red := b.red, blue := b.blue } := by
  have swap (r : Rosters) (t u : Team) :
      (r.put t (b.roster t)).put u (b.roster u) = (r.put u (b.roster u)).put t (b.roster t) := by
    cases t <;> cases u <;> rfl
  rw [both.foldl_eq' (fun t _ u _ r => swap r t u)]
  rfl

theorem reads_rosters (b : Board) {teams : List Team} (both : teams.Perm Team.all) :
    Reads readRosters (.object (teams.map fun t => (t.name, Wire.toJson (b.roster t))))
      { red := b.red, blue := b.blue } := by
  rw [← rosters_of_perm b both]
  apply Json.reads_mapping
  generalize ({} : Rosters) = r
  clear both
  induction teams generalizing r with
  | nil => exact .nil r
  | cons t ts ih =>
    exact .cons ((Lawful.reads (b.roster t)).member (teamKey_name t) Rosters.put r) (ih _)

/-- A consistent board is read off each of its documents. -/
theorem Document.reads {b : Board} {v : Json} (document : b.Document v) (h : b.Consistent) :
    Reads Wire.read v b := by
  obtain @⟨teams, es, both, all⟩ := document
  have entities : Reads Wire.read (.object (es.map fun e => (e.1, Wire.toJson e.2))) b.entities := by
    rw [← Dict.ofList_of_perm all]
    exact Json.reads_entries Lawful.reads es
  refine Record.reads (d := { turn := some b.turn, team := some b.team
                              rosters := some ⟨b.red, b.blue⟩
                              entities := some b.entities, grid := some b.grid }) ?_ ?_
  · refine .cons (Record.member_ok rfl rfl ((Wire.reads_word64 "u64" b.turn).bind_pure _)) ?_
    refine .cons (Record.member_ok rfl rfl ((Lawful.reads b.team).bind_pure _)) ?_
    refine .cons (Record.member_ok rfl rfl ((reads_rosters b both).bind_pure _)) ?_
    refine .cons (Record.member_ok rfl rfl (entities.bind_pure _)) ?_
    exact .cons (Record.member_ok rfl rfl ((Lawful.reads b.grid).bind_pure _)) (.nil _)
  · exact finish_ok_iff.mpr ⟨rfl, h⟩

/-- A consistent board is read back as it was written. -/
theorem reads {b : Board} (h : b.Consistent) : Reads Wire.read (Wire.toJson b) b :=
  (document_toJson b).reads h

theorem decode_encode {b : Board} (h : b.Consistent) : Json.decode Board (Json.encode b) = .ok b :=
  (reads h).decode

/-- What a document says of a board, consistent or not. -/
def described? (bs : List UInt8) : Option Board :=
  match Json.whole record.raw.read bs with
  | .ok (d, _) => d.finish.toOption
  | .error _ => none

theorem described?_eq_some_iff {bs : List UInt8} {b : Board} :
    described? bs = some b ↔
      ∃ d rest, Json.whole record.raw.read bs = .ok (d, rest) ∧ d.finish = .ok b := by
  rw [described?]
  cases read : Json.whole record.raw.read bs with
  | error e => exact ⟨nofun, nofun⟩
  | ok p =>
    obtain ⟨d, rest⟩ := p
    dsimp only
    constructor
    · intro finished
      cases drafted : d.finish with
      | error e => rw [drafted] at finished; cases finished
      | ok c => rw [drafted] at finished; cases finished; exact ⟨d, rest, rfl, drafted⟩
    · rintro ⟨_, _, ⟨⟩, finished⟩
      rw [finished]
      rfl

/-- A board is read from the documents that say it, if it is consistent. -/
theorem decode_ok_iff {bs : List UInt8} {b : Board} :
    Json.decode Board bs = .ok b ↔ described? bs = some b ∧ b.Consistent := by
  rw [Json.decode_ok_iff, described?_eq_some_iff]
  constructor
  · rintro ⟨rest, read⟩
    obtain ⟨after, read, blank⟩ := Json.whole_ok_iff.mp read
    obtain ⟨d, drafted, finished⟩ := Record.read_ok_iff.mp read
    obtain ⟨finished, consistent⟩ := finish_ok_iff.mp finished
    exact ⟨⟨d, rest, Json.whole_ok_iff.mpr ⟨after, drafted, blank⟩, finished⟩, consistent⟩
  · rintro ⟨⟨d, rest, read, finished⟩, consistent⟩
    obtain ⟨after, drafted, blank⟩ := Json.whole_ok_iff.mp read
    have passed : record.finish d = .ok b := finish_ok_iff.mpr ⟨finished, consistent⟩
    have read := Record.read_ok_iff.mpr ⟨d, drafted, passed⟩
    exact ⟨rest, Json.whole_ok_iff.mpr ⟨after, read, blank⟩⟩

/-- Only consistent boards are read. -/
theorem consistent_of_decode {bs : List UInt8} {b : Board} (h : Json.decode Board bs = .ok b) :
    b.Consistent :=
  (decode_ok_iff.mp h).2

/-- An entity is found under its own id. -/
theorem Consistent.id_eq {b : Board} (h : b.Consistent) {id : String} {e : Entity}
    (found : b.entity? id = some e) : e.id = id := by
  obtain ⟨before, after, entries, -⟩ := List.lookup_eq_some_iff.mp found
  exact (h.filed (id, e) (by simp [entries])).symm

end Board
end RobotTurn
