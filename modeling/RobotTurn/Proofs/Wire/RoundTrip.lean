import RobotTurn.Proofs.Wire.World

/-! A board that has been read can be written and read again (`board_survives_rewriting`),
however the first document wrote it: with its members in any order or as a list, with unknown and
without optional members, with any text as the label of an entity. -/
namespace RobotTurn

open Json (Wire)

namespace Board

/-- A board that has been read is read off each of its documents, whichever order its tables are
written in. The boards that can be read are the consistent ones, and an entity can always be. -/
theorem board_survives_rewriting :
    (∀ (bs : List UInt8) (b : Board), Json.decode Board bs = .ok b →
      Json.decode Board (Json.encode b) = .ok b ∧
      ∀ v, b.Document v → Json.decode Board v.render = .ok b) ∧
    (∀ b : Board, (∃ bs, Json.decode Board bs = .ok b) ↔ b.Consistent) ∧
    ∀ e : Entity, Json.decode Entity (Json.encode e) = .ok e := by
  refine ⟨?_, ?_, ?_⟩
  · intro bs b read
    -- The check that the board has passed is all that its documents need.
    have consistent : b.Consistent := consistent_of_decode read
    have again (v : Json) (document : b.Document v) : Json.decode Board v.render = .ok b :=
      (document.reads consistent).decode
    exact ⟨again (Wire.toJson b) b.document_toJson, again⟩
  · intro b
    constructor
    · rintro ⟨bs, read⟩
      exact consistent_of_decode read
    · intro consistent
      exact ⟨Json.encode b, decode_encode consistent⟩
  · intro e
    exact Json.decode_encode e

/-! ## An odd document -/

/-- A document in list form. One entity is an object with its members in disorder, an unknown one
among them, the other a list with a label of its own; an id is on the roster twice. -/
def oddDocument : Json :=
  .list [.int 7, .text "Red",
    .object [("Blue", .list []), ("Red", .list [.text "b", .text "a", .text "b"])],
    .object [
      ("b", .object [("team", .text "Red"), ("note", .list [.object []]), ("health", .int 0),
        ("obj_type", .text "Unit"), ("coords", .list [.int (-2 ^ 63), .int 2]),
        ("id", .text "b")]),
      ("a", .list [.text "a", .list [.int 0, .int 0], .text "Unit", .text "Tank", .text "Red",
        .int (2 ^ 32 - 1)])],
    .list [.list [.text "a", .null], .list []]]

def oddUnit : Entity where
  id := "b"
  point := ⟨-9223372036854775808, 2⟩
  role := .unit .red 0

/-- The board of that document. -/
def oddBoard : Board where
  turn := 7
  team := .red
  red := ["b", "a", "b"]
  blue := []
  entities := Dict.ofList
    [("a", { id := "a", point := ⟨0, 0⟩, role := .unit .red 4294967295 }), ("b", oddUnit)]
  grid := [[some "a", none], []]

theorem board_survives_rewriting_odd :
    Json.decode Board oddDocument.render = .ok oddBoard ∧
      Json.encode oddBoard ≠ oddDocument.render ∧
      Json.decode Board (Json.encode oddBoard) = .ok oddBoard ∧
      (∃ v : Json, v.render ≠ Json.encode oddBoard ∧
        Json.decode Board v.render = .ok oddBoard) ∧
      Json.decode Entity (Json.encode oddUnit) = .ok oddUnit := by
  have read : Json.decode Board oddDocument.render = .ok oddBoard := by decide +kernel
  have ⟨boards, _, entities⟩ := board_survives_rewriting
  have ⟨again, others⟩ := boards _ _ read
  -- Blue's roster before Red's, and the later entity before the other.
  have turned := Document.intro (b := oddBoard) (.swap Team.red Team.blue [])
    (.swap ("a", _) ("b", oddUnit) [])
  refine ⟨read, ?_, again, ⟨_, ?_, others _ turned⟩, entities oddUnit⟩
  · decide +kernel
  · decide +kernel

end Board

end RobotTurn
