import RobotTurn.Host.Publish

/-! Compiled guests kept between runs, one file to a guest. A file that cannot be read back
counts as absent and is replaced. -/
namespace RobotTurn.Host

/-- How guests are compiled and kept. `key` names the file of a guest. -/
structure Compiler (μ : Type) where
  compile : List UInt8 → Except String μ
  key : List UInt8 → String
  serialize : μ → List UInt8
  deserialize : List UInt8 → Option μ

namespace Compiler

variable {μ : Type}

def fresh (c : Compiler μ) (source : List UInt8) : Except HostError μ :=
  (c.compile source).mapError .engine

/-- The file of a guest. -/
def entry (c : Compiler μ) (source : List UInt8) : String :=
  c.key source ++ ".cwasm"

/-- The kept guest, if there is one. -/
def kept? (c : Compiler μ) (dir : Directory) (source : List UInt8) : Option μ :=
  (dir.find? (c.entry source)).bind c.deserialize

/-- Takes a guest from the directory, or compiles it and keeps it there. A guest that cannot be
written there is not loaded. -/
def load (c : Compiler μ) (dir : Directory) (source : List UInt8)
    (origin : Publish.Origin := {}) : Except HostError μ × Directory :=
  match c.kept? dir source with
  | some guest => (.ok guest, dir)
  | none =>
    match c.fresh source with
    | .error e => (.error e, dir)
    | .ok guest =>
      let (w, dir) := Publish.write origin (c.entry source) (c.serialize guest) dir
      match w.fault? with
      | some e => (.error e, dir)
      | none => (.ok guest, dir)

end Compiler
end RobotTurn.Host
