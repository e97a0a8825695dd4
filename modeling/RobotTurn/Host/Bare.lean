import RobotTurn.Host.Cache
import RobotTurn.Host.Guest
import RobotTurn.Utf8

/-! Modules without code: at most a memory. A host can load them and then says which export
is missing. -/
namespace RobotTurn.Host

/-- A module that has no memory, or one of the given size under the given name. -/
structure Bare where
  memory : Option (String × Nat)
  deriving DecidableEq, Repr

namespace Bare

inductive Token where
  | opening
  | closing
  | word (s : String)
  | quoted (s : String)
  deriving DecidableEq, Repr

/-- Whether a character ends a word. -/
def delimits (c : Char) : Bool :=
  c.isWhitespace || c == '(' || c == ')' || c == '"'

/-- The tokens of a text; nothing if a quote is left open. -/
def tokens (cs : List Char) : Option (List Token) :=
  match cs with
  | [] => some []
  | c :: rest =>
    if c.isWhitespace then tokens rest
    else if c = '(' then (.opening :: ·) <$> tokens rest
    else if c = ')' then (.closing :: ·) <$> tokens rest
    else if c = '"' then
      match h : rest.dropWhile (· != '"') with
      | [] => none
      | _ :: after =>
        have : after.length < rest.length := by
          have := (List.dropWhile_sublist (p := (· != '"')) (l := rest)).length_le
          simp only [h, List.length_cons] at this
          omega
        (.quoted (String.ofList (rest.takeWhile (· != '"'))) :: ·) <$> tokens after
    else
      have : (rest.dropWhile (!delimits ·)).length ≤ rest.length :=
        (List.dropWhile_sublist _).length_le
      (.word (String.ofList (c :: rest.takeWhile (!delimits ·))) :: ·) <$>
        tokens (rest.dropWhile (!delimits ·))
termination_by cs.length

/-- The octets of the shortest binary module. -/
def header : List UInt8 := [0x00, 0x61, 0x73, 0x6D, 0x01, 0x00, 0x00, 0x00]

/-- Reads a module. Its memory has to be one that can be. -/
def compile (source : List UInt8) : Except String Bare :=
  if source = header then .ok ⟨none⟩
  else match Utf8.decode? source with
    | none => .error "malformed module"
    | some text =>
      match tokens text.toList with
      | some [.opening, .word "module", .closing] => .ok ⟨none⟩
      | some [.opening, .word "module", .opening, .word "memory", .opening, .word "export",
          .quoted name, .closing, .word pages, .closing, .closing] =>
        match pages.toNat? with
        | some n =>
          if n ≤ Memory.mostPages then .ok ⟨some (name, n)⟩ else .error "memory too large"
        | none => .error "malformed module"
      | _ => .error "malformed module"

/-- The text of a module. -/
def text (m : Bare) : String :=
  match m.memory with
  | none => "(module)"
  | some (name, pages) => s!"(module (memory (export \"{name}\") {pages}))"

/-- The guest of a module, which exports nothing but its memory. -/
def guest {σ : Type} (own : σ) (m : Bare) : Guest σ :=
  { plan := m.memory.map fun (name, pages) => { pages, exported := name = "memory" }
    own }

/-- A module is kept as its text, under its octets. -/
def compiler : Compiler Bare where
  compile := compile
  key source := String.join (source.map fun b => s!"{b}-")
  serialize m := Utf8.encode m.text
  deserialize bs := (compile bs).toOption

end Bare
end RobotTurn.Host
