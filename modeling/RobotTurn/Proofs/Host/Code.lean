import RobotTurn.Host.Guest

/-! Running the code of a guest. A part that returns is followed by the rest on the machine that it
has left (`Code.run_bind_returned`), and one that does not ends the whole (`run_bind_stopped`).
Loads and stores reach exactly what lies inside the memory. -/
namespace RobotTurn.Host

variable {σ α β : Type}

theorem Code.run_bind (c : Code σ α) (f : α → Code σ β) (m : Machine σ) :
    (c >>= f).run m = match c.run m with
      | (.returned a, left) => (f a).run left
      | (.trapped, left) => (.trapped, left)
      | (.hung, left) => (.hung, left) := by
  show (c.bind f).run m = _
  induction c generalizing m with
  | done a => rfl
  | trap => rfl
  | hang => rfl
  | get next ih => exact ih _ _
  | set s next ih => exact ih _
  | print stream bs next ih => exact ih _
  | load address length next ih =>
    simp only [bind, run]
    cases m.memory.read? address length with
    | none => rfl
    | some bs => exact ih bs m
  | store address bs next ih =>
    simp only [bind, run]
    cases m.memory.write? address bs with
    | none => rfl
    | some memory => exact ih _
  | environment next ih => exact ih _ _
  | growMemory pages next ih => exact ih _ _
  | growTable count next ih => exact ih _ _

theorem Code.run_bind_returned {c : Code σ α} {m left : Machine σ} {a : α}
    (ran : c.run m = (.returned a, left)) (f : α → Code σ β) :
    (c >>= f).run m = (f a).run left := by
  rw [run_bind, ran]

/-- Code that does not return ends all code that it is the first part of. -/
inductive Halt.Passes : Halt α → Halt β → Prop
  | trapped : Passes .trapped .trapped
  | hung : Passes .hung .hung

theorem Code.returns_or_stops (c : Code σ α) (m : Machine σ) :
    (∃ a left, c.run m = (.returned a, left)) ∨
      ∃ h, ∃ halt : Halt β, ∃ left, c.run m = (h, left) ∧ h.Passes halt := by
  cases ran : c.run m with
  | mk h left =>
    cases h with
    | returned a => exact .inl ⟨a, left, rfl⟩
    | trapped => exact .inr ⟨_, _, left, rfl, .trapped⟩
    | hung => exact .inr ⟨_, _, left, rfl, .hung⟩

theorem Code.run_bind_stopped {c : Code σ α} {m left : Machine σ} {h : Halt α} {halt : Halt β}
    (ran : c.run m = (h, left)) (stopped : h.Passes halt) (f : α → Code σ β) :
    (c >>= f).run m = (halt, left) := by
  rw [run_bind, ran]
  cases stopped <;> rfl

namespace Memory

/-- Octets that lie in a memory from an address on. -/
structure Holds (m : Memory) (address : Nat) (bs : List UInt8) : Prop where
  inside : address + bs.length ≤ m.size
  cells : ∀ i (h : i < bs.length), m.cell (address + i) = bs[i]

/-- What a memory becomes when octets are written to an address. -/
structure Overwritten (m : Memory) (address : Nat) (bs : List UInt8) (n : Memory) : Prop where
  size : n.size = m.size
  maximum : n.maximum = m.maximum
  holds : n.Holds address bs
  kept : ∀ a, a < address ∨ address + bs.length ≤ a → n.cell a = m.cell a

theorem read?_eq_some_iff (m : Memory) (address length : Nat) (bs : List UInt8) :
    m.read? address length = some bs ↔ bs.length = length ∧ m.Holds address bs := by
  have cells : (List.range' address length).map m.cell = bs ↔
      bs.length = length ∧ ∀ i (h : i < bs.length), m.cell (address + i) = bs[i] := by
    constructor
    · rintro rfl
      simp
    · rintro ⟨rfl, cells⟩
      apply List.ext_getElem (by simp)
      intro i _ h
      simpa using cells i h
  rw [read?]
  split
  · next inside =>
    rw [Option.some.injEq, cells]
    constructor
    · rintro ⟨rfl, each⟩
      exact ⟨rfl, inside, each⟩
    · rintro ⟨rfl, holds⟩
      exact ⟨rfl, holds.cells⟩
  · next outside =>
    constructor
    · nofun
    · rintro ⟨rfl, holds⟩
      exact absurd holds.inside outside

theorem read?_eq_none_iff (m : Memory) (address length : Nat) :
    m.read? address length = none ↔ m.size < address + length := by
  rw [read?]
  split
  · next inside => exact ⟨nofun, fun beyond => absurd inside (Nat.not_le.mpr beyond)⟩
  · next outside => exact ⟨fun _ => Nat.lt_of_not_le outside, fun _ => rfl⟩

theorem write?_eq_none_iff (m : Memory) (address : Nat) (bs : List UInt8) :
    m.write? address bs = none ↔ m.size < address + bs.length := by
  rw [write?]
  split
  · next inside => exact ⟨nofun, fun beyond => absurd inside (Nat.not_le.mpr beyond)⟩
  · next outside => exact ⟨fun _ => Nat.lt_of_not_le outside, fun _ => rfl⟩

theorem write?_eq_some_iff (m n : Memory) (address : Nat) (bs : List UInt8) :
    m.write? address bs = some n ↔ m.Overwritten address bs n := by
  rw [write?]
  split
  · next inside =>
    rw [Option.some.injEq]
    constructor
    · rintro rfl
      refine ⟨rfl, rfl, ⟨inside, fun i h => ?_⟩, fun a out => ?_⟩
      · simp [h]
      · have beyond : ¬ (address ≤ a ∧ a < address + bs.length) := by omega
        simp only [List.size_toArray, if_neg beyond]
    · intro overwritten
      obtain ⟨size, maximum, cell⟩ := n
      obtain ⟨rfl, rfl, holds, kept⟩ := overwritten
      refine congrArg _ (funext fun a => ?_)
      by_cases stretch : address ≤ a ∧ a < address + bs.length
      · obtain ⟨i, rfl⟩ := Nat.exists_eq_add_of_le stretch.1
        have lt : i < bs.length := by omega
        have put : cell (address + i) = bs[i] := holds.cells i lt
        simp [put, lt]
      · have out : a < address ∨ address + bs.length ≤ a := by omega
        have same : cell a = m.cell a := kept a out
        simp only [List.size_toArray, if_neg stretch, same]
  · next outside =>
    constructor
    · nofun
    · intro overwritten
      have inside := overwritten.holds.inside
      rw [overwritten.size] at inside
      exact absurd inside outside

end Memory

end RobotTurn.Host
