import Mathlib.Data.List.DropRight
import RobotTurn.Host.Capture

/-! A capture depends on the octets written and not on how they arrive: writing twice is writing
once (`append_append`), and an empty one keeps the front of what is written to it
(`append_clear`). So whatever has been done to a capture, it holds the front of the octets that have
come since it was last emptied (`drain_tells_front`). -/
namespace RobotTurn.Host.Capture

@[simp] theorem capacity_append (c : Capture) (bs : List UInt8) :
    (c.append bs).capacity = c.capacity := rfl

@[simp] theorem capacity_clear (c : Capture) : c.clear.capacity = c.capacity := rfl

theorem append_nil (c : Capture) : c.append [] = c := by
  simp [append]

/-- What a first write has left of the room is the room of the second. -/
theorem append_append (c : Capture) (as bs : List UInt8) :
    (c.append as).append bs = c.append (as ++ bs) := by
  obtain ⟨capacity, kept, dropped⟩ := c
  have room : capacity - (kept ++ as.take (capacity - kept.length)).length =
      capacity - kept.length - as.length := by
    rw [List.length_append, List.length_take]
    omega
  simp only [append, room, mk.injEq, true_and]
  constructor
  · rw [List.take_append, List.append_assoc]
  · rw [List.length_append]
    omega

/-- An empty capture keeps what fits of the front. -/
theorem append_clear (c : Capture) (bs : List UInt8) :
    c.clear.append bs =
      { capacity := c.capacity, kept := bs.take c.capacity, dropped := bs.length - c.capacity } := by
  simp [append, clear]

/-- A capture that has dropped octets has no room left, so it takes nothing more. -/
theorem kept_append_of_full {c : Capture} (full : c.capacity ≤ c.kept.length) (bs : List UInt8) :
    (c.append bs).kept = c.kept := by
  rw [append, Nat.sub_eq_zero_of_le full, List.take_zero, List.append_nil]

/-! ## Histories -/

/-- What is done to a capture: a guest writes to it, a host drains or clears it. -/
inductive Use where
  | write (port : Port) (bs : List UInt8)
  | drain
  | clear
  deriving DecidableEq, Repr

namespace Use

def isWrite : Use → Bool
  | write _ _ => true
  | drain | clear => false

/-- The octets that come with a use. -/
def octets : Use → List UInt8
  | write _ bs => bs
  | drain | clear => []

/-- The octets written since the capture was last drained or cleared. -/
def pending (uses : List Use) : List UInt8 :=
  (uses.rtakeWhile isWrite).flatMap octets

/-- A use whose octets come one at a time, all through one stream. -/
def singly : Use → List Use
  | write _ bs => bs.map fun b => write .polled [b]
  | drain => [drain]
  | clear => [clear]

theorem pending_write (uses : List Use) (port : Port) (bs : List UInt8) :
    pending (uses ++ [write port bs]) = pending uses ++ bs := by
  rw [pending, List.rtakeWhile_concat_pos _ _ _ rfl, List.flatMap_append, List.flatMap_singleton]
  rfl

theorem pending_emptied (uses : List Use) {use : Use} (emptied : use.isWrite = false) :
    pending (uses ++ [use]) = [] := by
  rw [pending, List.rtakeWhile_concat_neg _ _ _ (by simp [emptied])]
  rfl

end Use

/-- What a drain tells, and the capture after a use. -/
def use (c : Capture) : Use → Option (String × Nat) × Capture
  | .write port bs => (none, (c.write port bs).2)
  | .drain => (some c.drain.1, c.drain.2)
  | .clear => (none, c.clear)

/-- What the drains among some uses tell, in order, and the capture after them. -/
def run (c : Capture) : List Use → List (String × Nat) × Capture
  | [] => ([], c)
  | u :: uses => ((c.use u).1.toList ++ ((c.use u).2.run uses).1, ((c.use u).2.run uses).2)

theorem write_snd (c : Capture) (port : Port) (bs : List UInt8) :
    (c.write port bs).2 = c.append bs := by
  cases port <;> rfl

theorem run_append (c : Capture) (uses more : List Use) :
    c.run (uses ++ more) =
      ((c.run uses).1 ++ ((c.run uses).2.run more).1, ((c.run uses).2.run more).2) := by
  induction uses generalizing c with
  | nil => rfl
  | cons u uses ih => simp only [List.cons_append, run, ih, List.append_assoc]

theorem run_octets (c : Capture) (bs : List UInt8) :
    c.run (bs.map fun b => .write .polled [b]) = ([], c.append bs) := by
  induction bs generalizing c with
  | nil => rw [append_nil]; rfl
  | cons b bs ih =>
    simp only [List.map_cons, run, use, write_snd, ih, append_append, Option.toList_none,
      List.nil_append, List.singleton_append]

theorem run_singly (c : Capture) (u : Use) : c.run u.singly = c.run [u] := by
  cases u with
  | write port bs =>
    simp only [Use.singly, run_octets, run, use, write_snd, Option.toList_none, List.nil_append]
  | drain => rfl
  | clear => rfl

/-- How the octets of a history are cut into writes makes no difference. -/
theorem run_flatMap_singly (c : Capture) (uses : List Use) :
    c.run (uses.flatMap Use.singly) = c.run uses := by
  induction uses generalizing c with
  | nil => rfl
  | cons u uses ih =>
    rw [List.flatMap_cons, run_append, run_singly, ih]
    simp only [run, List.append_nil]

/-- A capture holds what an empty one would hold of the octets pending. -/
theorem run_clear (c : Capture) (uses : List Use) :
    (c.clear.run uses).2 = c.clear.append (Use.pending uses) := by
  induction uses using List.reverseRecOn with
  | nil => exact c.clear.append_nil.symm
  | append_singleton uses u ih =>
    rw [run_append, ih]
    cases u with
    | write port bs => simp only [run, use, write_snd, append_append, Use.pending_write]
    | drain =>
      rw [Use.pending_emptied uses rfl, append_nil]
      rfl
    | clear =>
      rw [Use.pending_emptied uses rfl, append_nil]
      rfl

/-- Writes after each other add up, whatever streams they come through. -/
theorem run_writes (c : Capture) {writes : List Use} (only : ∀ u ∈ writes, u.isWrite) :
    (c.run writes).2 = c.append (writes.flatMap Use.octets) := by
  induction writes generalizing c with
  | nil => exact c.append_nil.symm
  | cons u writes ih =>
    have later := ih (c.use u).2 fun v mem => only v (List.mem_cons_of_mem _ mem)
    cases u with
    | write port bs => rw [run, later, use, write_snd, append_append]; rfl
    | drain => exact absurd (only _ List.mem_cons_self) nofun
    | clear => exact absurd (only _ List.mem_cons_self) nofun

/-- Whatever has been done to a capture, it holds of the octets that came since it was last drained
or cleared those in front, as many as fit, and has counted the others. This is what the next drain
tells. So it does not matter how octets come, as long as they are the same ones between the same
drains and clears; and once octets are dropped, nothing more is taken until one of these. -/
theorem drain_tells_front (capacity : Nat) (uses : List Use) :
    let c := (run { capacity } uses).2
    let pending := Use.pending uses
    let fits := min capacity pending.length
    c.kept.length ≤ capacity ∧
    c.run [.drain] =
      ([(Utf8.lossy (pending.take fits), pending.length - fits)], { capacity }) ∧
    (∀ others : List Use, others.flatMap Use.singly = uses.flatMap Use.singly →
      run { capacity } others = run { capacity } uses) ∧
    (0 < c.dropped → ∀ writes : List Use, (∀ u ∈ writes, u.isWrite) →
      (c.run writes).2.kept = c.kept) := by
  intro c pending fits
  have holds : c = { capacity, kept := pending.take capacity, dropped := pending.length - capacity } :=
    (run_clear { capacity } uses).trans (append_clear { capacity } pending)
  refine ⟨?_, ?_, fun others same => ?_, fun dropped writes only => ?_⟩
  · rw [holds, List.length_take]
    exact Nat.min_le_left _ _
  · have front : pending.take capacity = pending.take fits := by
      rw [List.take_eq_take_iff]
      omega
    have rest : pending.length - capacity = pending.length - fits := by omega
    rw [holds, front, rest]
    rfl
  · rw [← run_flatMap_singly, same, run_flatMap_singly]
  · have full : c.capacity ≤ c.kept.length := by
      rw [holds] at dropped ⊢
      rw [List.length_take]
      dsimp only at dropped ⊢
      omega
    rw [run_writes c only, kept_append_of_full full]

/-- Five octets through both streams into room for four, the third of which begins a character of
three octets: the same as in one write. What comes behind them is dropped, until the drain. -/
theorem drain_tells_front_straddling :
    let uses : List Use := [.write .polled [0x61], .clear, .write .handed [0x68, 0x69, 0xE2],
      .write .polled [0x82, 0xAC]]
    let c := (run { capacity := 4 } uses).2
    c.run [.drain] = ([("hi\uFFFD", 1)], { capacity := 4 }) ∧
      run { capacity := 4 } [.write .handed [0x61], .clear, .write .polled [0x68, 0x69],
        .write .polled [], .write .handed [0xE2, 0x82, 0xAC]] = run { capacity := 4 } uses ∧
      (c.run [.write .polled [0x6F], .write .handed [0x6B]]).2.kept = c.kept := by
  intro uses c
  obtain ⟨-, told, alike, full⟩ := drain_tells_front 4 uses
  refine ⟨?_, alike _ (by decide), full (by decide) _ (by decide)⟩
  rw [told]
  decide +kernel

end RobotTurn.Host.Capture
