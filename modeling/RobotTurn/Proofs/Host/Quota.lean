import RobotTurn.Proofs.Host.Lifecycle

/-! What a quota says of a memory. Its peak is the largest size that it has allowed
(`lt_peak_iff`), which can be more than the memory has ever had: the quota is asked first, and a
memory that may not become so large stays as it is (`peak_real_iff`). -/
namespace RobotTurn.Host

variable {σ α : Type}

/-- A request to make a memory larger: the size it has, the size asked for, and the most octets that
it may ever have, if there is such a bound. -/
structure Growth where
  current : Nat
  desired : Nat
  maximum : Option Nat
  deriving DecidableEq, Repr

/-- Whether the memory may become so large. -/
def Growth.fits (g : Growth) : Bool := g.maximum.all (g.desired ≤ ·)

/-- A quota, and the largest size that the memory behind it has had. -/
structure Account where
  quota : Quota
  largest : Nat := 0
  deriving DecidableEq, Repr

namespace Account

/-- Asks the quota. The memory grows if both the quota and its own bound allow it. -/
def step (a : Account) (g : Growth) : Account :=
  let (granted, quota) := a.quota.grantMemory g.desired
  { quota, largest := if granted && g.fits then max a.largest g.desired else a.largest }

def after (a : Account) (gs : List Growth) : Account := gs.foldl step a

theorem after_append (a : Account) (gs more : List Growth) :
    a.after (gs ++ more) = (a.after gs).after more :=
  List.foldl_append

/-- The largest of a first size and of the sizes asked for in requests of some kind. -/
def highest (kind : Growth → Bool) (first : Nat) (gs : List Growth) : Nat :=
  ((gs.filter kind).map (·.desired)).foldl max first

theorem highest_cons (kind : Growth → Bool) (first : Nat) (g : Growth) (gs : List Growth) :
    highest kind first (g :: gs) =
      highest kind (if kind g then max first g.desired else first) gs := by
  by_cases of : kind g <;> simp [highest, of]

theorem lt_highest_iff (kind : Growth → Bool) (first n : Nat) (gs : List Growth) :
    n < highest kind first gs ↔ n < first ∨ ∃ g ∈ gs, kind g ∧ n < g.desired := by
  induction gs generalizing first with
  | nil => simp [highest]
  | cons g gs ih =>
    rw [highest_cons, ih, List.exists_mem_cons_iff, ← or_assoc]
    refine or_congr_left ?_
    by_cases of : kind g
    · simp only [of, if_true, true_and]
      omega
    · simp [of]

/-- Whether a request stays within a limit. -/
def within (limit : Nat) (g : Growth) : Bool := g.desired ≤ limit

theorem step_eq (limit peak largest : Nat) (g : Growth) :
    step { quota := { maxMemory := limit, peak }, largest } g =
      { quota :=
          { maxMemory := limit, peak := if within limit g then max peak g.desired else peak }
        largest := if within limit g && g.fits then max largest g.desired else largest } := by
  by_cases lies : g.desired ≤ limit
  · simp [step, Quota.grantMemory, within, lies]
  · simp [step, Quota.grantMemory, within, lies]

/-- The figures after some requests. The quota counts all that it allows, and the memory has been
only what its own bound allows too. -/
theorem after_eq (limit peak largest : Nat) (gs : List Growth) :
    after { quota := { maxMemory := limit, peak }, largest } gs =
      { quota := { maxMemory := limit, peak := highest (within limit) peak gs }
        largest := highest (fun g => within limit g && g.fits) largest gs } := by
  induction gs generalizing peak largest with
  | nil => rfl
  | cons g gs ih => rw [after, List.foldl_cons, step_eq, ← after, ih, highest_cons, highest_cons]

theorem peak_le_after (a : Account) (gs : List Growth) :
    a.quota.peak ≤ (a.after gs).quota.peak := by
  obtain ⟨⟨limit, peak⟩, largest⟩ := a
  rw [after_eq]
  refine Nat.le_of_not_lt fun less => ?_
  exact Nat.lt_irrefl _ ((lt_highest_iff _ _ _ _).mpr (.inl less))

/-- The account of a quota that has not been asked anything. -/
def opened (limit : Nat) : Account := { quota := { maxMemory := limit } }

variable (limit : Nat) (gs : List Growth) (n : Nat)

theorem lt_peak_iff : n < ((opened limit).after gs).quota.peak ↔
    ∃ g ∈ gs, n < g.desired ∧ g.desired ≤ limit := by
  rw [opened, after_eq, lt_highest_iff]
  simp [within, and_comm]

theorem lt_largest_iff : n < ((opened limit).after gs).largest ↔
    ∃ g ∈ gs, n < g.desired ∧ g.desired ≤ limit ∧ g.fits := by
  rw [opened, after_eq, lt_highest_iff]
  simp [within, and_comm]

end Account

/-! ## The memory of a guest -/

namespace Machine

def account (m : Machine σ) : Account := { quota := m.quota, largest := m.memory.size }

/-- The request that a growth by some pages comes to. -/
def growth (m : Machine σ) (pages : UInt32) : List Growth :=
  if pages = 0 then []
  else
    [{ current := m.memory.size, desired := m.memory.size + pages.toNat * Memory.page
       maximum := some m.memory.maximum }]

theorem account_growMemory (m : Machine σ) (pages : UInt32) :
    (m.growMemory pages).2.account = m.account.after (m.growth pages) := by
  have larger : max m.memory.size (m.memory.size + pages.toNat * Memory.page) =
      m.memory.size + pages.toNat * Memory.page := Nat.max_eq_right (Nat.le_add_right _ _)
  rw [growth]
  fun_cases growMemory m pages with
  | case1 none => rw [if_pos none]; rfl
  | case2 some size granted quota asked allowed =>
    rw [if_neg some]
    simp only [Bool.and_eq_true, decide_eq_true_eq] at allowed
    obtain ⟨rfl, fits⟩ := allowed
    simp only [account, Account.after, List.foldl_cons, List.foldl_nil, Account.step, size] at *
    rw [asked]
    simp only [Growth.fits, Option.all_some, fits, Bool.and_self, decide_true, if_true, larger]
  | case3 some size granted quota asked refused =>
    rw [if_neg some]
    simp only [account, Account.after, List.foldl_cons, List.foldl_nil, Account.step, size] at *
    rw [asked]
    simp [Growth.fits, refused]

theorem account_growTable (m : Machine σ) (count : UInt32) :
    (m.growTable count).2.account = m.account := by
  fun_cases growTable m count <;> rfl

end Machine

/-- The requests that some code makes, in order, when it runs on a machine. -/
def Code.growths : Code σ α → Machine σ → List Growth
  | done _, _ => []
  | trap, _ => []
  | hang, _ => []
  | get next, m => (next m.own).growths m
  | set s next, m => next.growths { m with own := s }
  | print stream bs next, m => next.growths (m.print bs stream)
  | load address length next, m =>
    match m.memory.read? address length with
    | none => []
    | some bs => (next bs).growths m
  | store address bs next, m =>
    match m.memory.write? address bs with
    | none => []
    | some memory => next.growths { m with memory }
  | environment next, m => (next m.environment).growths m
  | growMemory pages next, m =>
    m.growth pages ++ (next (m.growMemory pages).1).growths (m.growMemory pages).2
  | growTable count next, m => (next (m.growTable count).1).growths (m.growTable count).2

/-- Code changes the account of its machine by its requests, and by nothing else. -/
theorem Code.account_run (c : Code σ α) (m : Machine σ) :
    (c.run m).2.account = m.account.after (c.growths m) := by
  induction c generalizing m with
  | done a => rfl
  | trap => rfl
  | hang => rfl
  | get next ih => exact ih _ m
  | set s next ih => exact ih { m with own := s }
  | print target bs next ih =>
    have same : (m.print bs target).account = m.account := by cases target <;> rfl
    rw [run, growths, ih, same]
  | load address length next ih =>
    rw [run, growths]
    cases m.memory.read? address length with
    | none => rfl
    | some bs => exact ih bs m
  | store address bs next ih =>
    rw [run, growths]
    cases written : m.memory.write? address bs with
    | none => rfl
    | some memory =>
      have size := ((Memory.write?_eq_some_iff _ _ _ _).mp written).size
      have same : ({ m with memory } : Machine σ).account = m.account := by
        simp only [Machine.account, size]
      dsimp only
      rw [ih, same]
  | environment next ih => exact ih _ m
  | growMemory pages next ih =>
    rw [run, growths, Account.after_append, ← m.account_growMemory pages]
    exact ih _ _
  | growTable count next ih =>
    rw [run, growths, ← m.account_growTable count]
    exact ih _ _

/-! ## Sessions -/

namespace Sandbox

variable {s : Sandbox σ}

/-- A turn changes the account by the requests of its exchange. -/
theorem account_play {b : Board} {x : Answer TurnReport × Sandbox σ} (played : s.play b = some x) :
    x.2.machine.account = s.machine.account.after
      ((exchange s.entrances s.entrances.turn (Json.encode b)).growths s.machine.silenced) := by
  let code := exchange s.entrances s.entrances.turn (Json.encode b)
  have run := code.account_run s.machine.silenced
  cases ran : code.run s.machine.silenced with
  | mk halt left =>
    rw [play_eq ran] at played
    obtain ⟨reply, -, rfl⟩ := Option.map_eq_some_iff.mp played
    rw [ran] at run
    exact run

theorem account_start {payload : List UInt8} {x : Answer Unit × Sandbox σ}
    (started : s.start payload = some x) :
    x.2.machine.account =
      s.machine.account.after ((s.startCode payload).growths s.machine) := by
  have run := (s.startCode payload).account_run s.machine
  cases ran : (s.startCode payload).run s.machine with
  | mk halt left =>
    rw [start_eq ran] at started
    obtain ⟨reply, -, rfl⟩ := Option.map_eq_some_iff.mp started
    rw [ran] at run
    exact run

/-- The memory that a guest starts with is a first request. No plan asks for more than it allows. -/
theorem account_boot {settings : Settings} {g : Guest σ} {m : Machine σ}
    (booted : boot settings g = .ok m) :
    m.account = (Account.opened settings.maxMemory).after
      [{ current := 0, desired := m.memory.size, maximum := none }] := by
  unfold boot at booted
  dsimp only at booted
  split at booted
  · cases booted
  · next granted =>
    split at booted
    · cases booted
    split at booted
    · cases booted
    · next memory written =>
      cases booted
      have size : memory.size = (g.plan.getD { pages := 0 }).pages * Memory.page :=
        ((Memory.write?_eq_some_iff _ _ _ _).mp written).size
      rw [← size, Bool.not_eq_true, Bool.not_eq_false'] at granted
      simp [Machine.account, ← size, Account.opened, Account.after, Account.step, granted,
        Growth.fits]

end Sandbox

namespace Session

/-- The requests that the guest makes in a call. Only the first `init` and the turns of a session
that is ready run any code of it. -/
def callGrowths (s : Session (Sandbox σ)) : Request (List UInt8) → List Growth
  | .init payload =>
    if s.phase = .fresh then (s.link.startCode payload).growths s.link.machine else []
  | .turn b =>
    if s.phase = .ready then
      (Sandbox.exchange s.link.entrances s.link.entrances.turn (Json.encode b)).growths
        s.link.machine.silenced
    else []

/-- The requests that the guest makes in some calls, in order. -/
def growths (s : Session (Sandbox σ)) : List (Request (List UInt8)) → List Growth
  | [] => []
  | r :: calls => s.callGrowths r ++ (callSandbox s r).elim [] fun x => x.2.growths calls

/-- A call changes the account by the requests that the guest makes in it. -/
theorem account_call {s : Session (Sandbox σ)} {r : Request (List UInt8)}
    {x : Reply × Session (Sandbox σ)} (came : callSandbox s r = some x) :
    x.2.link.machine.account = s.link.machine.account.after (s.callGrowths r) := by
  obtain ⟨phase, link⟩ := s
  cases r with
  | init payload =>
    by_cases fresh : phase = .fresh
    · subst fresh
      rw [gated_callSandbox.first] at came
      obtain ⟨y, started, rfl⟩ := Option.map_eq_some_iff.mp came
      rw [callGrowths, if_pos rfl]
      exact Sandbox.account_start started
    · rw [gated_callSandbox.again _ _ fresh] at came
      cases came
      rw [callGrowths, if_neg fresh]
      rfl
  | turn b =>
    cases phase with
    | fresh =>
      rw [gated_callSandbox.early] at came
      cases came
      rfl
    | faulted =>
      rw [gated_callSandbox.faulted] at came
      cases came
      rfl
    | ready =>
      rw [gated_callSandbox.ready] at came
      obtain ⟨y, played, rfl⟩ := Option.map_eq_some_iff.mp came
      have played : link.play b = some y := played
      rw [callGrowths, if_pos rfl]
      exact Sandbox.account_play played

theorem account_after {first s : Session (Sandbox σ)} {calls : List (Request (List UInt8))}
    (came : after callSandbox first calls = some s) :
    s.link.machine.account = first.link.machine.account.after (first.growths calls) := by
  induction calls generalizing first with
  | nil =>
    cases came
    rfl
  | cons r calls ih =>
    rw [after] at came
    obtain ⟨x, answered, came⟩ := Option.bind_eq_some_iff.mp came
    rw [growths, answered, Option.elim_some, Account.after_append, ← account_call answered]
    exact ih came

end Session

/-- Whatever is asked of a quota, its peak never falls and never passes the limit. It is the largest
size asked for within the limit, and no less than the memory has ever had; and it is exactly that
size as long as each request within the limit that the memory's own bound forbids is for no more.
The figures of every session are of this kind, for the memory that its guest starts with and then
the requests that the guest makes in the calls: its peak, and the size of its memory, which never
shrinks. -/
theorem peak_real_iff (limit : Nat) (gs : List Growth) :
    let a := (Account.opened limit).after gs
    (∀ more, a.quota.peak ≤ (a.after more).quota.peak) ∧
    a.quota.peak ≤ limit ∧
    (∀ n, n < a.quota.peak ↔ ∃ g ∈ gs, n < g.desired ∧ g.desired ≤ limit) ∧
    a.largest ≤ a.quota.peak ∧
    (a.quota.peak = a.largest ↔
      ∀ g ∈ gs, g.desired ≤ limit → g.fits = false → g.desired ≤ a.largest) ∧
    ∀ {σ : Type} {settings : Settings} {guest : Guest σ} {first s : Session (Sandbox σ)}
      {calls : List (Request (List UInt8))}, Sandbox.launch settings guest = .ok first →
      Session.after Session.callSandbox first calls = some s →
      let asked := { current := 0, desired := first.link.machine.memory.size, maximum := none } ::
        first.growths calls
      s.peak = ((Account.opened settings.maxMemory).after asked).quota.peak ∧
        s.link.machine.memory.size = ((Account.opened settings.maxMemory).after asked).largest := by
  intro a
  have peak := Account.lt_peak_iff limit gs
  have largest := Account.lt_largest_iff limit gs
  have real : a.largest ≤ a.quota.peak := by
    refine Nat.le_of_not_lt fun less => ?_
    obtain ⟨g, mem, higher, within, -⟩ := (largest _).mp less
    exact Nat.lt_irrefl _ ((peak _).mpr ⟨g, mem, higher, within⟩)
  refine ⟨a.peak_le_after, ?_, peak, real, ?_, ?_⟩
  · refine Nat.le_of_not_lt fun beyond => ?_
    obtain ⟨g, -, higher, within⟩ := (peak limit).mp beyond
    omega
  · constructor
    · intro same g mem within _
      refine Nat.le_of_not_lt fun higher => ?_
      have less := (peak a.largest).mpr ⟨g, mem, higher, within⟩
      exact Nat.lt_irrefl _ (same ▸ less)
    · intro bounded
      refine Nat.le_antisymm (Nat.le_of_not_lt fun less => ?_) real
      obtain ⟨g, mem, higher, within⟩ := (peak _).mp less
      cases fits : g.fits with
      | true => exact Nat.lt_irrefl _ ((largest _).mpr ⟨g, mem, higher, within, fits⟩)
      | false => exact absurd (bounded g mem within fits) (Nat.not_le.mpr higher)
  · intro σ settings guest first s calls launched came asked
    have account : s.link.machine.account = (Account.opened settings.maxMemory).after asked := by
      rw [Session.account_after came, Sandbox.account_boot (Sandbox.boot_of_launch launched),
        ← Account.after_append]
      rfl
    rw [← account]
    exact ⟨rfl, rfl⟩

/-! ## Two sessions -/

/-- A guest of one page that asks for some more in each turn, whatever the answer. -/
def climber (pages : UInt32) : Guest Unit where
  plan := some { pages := 1 }
  reserve := .callable fun _ => .done 0
  address := .callable (.done 0)
  init := .callable <|
    let reply := Json.encode (.ok () : InitReply)
    .store 0 reply (.done reply.length.toUInt32)
  turn := .callable <| .growMemory pages fun _ =>
    let reply := Json.encode (.ok {} : TurnReply)
    .store 0 reply (.done reply.length.toUInt32)
  own := ()

/-- A session with that guest after two turns. -/
def climbed (pages : UInt32) : Option (Session (Sandbox Unit)) :=
  match Sandbox.launch {} (climber pages) with
  | .error _ => none
  | .ok s => Session.after Session.callSandbox s [.init [], .turn default, .turn default]

theorem climbed_launched {pages : UInt32} {s : Session (Sandbox Unit)}
    (came : climbed pages = some s) :
    ∃ first, Sandbox.launch {} (climber pages) = .ok first ∧
      Session.after Session.callSandbox first [.init [], .turn default, .turn default] = some s := by
  unfold climbed at came
  split at came
  · cases came
  · next first launched => exact ⟨first, launched, came⟩

/-- One memory grows to its bound while a smaller one is forbidden less than that, and the limit
refuses more. A guest that asks for three pages twice has them all. -/
theorem peak_real_iff_two_memories :
    let gs : List Growth := [⟨0, 131072, some 262144⟩, ⟨131072, 262144, some 262144⟩,
      ⟨0, 196608, some 65536⟩, ⟨262144, 327680, none⟩]
    let a := (Account.opened 300000).after gs
    a.quota.peak = a.largest ∧ a.largest = 262144 ∧
      ∃ first s, Sandbox.launch {} (climber 3) = .ok first ∧
        Session.after Session.callSandbox first [.init [], .turn default, .turn default] = some s ∧
        let asked := ⟨0, 65536, none⟩ ::
          first.growths [.init [], .turn default, .turn default]
        asked = [⟨0, 65536, none⟩, ⟨65536, 262144, some 4294967296⟩,
          ⟨262144, 458752, some 4294967296⟩] ∧
        s.peak = ((Account.opened (2 ^ 64 - 1)).after asked).quota.peak ∧
        s.link.machine.memory.size = ((Account.opened (2 ^ 64 - 1)).after asked).largest := by
  intro gs a
  obtain ⟨-, -, -, -, same, sessions⟩ := peak_real_iff 300000 gs
  obtain ⟨s, came⟩ := Option.isSome_iff_exists.mp (by decide +kernel : (climbed 3).isSome)
  obtain ⟨first, launched, after⟩ := climbed_launched came
  have known : (Sandbox.launch {} (climber 3)).toOption.map (fun first =>
      (first.link.machine.memory.size,
        first.growths [.init [], .turn default, .turn default])) =
      some (65536, [⟨65536, 262144, some 4294967296⟩, ⟨262144, 458752, some 4294967296⟩]) := by
    decide +kernel
  rw [launched] at known
  obtain ⟨size, growths⟩ := Prod.mk.inj (Option.some.inj known)
  have figures := sessions launched after
  rw [size] at figures
  exact ⟨same.mpr (by decide), by decide, first, s, launched, after, by rw [growths], figures⟩

/-- A guest asks for as many pages as a memory of 4 GiB has, on top of its own one. The quota allows
them and counts them, and the memory stays at its one page. -/
theorem forbidden_growth_counts :
    (∃ s, climbed 65536 = some s ∧ s.peak = 4295032832 ∧ s.link.machine.memory.size = 65536) ∧
      let a := (Account.opened (2 ^ 64 - 1)).after
        [⟨0, 65536, none⟩, ⟨65536, 4295032832, some 4294967296⟩]
      a.quota.peak = 4295032832 ∧ a.largest = 65536 := by
  refine ⟨?_, by decide⟩
  obtain ⟨s, came, figures⟩ : ∃ s, climbed 65536 = some s ∧
      (s.peak, s.link.machine.memory.size) = (4295032832, 65536) :=
    Option.map_eq_some_iff.mp (by decide +kernel)
  obtain ⟨peak, size⟩ := Prod.mk.inj figures
  exact ⟨s, came, peak, size⟩

end RobotTurn.Host
