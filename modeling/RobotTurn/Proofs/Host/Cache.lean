import Mathlib
import RobotTurn.Host.Bare
import RobotTurn.Proofs.Host.Publish

/-! A directory of compiled guests saves time and changes nothing else: whatever guests are loaded
through it and whatever becomes of its files in between, each load gives the guest of its own source
(`answers_eq_fresh`). -/
namespace RobotTurn.Host.Compiler

variable {μ : Type} (c : Compiler μ)

/-- What happens to a directory: a guest is loaded through it, or one of its files is overwritten. -/
inductive Access where
  | load (source : List UInt8) (ticket : Publish.Ticket := {})
  | spoil (name : String) (content : List UInt8)

def Access.source? : Access → Option (List UInt8)
  | load source _ => some source
  | spoil _ _ => none

/-- Goes on with the answers of the loads so far and the directory that they have left. -/
def access (s : List (Except HostError μ) × Directory) :
    Access → List (Except HostError μ) × Directory
  | .load source ticket =>
    let (answer, dir) := c.load s.2 source { ticket }
    (s.1 ++ [answer], dir)
  | .spoil name content => (s.1, s.2.insert name content)

/-- The answers of all loads, and the directory after them. At first it is empty. -/
def run (history : List Access) : List (Except HostError μ) × Directory :=
  history.foldl c.access ([], ∅)

theorem run_append_singleton (history : List Access) (a : Access) :
    c.run (history ++ [a]) = c.access (c.run history) a := by
  simp [run, List.foldl_append]

/-! ## One load -/

variable {c} {sources : List (List UInt8)} {dir : Directory}

/-- The file of each source is its own, and its guest can be read back. -/
structure Keeps (c : Compiler μ) (sources : List (List UInt8)) : Prop where
  apart : ∀ a ∈ sources, ∀ b ∈ sources, c.key a = c.key b → a = b
  restores : ∀ a ∈ sources, ∀ guest, c.compile a = .ok guest →
    c.deserialize (c.serialize guest) = some guest

/-- What is kept for a source is what it compiles to. -/
def Sound (c : Compiler μ) (sources : List (List UInt8)) (dir : Directory) : Prop :=
  ∀ a ∈ sources, ∀ guest, c.kept? dir a = some guest → c.fresh a = .ok guest

theorem Keeps.entry_inj (keeps : c.Keeps sources) {a b : List UInt8} (known : a ∈ sources)
    (known' : b ∈ sources) (same : c.entry a = c.entry b) : a = b :=
  keeps.apart a known b known' ((String.append_left_inj ".cwasm").mp same)

theorem fresh_eq_ok_iff {source : List UInt8} {guest : μ} :
    c.fresh source = .ok guest ↔ c.compile source = .ok guest := by
  cases compiled : c.compile source <;> simp [fresh, compiled, Except.mapError]

theorem kept?_insert (dir : Directory) (name : String) (content source : List UInt8) :
    c.kept? (dir.insert name content) source =
      if c.entry source = name then c.deserialize content else c.kept? dir source := by
  rw [kept?, Dict.find?_insert]
  split <;> rfl

theorem kept?_write (dir : Directory) (source content other : List UInt8)
    (ticket : Publish.Ticket) :
    c.kept? (Publish.write { ticket } (c.entry source) content dir).2 other =
      if c.entry other = c.entry source then c.deserialize content else c.kept? dir other := by
  obtain ⟨-, found⟩ := Publish.write_roomy (o := { ticket }) rfl (c.entry source) content dir
  have proper : c.entry other ≠ Publish.temporary (c.entry source) ticket :=
    Publish.cwasm_ne_temporary (c.key other) (c.entry source) ticket
  rw [kept?, found, if_neg proper]
  split <;> rfl

/-- A load takes the guest that is kept. If there is none, it answers as without a directory, and
keeps the guest that it has made. -/
theorem load_cases (c : Compiler μ) (dir : Directory) (source : List UInt8)
    (ticket : Publish.Ticket) :
    (∃ guest, c.kept? dir source = some guest ∧
      c.load dir source { ticket } = (.ok guest, dir)) ∨
    c.load dir source { ticket } = (c.fresh source, match c.fresh source with
      | .error _ => dir
      | .ok guest =>
        (Publish.write { ticket } (c.entry source) (c.serialize guest) dir).2) := by
  cases kept : c.kept? dir source with
  | some guest => exact .inl ⟨guest, rfl, by rw [load, kept]⟩
  | none =>
    refine .inr ?_
    cases fresh : c.fresh source with
    | error e => rw [load, kept, fresh]
    | ok guest =>
      obtain ⟨published, -⟩ :=
        Publish.write_roomy (o := { ticket }) rfl (c.entry source) (c.serialize guest) dir
      simp only [load, kept, fresh, published]

/-- What a load gives and leaves. -/
theorem Sound.load (sound : c.Sound sources dir) (keeps : c.Keeps sources) {source : List UInt8}
    (known : source ∈ sources) (ticket : Publish.Ticket) :
    (c.load dir source { ticket }).1 = c.fresh source ∧
      c.Sound sources (c.load dir source { ticket }).2 ∧
      (∀ e, c.fresh source = .error e → (c.load dir source { ticket }).2 = dir) ∧
      ∀ guest, c.fresh source = .ok guest →
        c.kept? (c.load dir source { ticket }).2 source = some guest := by
  obtain ⟨guest, kept, loaded⟩ | loaded := c.load_cases dir source ticket
  · have fresh := sound source known guest kept
    rw [loaded, fresh]
    refine ⟨rfl, sound, by simp, ?_⟩
    rintro _ ⟨⟩
    exact kept
  rw [loaded]
  cases fresh : c.fresh source with
  | error e => exact ⟨rfl, sound, fun _ _ => rfl, by simp⟩
  | ok guest =>
    have restored := keeps.restores source known guest (fresh_eq_ok_iff.mp fresh)
    refine ⟨rfl, ?_, by simp, ?_⟩
    · intro a mem other kept
      rw [kept?_write] at kept
      split at kept
      · next same =>
        rw [keeps.entry_inj mem known same, fresh]
        rw [restored] at kept
        cases kept
        rfl
      · exact sound a mem other kept
    · rintro _ ⟨⟩
      rw [kept?_write, if_pos rfl, restored]

theorem Sound.spoil (sound : c.Sound sources dir) {content : List UInt8}
    (unreadable : c.deserialize content = none) (name : String) :
    c.Sound sources (dir.insert name content) := by
  intro a mem guest kept
  rw [kept?_insert, unreadable] at kept
  split at kept
  · cases kept
  · exact sound a mem guest kept

/-! ## Histories -/

theorem run_sound (keeps : c.Keeps sources) {history : List Access}
    (known : ∀ source ticket, .load source ticket ∈ history → source ∈ sources)
    (unreadable : ∀ name content, .spoil name content ∈ history → c.deserialize content = none) :
    (c.run history).1 = (history.filterMap Access.source?).map c.fresh ∧
      c.Sound sources (c.run history).2 := by
  induction history using List.reverseRecOn with
  | nil => exact ⟨rfl, fun a _ guest kept => by simp [run, kept?] at kept⟩
  | append_singleton history a ih =>
    obtain ⟨answers, sound⟩ := ih
      (fun source ticket mem => known source ticket (List.mem_append_left _ mem))
      (fun name content mem => unreadable name content (List.mem_append_left _ mem))
    have last : a ∈ history ++ [a] := List.mem_append_right _ List.mem_cons_self
    rw [run_append_singleton, List.filterMap_append, List.map_append]
    cases a with
    | load source ticket =>
      obtain ⟨answer, later, -⟩ := sound.load keeps (known source ticket last) ticket
      exact ⟨congrArg₂ (· ++ [·]) answers answer, later⟩
    | spoil name content =>
      refine ⟨?_, sound.spoil (unreadable name content last) name⟩
      rw [List.filterMap_cons_none rfl, List.filterMap_nil, List.map_nil, List.append_nil]
      exact answers

/-- If the guests that are loaded have files of their own and can be read back, and what a file is
overwritten with cannot be read, then all loads answer as they do without a directory. A load that
fails leaves the directory as it is, and one that succeeds leaves its guest there, readable. -/
theorem answers_eq_fresh (c : Compiler μ) (history : List Access)
    (keeps : c.Keeps (history.filterMap Access.source?))
    (unreadable : ∀ name content, .spoil name content ∈ history → c.deserialize content = none) :
    (c.run history).1 = (history.filterMap Access.source?).map c.fresh ∧
      ∀ before source ticket, before ++ [.load source ticket] <+: history →
        let dir := (c.run before).2
        let later := (c.run (before ++ [.load source ticket])).2
        (∀ e, c.fresh source = .error e → later = dir) ∧
          ∀ guest, c.fresh source = .ok guest → c.kept? later source = some guest := by
  have known (source : List UInt8) (ticket : Publish.Ticket)
      (mem : .load source ticket ∈ history) : source ∈ history.filterMap Access.source? :=
    List.mem_filterMap.mpr ⟨_, mem, rfl⟩
  refine ⟨(run_sound keeps known unreadable).1, ?_⟩
  intro before source ticket part
  have mem {a : Access} (mem : a ∈ before ++ [.load source ticket]) : a ∈ history := part.mem mem
  obtain ⟨-, sound⟩ := run_sound keeps
    (fun source ticket there => known source ticket (mem (List.mem_append_left _ there)))
    (fun name content there => unreadable name content (mem (List.mem_append_left _ there)))
  rw [run_append_singleton]
  exact (sound.load keeps
    (known source ticket (mem (List.mem_append_right _ List.mem_cons_self))) ticket).2.2

/-- The text of a module with a memory of one page. -/
def paged : List UInt8 := Utf8.encode "(module (memory (export \"memory\") 1))"

theorem compile_paged : Bare.compile paged = .ok ⟨some ("memory", 1)⟩ := by cbv

theorem compile_two : Bare.compile [2] = .error "malformed module" := by cbv

/-- Two modules are loaded, the file of one of them is overwritten, and after what is no module they
are loaded once more. -/
def reloads : List Access :=
  [.load Bare.header, .load paged, .spoil (Bare.compiler.entry Bare.header) [1], .load [2],
    .load Bare.header { number := 1 }, .load paged]

theorem keeps_reloads : Bare.compiler.Keeps (reloads.filterMap Access.source?) where
  apart := by decide +kernel
  restores a known guest compiled := by
    have sources : reloads.filterMap Access.source? ⊆ [Bare.header, paged, [2]] := by
      decide +kernel
    have among := sources known
    simp only [List.mem_cons, List.not_mem_nil, or_false] at among
    obtain rfl | rfl | rfl := among
    · cases (show Bare.compile Bare.header = .ok ⟨none⟩ from rfl).symm.trans compiled
      decide +kernel
    · cases compile_paged.symm.trans compiled
      exact congrArg Except.toOption compile_paged
    · cases compile_two.symm.trans compiled

theorem answers_eq_fresh_reloads :
    (Bare.compiler.run reloads).1 = [.ok ⟨none⟩, .ok ⟨some ("memory", 1)⟩,
      .error (.engine "malformed module"), .ok ⟨none⟩, .ok ⟨some ("memory", 1)⟩] ∧
    (Bare.compiler.run (reloads.take 4)).2 = (Bare.compiler.run (reloads.take 3)).2 ∧
    Bare.compiler.kept? (Bare.compiler.run reloads).2 paged = some ⟨some ("memory", 1)⟩ := by
  have unreadable (name : String) (content : List UInt8)
      (mem : .spoil name content ∈ reloads) : Bare.compiler.deserialize content = none := by
    obtain ⟨rfl, rfl⟩ : name = Bare.compiler.entry Bare.header ∧ content = [1] := by
      simpa [reloads] using mem
    cbv
  obtain ⟨answers, loads⟩ := answers_eq_fresh Bare.compiler reloads keeps_reloads unreadable
  have header : Bare.compiler.fresh Bare.header = .ok ⟨none⟩ := rfl
  have sized : Bare.compiler.fresh paged = .ok ⟨some ("memory", 1)⟩ :=
    fresh_eq_ok_iff.mpr compile_paged
  have refused : Bare.compiler.fresh [2] = .error (.engine "malformed module") :=
    congrArg (Except.mapError HostError.engine) compile_two
  have failed := (loads (reloads.take 3) [2] {} ⟨reloads.drop 4, rfl⟩).1 _ refused
  have last := (loads reloads.dropLast paged {} (List.prefix_refl reloads)).2 _ sized
  refine ⟨?_, failed, last⟩
  rw [answers]
  show [Bare.header, paged, [2], Bare.header, paged].map Bare.compiler.fresh = _
  simp only [List.map_cons, List.map_nil, header, sized, refused]

end RobotTurn.Host.Compiler
