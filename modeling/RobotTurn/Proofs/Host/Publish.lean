import Mathlib.Data.List.Induction
import Mathlib.Data.List.Nodup
import RobotTurn.Host.Publish

/-! What readers of a directory see while writers put files in place. No two writers fill the same
temporary file (`eq_of_temporary_eq`), so a file holds what it held first or the whole content of
one writer (`published_whole`), and of the temporary files only those stay that could not be
filled. -/
namespace RobotTurn.Host.Publish

/-! ## Names of temporary files -/

theorem append_dash_inj {front other digits more : List Char} (plain : '-' ∉ digits)
    (plain' : '-' ∉ more) (same : front ++ '-' :: digits = other ++ '-' :: more) :
    front = other ∧ digits = more := by
  rcases List.append_eq_append_iff.mp same with ⟨rest, rfl, eq⟩ | ⟨rest, rfl, eq⟩
  · cases rest with
    | nil => simpa using eq
    | cons c rest => simp_all
  · cases rest with
    | nil => simpa using eq.symm
    | cons c rest => simp_all

theorem notMem_toDigits {c : Char} (other : c.isDigit = false) (n : Nat) :
    c ∉ Nat.toDigits 10 n := by
  intro mem
  have digit := Nat.isDigit_of_mem_toDigits (by decide) (by decide) mem
  simp [other] at digit

theorem toDigits_inj {n m : Nat} (same : Nat.toDigits 10 n = Nat.toDigits 10 m) : n = m := by
  have read := congrArg (Nat.ofDigitChars 10 · 0) same
  simpa [Nat.ofDigitChars_toDigits] using read

theorem toList_temporary (path : String) (t : Ticket) :
    (temporary path t).toList =
      ((stem path).toList ++ ".cwasm.tmp".toList ++ '-' :: Nat.toDigits 10 t.process) ++
        '-' :: Nat.toDigits 10 t.number := by
  simp [temporary, toString]

/-- Calls with different tickets have different temporary files, whatever their paths are. -/
theorem eq_of_temporary_eq {path other : String} {t u : Ticket}
    (same : temporary path t = temporary other u) : t = u := by
  have chars := congrArg String.toList same
  rw [toList_temporary, toList_temporary] at chars
  have plain := notMem_toDigits (show '-'.isDigit = false from rfl)
  obtain ⟨front, number⟩ := append_dash_inj (plain _) (plain _) chars
  obtain ⟨-, process⟩ := append_dash_inj (plain _) (plain _) front
  exact congrArg₂ Ticket.mk (toDigits_inj process) (toDigits_inj number)

/-- A file with the extension of an entry is not a temporary one. -/
theorem cwasm_ne_temporary (key path : String) (t : Ticket) :
    key ++ ".cwasm" ≠ temporary path t := by
  intro same
  have chars := congrArg (·.toList.getLast?) same
  have last : (Nat.toDigits 10 t.number).getLast? = some 'm' := by
    obtain ⟨d, ends⟩ := List.getLast?_isSome.mpr (Nat.toDigits_ne_nil (b := 10) (n := t.number))
      |> Option.isSome_iff_exists.mp
    simpa [toList_temporary, List.getLast?_append, List.getLast?_cons, ends] using chars.symm
  exact notMem_toDigits (by decide) _ (List.mem_of_getLast? last)

/-! ## One writer -/

/-- What a call leaves in its temporary file, which held `first` before. -/
def Ending.left (content : List UInt8) (first : Option (List UInt8)) :
    Ending → Option (List UInt8)
  | published | cleared _ => none
  | uncreated _ => first
  | unfilled n _ => some (content.take n)

/-- What the temporary file of a writer holds. -/
def Writer.held (w : Writer) (first : Option (List UInt8)) : Option (List UInt8) :=
  match w.stage with
  | .creating => first
  | .filling => some []
  | .renaming | .clearing _ => some w.content
  | .returned ending => ending.left w.content first

@[simp] theorem Writer.step_path (w : Writer) (dir : Directory) (fate : Fate) :
    (w.step dir fate).1.path = w.path := by
  fun_cases Writer.step w dir fate <;> rfl

@[simp] theorem Writer.step_ticket (w : Writer) (dir : Directory) (fate : Fate) :
    (w.step dir fate).1.ticket = w.ticket := by
  fun_cases Writer.step w dir fate <;> rfl

@[simp] theorem Writer.step_temporary (w : Writer) (dir : Directory) (fate : Fate) :
    (w.step dir fate).1.temporary = w.temporary := by
  simp [Writer.temporary]

/-- What one step can do: it goes on with the writer's own temporary file, and another file it
changes only if it puts the whole content in its place. -/
structure Writer.Moved (w v : Writer) (first : Option (List UInt8)) (dir later : Directory) :
    Prop where
  held : later.find? w.temporary = v.held first
  others : ∀ name, name ≠ w.temporary → later.find? name = dir.find? name ∨
    w.path = name ∧ w.stage = .renaming ∧ v = { w with stage := .returned .published } ∧
      later.find? name = some w.content
  returned : ∀ ending, w.stage = .returned ending → v = w

theorem Writer.Moved.of_own {w : Writer} {stage : Stage} {first : Option (List UInt8)}
    {dir later : Directory} (working : ∀ ending, w.stage ≠ .returned ending)
    (own : ∀ name, name ≠ w.temporary → later.find? name = dir.find? name)
    (held : later.find? w.temporary = { w with stage }.held first) :
    w.Moved { w with stage } first dir later where
  held
  others name other := .inl (own name other)
  returned ending is := absurd is (working ending)

theorem Writer.moved (w : Writer) {dir : Directory} {first : Option (List UInt8)}
    (held : dir.find? w.temporary = w.held first) (apart : w.path ≠ w.temporary) (fate : Fate) :
    w.Moved (w.step dir fate).1 first dir (w.step dir fate).2 := by
  have filled (bs : List UInt8) (name : String) (other : name ≠ w.temporary) :
      (dir.insert w.temporary bs).find? name = dir.find? name := by simp [other]
  have cleared (name : String) (other : name ≠ w.temporary) :
      (dir.erase w.temporary).find? name = dir.find? name := by simp [other]
  unfold Writer.held at held
  fun_cases Writer.step w dir fate with
  | case1 _ _ creating =>
    rw [creating] at held
    exact .of_own (by simp [creating]) (fun _ _ => rfl) held
  | case2 _ creating => exact .of_own (by simp [creating]) (filled _) (by simp [Writer.held])
  | case3 _ _ filling =>
    exact .of_own (by simp [filling]) (filled _) (by simp [Writer.held, Ending.left])
  | case4 _ filling => exact .of_own (by simp [filling]) (filled _) (by simp [Writer.held])
  | case5 _ _ placing =>
    rw [placing] at held
    exact .of_own (by simp [placing]) (fun _ _ => rfl) held
  | case6 placing =>
    rw [placing] at held
    exact .of_own (by simp [placing]) (fun _ _ => rfl) held
  | case7 placing absent => simp [placing, absent] at held
  | case8 placing written found =>
    -- What is renamed is the whole content, as the temporary file held just that.
    rw [placing, found] at held
    cases held
    refine ⟨by simp [apart.symm, Writer.held, Ending.left], ?_, by simp [placing]⟩
    intro name other
    by_cases placed : name = w.path
    · exact .inr ⟨placed.symm, placing, rfl, by simp [placed]⟩
    · exact .inl (by simp [placed, other])
  | case9 _ _ clearing =>
    exact .of_own (by simp [clearing]) cleared (by simp [Writer.held, Ending.left])
  | case10 ending _ => exact ⟨held, fun _ _ => .inl rfl, fun _ _ => rfl⟩

/-- A whole file that can be renamed is then in its place. -/
theorem Writer.places {w : Writer} {dir : Directory} (placing : w.stage = .renaming)
    (held : dir.find? w.temporary = some w.content) :
    (w.step dir .done).2.find? w.path = some w.content := by
  simp [Writer.step, placing, held]

/-- The most steps that a call still takes. -/
def Stage.remaining : Stage → Nat
  | .creating => 4
  | .filling => 3
  | .renaming => 2
  | .clearing _ => 1
  | .returned _ => 0

theorem Writer.remaining_step (w : Writer) (dir : Directory) (fate : Fate) :
    (w.step dir fate).1.stage.remaining ≤ w.stage.remaining - 1 := by
  fun_cases Writer.step w dir fate <;> simp_all [Stage.remaining]

/-- A writer that has room and the directory for itself puts its file in place. -/
theorem write_roomy {o : Origin} (roomy : o.room = none) (path : String) (content : List UInt8)
    (dir : Directory) :
    (write o path content dir).1.fault? = none ∧
      ∀ name, (write o path content dir).2.find? name =
        if name = path then some content
        else if name = temporary path o.ticket then none
        else dir.find? name := by
  have filling : o.filling content = .done := by rw [Origin.filling, roomy]
  have wrote : write o path content dir =
      ({ path, content, ticket := o.ticket, stage := .returned .published },
        (((dir.insert (temporary path o.ticket) []).insert (temporary path o.ticket)
          content).erase (temporary path o.ticket)).insert path content) := by
    simp [write, filling, Writer.step, Writer.temporary]
  rw [wrote]
  refine ⟨rfl, fun name => ?_⟩
  by_cases placed : name = path
  · simp [placed]
  · simp only [Dict.find?_insert, Dict.find?_erase, if_neg placed]
    split <;> rfl

/-! ## All writers -/

namespace Scene

/-- No path that is written to is the temporary file of a call. -/
def Apart (s : Scene) : Prop :=
  ∀ w ∈ s.writers, ∀ other ∈ s.writers, w.path ≠ other.temporary

instance (s : Scene) : Decidable s.Apart :=
  inferInstanceAs (Decidable (∀ w ∈ s.writers, ∀ other ∈ s.writers, w.path ≠ other.temporary))

variable {s : Scene} {first : Directory}

/-- One writer has gone on, and the rest are as they were. -/
structure Turn (s later : Scene) (w v : Writer) (rest : List Writer) : Prop where
  was : s.writers.Perm (w :: rest)
  now : later.writers.Perm (v :: rest)
  path : v.path = w.path
  ticket : v.ticket = w.ticket

/-- A step is the turn of a writer that there is, if it changes anything. -/
theorem step_cases (s : Scene) (i : Nat) (fate : Fate) : s.step (.step i fate) = s ∨
    ∃ w rest, s.Turn (s.step (.step i fate)) w (w.step s.dir fate).1 rest ∧
      (s.step (.step i fate)).dir = (w.step s.dir fate).2 := by
  by_cases lies : i < s.writers.length
  · obtain ⟨front, back, are, -, set⟩ : ∃ front back,
        s.writers = front ++ s.writers[i] :: back ∧ front.length = i ∧
          s.writers.set i (s.writers[i].step s.dir fate).1 =
            front ++ (s.writers[i].step s.dir fate).1 :: back := List.exists_of_set lies
    have later : s.step (.step i fate) =
        { dir := (s.writers[i].step s.dir fate).2
          writers := s.writers.set i (s.writers[i].step s.dir fate).1 } := by simp [step, lies]
    refine .inr ⟨s.writers[i], front ++ back, ⟨?_, ?_, by simp, by simp⟩, by rw [later]⟩
    · exact (List.Perm.of_eq are).trans List.perm_middle
    · rw [later, set]
      exact List.perm_middle
  · exact .inl (by simp [step, lies])

namespace Turn

variable {later : Scene} {w v : Writer} {rest : List Writer}

theorem mem_was (turn : s.Turn later w v rest) (u : Writer) :
    u ∈ s.writers ↔ u = w ∨ u ∈ rest := by
  rw [turn.was.mem_iff, List.mem_cons]

theorem mem_now (turn : s.Turn later w v rest) (u : Writer) :
    u ∈ later.writers ↔ u = v ∨ u ∈ rest := by
  rw [turn.now.mem_iff, List.mem_cons]

theorem temporary (turn : s.Turn later w v rest) : v.temporary = w.temporary := by
  rw [Writer.temporary, turn.path, turn.ticket, Writer.temporary]

theorem tickets (turn : s.Turn later w v rest) :
    (later.writers.map (·.ticket)).Perm (s.writers.map (·.ticket)) := by
  refine (turn.now.map _).trans (.trans (.of_eq ?_) (turn.was.map _).symm)
  rw [List.map_cons, List.map_cons, turn.ticket]

theorem calls (turn : s.Turn later w v rest) (process : Nat) :
    later.calls process = s.calls process :=
  turn.tickets.countP_eq _

theorem proper (turn : s.Turn later w v rest) {name : String}
    (h : ∀ u ∈ later.writers, name ≠ u.temporary) : ∀ u ∈ s.writers, name ≠ u.temporary := by
  intro u mem
  obtain rfl | mem := (turn.mem_was u).mp mem
  · exact turn.temporary ▸ h v ((turn.mem_now v).mpr (.inl rfl))
  · exact h u ((turn.mem_now u).mpr (.inr mem))

/-- No two writers fill the same temporary file. -/
theorem temporary_ne (turn : s.Turn later w v rest) (distinct : (s.writers.map (·.ticket)).Nodup)
    (u : Writer) (mem : u ∈ rest) : u.temporary ≠ w.temporary := by
  intro same
  rw [(turn.was.map _).nodup_iff, List.map_cons, List.nodup_cons] at distinct
  exact distinct.1 (eq_of_temporary_eq same ▸ List.mem_map_of_mem mem)

end Turn

theorem mem_step {w : Writer} (mem : w ∈ s.writers) (event : Event) :
    ∃ v ∈ (s.step event).writers, v.path = w.path ∧ v.ticket = w.ticket := by
  cases event with
  | call process path content => exact ⟨w, List.mem_append_left _ mem, rfl, rfl⟩
  | step i fate =>
    obtain same | ⟨u, rest, turn, -⟩ := s.step_cases i fate
    · exact ⟨w, by rwa [same], rfl, rfl⟩
    · obtain rfl | mem := (turn.mem_was w).mp mem
      · exact ⟨_, (turn.mem_now _).mpr (.inl rfl), turn.path, turn.ticket⟩
      · exact ⟨w, (turn.mem_now w).mpr (.inr mem), rfl, rfl⟩

theorem Apart.before {event : Event} (apart : (s.step event).Apart) : s.Apart := by
  intro w mem other mem'
  obtain ⟨v, there, path, -⟩ := mem_step mem event
  obtain ⟨u, there', path', ticket'⟩ := mem_step mem' event
  have ne := apart v there u there'
  rwa [path, Writer.temporary, path', ticket'] at ne

/-- What holds of writers in a directory that held `first` when there were none. -/
structure Kept (first : Directory) (s : Scene) : Prop where
  distinct : (s.writers.map (·.ticket)).Nodup
  numbered : ∀ w ∈ s.writers, w.ticket.number < s.calls w.ticket.process
  held : ∀ w ∈ s.writers, s.dir.find? w.temporary = w.held (first.find? w.temporary)
  whole : ∀ path, (∀ w ∈ s.writers, path ≠ w.temporary) →
    s.dir.find? path = first.find? path ∨
      ∃ w ∈ s.writers, w.path = path ∧ w.stage = .returned .published ∧
        s.dir.find? path = some w.content

theorem Kept.add (kept : s.Kept first) {added : Writer} (starts : added.stage = .creating)
    (next : added.ticket.number = s.calls added.ticket.process)
    (apart : ∀ w ∈ s.writers, w.path ≠ added.temporary) :
    { s with writers := s.writers ++ [added] }.Kept first := by
  have fresh (w : Writer) (mem : w ∈ s.writers) : added.ticket ≠ w.ticket := by
    intro same
    have number := kept.numbered w mem
    rw [← same, next] at number
    exact Nat.lt_irrefl _ number
  constructor
  · rw [List.map_append, List.nodup_append]
    refine ⟨kept.distinct, List.nodup_singleton _, ?_⟩
    intro t mem u new
    obtain ⟨w, there, rfl⟩ := List.mem_map.mp mem
    rw [List.mem_singleton.mp new]
    exact (fresh w there).symm
  · intro w mem
    simp only [calls, List.map_append, List.countP_append]
    obtain mem | new := List.mem_append.mp mem
    · exact Nat.lt_of_lt_of_le (kept.numbered w mem) (Nat.le_add_right _ _)
    · simp [List.mem_singleton.mp new, next, calls]
  · intro w mem
    obtain mem | new := List.mem_append.mp mem
    · exact kept.held w mem
    · rw [List.mem_singleton.mp new, Writer.held, starts]
      obtain same | ⟨u, there, path, -⟩ := kept.whole added.temporary fun w mem same =>
        fresh w mem (eq_of_temporary_eq same)
      · exact same
      · exact absurd path (apart u there)
  · intro name proper
    obtain same | ⟨w, mem, is⟩ :=
      kept.whole name fun w mem => proper w (List.mem_append_left _ mem)
    · exact .inl same
    · exact .inr ⟨w, List.mem_append_left _ mem, is⟩

theorem Kept.call (kept : s.Kept first) {process : Nat} {path : String} {content : List UInt8}
    (apart : (s.step (.call process path content)).Apart) :
    (s.step (.call process path content)).Kept first :=
  kept.add rfl rfl fun w mem =>
    apart w (List.mem_append_left _ mem) _ (List.mem_append_right _ List.mem_cons_self)

theorem Kept.turn (kept : s.Kept first) (apart : s.Apart) {later : Scene} {w v : Writer}
    {rest : List Writer} (turn : s.Turn later w v rest)
    (moved : w.Moved v (first.find? w.temporary) s.dir later.dir) : later.Kept first := by
  have mem : w ∈ s.writers := (turn.mem_was w).mpr (.inl rfl)
  constructor
  · exact turn.tickets.nodup_iff.mpr kept.distinct
  · intro u there
    rw [turn.calls]
    obtain rfl | there := (turn.mem_now u).mp there
    · rw [turn.ticket]
      exact kept.numbered w mem
    · exact kept.numbered u ((turn.mem_was u).mpr (.inr there))
  · intro u there
    obtain rfl | there := (turn.mem_now u).mp there
    · rw [turn.temporary]
      exact moved.held
    · have old := (turn.mem_was u).mpr (.inr there)
      obtain same | ⟨path, -⟩ :=
        moved.others u.temporary (turn.temporary_ne kept.distinct u there)
      · exact same.trans (kept.held u old)
      · exact absurd path (apart w mem u old)
  · intro path proper
    have proper := turn.proper proper
    obtain same | ⟨placed, -, rfl, found⟩ := moved.others path (proper w mem)
    · obtain still | ⟨u, there, is, ended, found⟩ := kept.whole path proper
      · exact .inl (same.trans still)
      · refine .inr ⟨u, (turn.mem_now u).mpr ?_, is, ended, same.trans found⟩
        obtain rfl | there := (turn.mem_was u).mp there
        · exact .inl (moved.returned _ ended).symm
        · exact .inr there
    · exact .inr ⟨_, (turn.mem_now _).mpr (.inl rfl), placed, rfl, found⟩

theorem Kept.step (kept : s.Kept first) (apart : s.Apart) (i : Nat) (fate : Fate) :
    (s.step (.step i fate)).Kept first := by
  obtain same | ⟨w, rest, turn, dir⟩ := s.step_cases i fate
  · rwa [same]
  · have mem : w ∈ s.writers := (turn.mem_was w).mpr (.inl rfl)
    refine kept.turn apart turn ?_
    rw [dir]
    exact w.moved (kept.held w mem) (apart w mem w mem) fate

theorem kept_run (first : Directory) {events : List Event}
    (apart : (run { dir := first } events).Apart) : (run { dir := first } events).Kept first := by
  induction events using List.reverseRecOn with
  | nil => exact ⟨List.nodup_nil, by simp [run], by simp [run], fun _ _ => .inl rfl⟩
  | append_singleton events event ih =>
    rw [run, List.foldl_append] at apart ⊢
    have before := apart.before
    cases event with
    | call process path content => exact (ih before).call apart
    | step i fate => exact (ih before).step before i fate

/-- What `write` does is what happens to the first writer of a process that is alone. -/
theorem run_alone (process : Nat) (room : Option Nat) (path : String) (content : List UInt8)
    (dir : Directory) :
    let o : Origin := { ticket := { process }, room }
    run { dir } [.call process path content, .step 0 .done, .step 0 (o.filling content),
        .step 0 .done, .step 0 .done] =
      { dir := (write o path content dir).2, writers := [(write o path content dir).1] } :=
  rfl

end Scene

/-- Whatever writers there are, in whatever order they work and whatever fails: as long as no path
is the temporary file of a call, a file holds what it held first or the whole content of a writer
to it that has put it in place, and each event leaves it as it is or puts there the whole content
of one writer to it. A call comes back after four steps at most, and if it gets to rename its file,
its content is in place. The temporary file of a call that has come back is gone, but for two cases.
If it could not be created, all is as it was first; and if it could not be filled, it stays with
the octets that it was given. -/
theorem published_whole (first : Directory) (events : List Event)
    (apart : (Scene.run { dir := first } events).Apart) :
    let s := Scene.run { dir := first } events
    (∀ path, (∀ w ∈ s.writers, path ≠ w.temporary) →
      (s.dir.find? path = first.find? path ∨
        ∃ w ∈ s.writers, w.path = path ∧ w.stage = .returned .published ∧
          s.dir.find? path = some w.content) ∧
      ∀ event, (s.step event).dir.find? path = s.dir.find? path ∨
        ∃ w ∈ s.writers, w.path = path ∧ w.stage = .renaming ∧
          (s.step event).dir.find? path = some w.content) ∧
    ∀ i w, s.writers[i]? = some w →
      (∀ fate, ∃ v, (s.step (.step i fate)).writers[i]? = some v ∧
        v.stage.remaining ≤ w.stage.remaining - 1) ∧
      (w.stage = .renaming → (s.step (.step i .done)).dir.find? w.path = some w.content) ∧
      ∀ ending, w.stage = .returned ending →
        s.dir.find? w.temporary = ending.left w.content (first.find? w.temporary) := by
  intro s
  have kept : s.Kept first := Scene.kept_run first apart
  refine ⟨fun path proper => ⟨kept.whole path proper, fun event => ?_⟩, ?_⟩
  · cases event with
    | call process path content => exact .inl rfl
    | step i fate =>
      obtain same | ⟨w, rest, turn, dir⟩ := s.step_cases i fate
      · exact .inl (by rw [same])
      · have mem : w ∈ s.writers := (turn.mem_was w).mpr (.inl rfl)
        have moved := w.moved (kept.held w mem) (apart w mem w mem) fate
        rw [dir]
        obtain same | ⟨placed, stage, -, found⟩ := moved.others path (proper w mem)
        · exact .inl same
        · exact .inr ⟨w, mem, placed, stage, found⟩
  · intro i w found
    have held := kept.held w (List.mem_of_getElem? found)
    refine ⟨fun fate => ?_, fun placing => ?_, fun ending ended => ?_⟩
    · obtain ⟨lies, is⟩ := List.getElem?_eq_some_iff.mp found
      exact ⟨(w.step s.dir fate).1, by simp [Scene.step, lies, is], w.remaining_step _ _⟩
    · rw [Writer.held, placing] at held
      simpa [Scene.step, found] using Writer.places placing held
    · rw [held, Writer.held, ended]

/-- Two processes write one file at the same time, and one of them writes another file that it
cannot create and then a third that it cannot fill. -/
def contended : List Event :=
  [.call 1 "k.cwasm" [1, 2, 3], .call 2 "k.cwasm" [4, 5], .step 0 .done, .step 1 .done,
    .step 1 .done, .step 0 .done, .step 1 .done, .step 0 .taken, .call 2 "l.cwasm" [6],
    .step 2 (.failed "Permission denied (os error 13)" 0), .step 0 .done, .call 2 "m.cwasm" [7, 8],
    .step 3 .done, .step 3 (.failed "No space left on device (os error 28)" 1)]

theorem published_whole_contended :
    let s := Scene.run { dir := ∅ } contended
    s.dir.entries = [("k.cwasm", [4, 5]), ("m.cwasm.tmp-2-2", [7])] ∧
      (∀ event, (s.step event).dir.find? "k.cwasm" = some [4, 5] ∨
        ∃ w ∈ s.writers, w.path = "k.cwasm" ∧ w.stage = .renaming ∧
          (s.step event).dir.find? "k.cwasm" = some w.content) ∧
      ∀ w, s.writers[3]? = some w → ∀ ending, w.stage = .returned ending →
        s.dir.find? w.temporary = ending.left w.content none := by
  intro s
  obtain ⟨whole, calls⟩ := published_whole ∅ contended (by decide +kernel)
  have found : s.dir.find? "k.cwasm" = some [4, 5] := by decide +kernel
  obtain ⟨-, steps⟩ := whole "k.cwasm" (by decide +kernel)
  exact ⟨by decide +kernel, found ▸ steps, fun w is => (calls 3 w is).2.2⟩

/-- The disk is full when a file is filled: the call comes back with the error, and what it has
written of its temporary file stays. -/
theorem unfilled_file_stays :
    let full := "No space left on device (os error 28)"
    let s := Scene.run { dir := ∅ }
      [.call 1 "k.cwasm" [1, 2, 3], .step 0 .done, .step 0 (.failed full 2)]
    s.writers.map (·.stage) = [.returned (.unfilled 2 full)] ∧
      s.writers.map (·.temporary) = ["k.cwasm.tmp-1-0"] ∧
      s.dir.entries = [("k.cwasm.tmp-1-0", [1, 2])] := by
  decide +kernel

end RobotTurn.Host.Publish
