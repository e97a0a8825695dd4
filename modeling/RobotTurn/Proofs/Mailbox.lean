import RobotTurn.Demo
import RobotTurn.Mailbox
import RobotTurn.Proofs.Runner.Session
import RobotTurn.Proofs.Wire.Reply

/-! Any sequence of calls through the buffer. The first `init` decides the session, and later
ones leave it alone exactly as long as the factory can build a robot from their payloads. -/
namespace RobotTurn.Mailbox

open Json (Wire Lawful)

variable {σ α : Type}

/-- A call, with what the buffer holds when it is made. -/
inductive Request where
  | init (payload : List UInt8)
  | turn (document : List UInt8)

def Request.isTurn : Request → Bool
  | init _ => false
  | turn _ => true

def handle (m : Mailbox σ) : Request → Exchange σ
  | .init payload => { m with buffer := payload }.init
  | .turn document => { m with buffer := document }.turn

/-- The session after some calls. -/
def after (m : Mailbox σ) (rs : List Request) : Mailbox σ :=
  rs.foldl (fun m r => (m.handle r).mailbox) m

/-- A call that came back with a reply. The reply lies in the buffer, and the call returns how long
it is, or zero if it is longer than a word can tell. -/
structure Exchange.Replies [Wire α] (x : Exchange σ) (reply : Except SessionError α) : Prop where
  length : ∃ n : UInt32, x.length = some n ∧
    n.toNat = if (Json.encode reply).length < 2 ^ 32 then (Json.encode reply).length else 0
  buffer : x.mailbox.buffer = Json.encode reply

theorem Exchange.Replies.unique [Wire α] [Lawful α] {x : Exchange σ} {r s : Except SessionError α}
    (hr : x.Replies r) (hs : x.Replies s) : r = s :=
  Json.encode_inj (hr.buffer.symm.trans hs.buffer)

theorem toNat_lengthWord (reply : List UInt8) :
    (lengthWord reply).toNat = if reply.length < 2 ^ 32 then reply.length else 0 := by
  rw [lengthWord]
  split
  · next fits => simpa using Nat.mod_eq_of_lt fits
  · rfl

theorem Exchange.replies_of_eq [Wire α] {x : Exchange σ} {reply : Except SessionError α}
    (length : x.length = some (lengthWord (Json.encode reply)))
    (buffer : x.mailbox.buffer = Json.encode reply) : x.Replies reply :=
  ⟨⟨_, length, toNat_lengthWord _⟩, buffer⟩

theorem after_append (m : Mailbox σ) (rs ss : List Request) :
    m.after (rs ++ ss) = (m.after rs).after ss := List.foldl_append

/-! ## One call -/

theorem init_eq (m : Mailbox σ) (payload : List UInt8) :
    let loaded := Runner.load m.factory payload m.runner
    let x := m.handle (.init payload)
    x.Replies loaded.1 ∧ x.mailbox.runner = loaded.2 ∧ x.mailbox.factory = m.factory :=
  ⟨Exchange.replies_of_eq rfl rfl, rfl, rfl⟩

theorem turn_eq (m : Mailbox σ) (document : List UInt8) :
    let step := m.runner.turnFrom document
    let x := m.handle (.turn document)
    (∀ reply, step.answer = some reply → x.Replies reply) ∧
      (step.answer = none → x.length = none) ∧
      x.mailbox.runner = step.runner ∧ x.mailbox.factory = m.factory := by
  simp only [handle, turn, reduceCtorEq, false_and, ↓reduceIte]
  cases answer : (m.runner.turnFrom document).answer with
  | none => exact ⟨nofun, fun _ => rfl, rfl, rfl⟩
  | some reply =>
    refine ⟨fun other h => ?_, nofun, rfl, rfl⟩
    cases h
    exact Exchange.replies_of_eq rfl rfl

/-- The runner after a call. -/
def advance (factory : Factory σ) (r : Runner σ) : Request → Runner σ
  | .init payload => (Runner.load factory payload r).2
  | .turn document => (r.turnFrom document).runner

theorem runner_handle (m : Mailbox σ) (r : Request) :
    (m.handle r).mailbox.runner = advance m.factory m.runner r := by
  cases r with
  | init payload => exact (init_eq m payload).2.1
  | turn document => exact (turn_eq m document).2.2.1

theorem factory_handle (m : Mailbox σ) (r : Request) :
    (m.handle r).mailbox.factory = m.factory := by
  cases r with
  | init payload => exact (init_eq m payload).2.2
  | turn document => exact (turn_eq m document).2.2.2

theorem factory_after (m : Mailbox σ) (rs : List Request) : (m.after rs).factory = m.factory := by
  induction rs generalizing m with
  | nil => rfl
  | cons r rs ih => exact (ih _).trans (factory_handle m r)

theorem runner_after (m : Mailbox σ) (rs : List Request) :
    (m.after rs).runner = rs.foldl (advance m.factory) m.runner := by
  induction rs generalizing m with
  | nil => rfl
  | cons r rs ih =>
    rw [List.foldl_cons, ← runner_handle, ← factory_handle m r, ← ih]
    rfl

/-! ## A session that has started -/

theorem advance_ne_idle {factory : Factory σ} {r : Runner σ} (h : r ≠ .idle) (q : Request) :
    advance factory r q ≠ .idle := by
  cases q with
  | turn document => exact Runner.turnFrom_ne_idle h document
  | init payload => exact Runner.load_ne_idle factory payload r

theorem after_ne_idle {m : Mailbox σ} (h : m.runner ≠ .idle) (rs : List Request) :
    (m.after rs).runner ≠ .idle := by
  induction rs generalizing m with
  | nil => exact h
  | cons r rs ih =>
    refine ih ?_
    rw [runner_handle]
    exact advance_ne_idle h r

/-- Every payload among the calls gives a robot. -/
def Accepted (factory : Factory σ) (rs : List Request) : Prop :=
  ∀ payload, .init payload ∈ rs → ∃ robot, factory payload = .ok robot

theorem advance_init {factory : Factory σ} {r : Runner σ} (h : r ≠ .idle) {payload : List UInt8}
    (accepted : ∃ robot, factory payload = .ok robot) :
    advance factory r (.init payload) = r := by
  obtain ⟨robot, built⟩ := accepted
  rw [advance, Runner.load_accepted built h]

/-- Only the turns among the calls count. -/
theorem foldl_advance_filter {factory : Factory σ} {rs : List Request}
    (accepted : Accepted factory rs) {r : Runner σ} (h : r ≠ .idle) :
    rs.foldl (advance factory) r = (rs.filter Request.isTurn).foldl (advance factory) r := by
  induction rs generalizing r with
  | nil => rfl
  | cons q rs ih =>
    have later : Accepted factory rs := fun payload mem =>
      accepted payload (List.mem_cons_of_mem _ mem)
    cases q with
    | turn document => exact ih later (advance_ne_idle h _)
    | init payload =>
      rw [List.foldl_cons, advance_init h (accepted payload List.mem_cons_self), ih later h]
      rfl

theorem foldl_advance_failed {factory : Factory σ} {rs : List Request}
    (accepted : Accepted factory rs) (e : SessionError) :
    rs.foldl (advance factory) (.failed e) = .failed e := by
  induction rs with
  | nil => rfl
  | cons q rs ih =>
    have later := ih fun payload mem => accepted payload (List.mem_cons_of_mem _ mem)
    cases q with
    | turn document => exact later
    | init payload =>
      rw [List.foldl_cons, advance_init (r := .failed e) nofun
        (accepted payload List.mem_cons_self), later]

theorem foldl_advance_idle (factory : Factory σ) (documents : List (List UInt8)) :
    (documents.map Request.turn).foldl (advance factory) .idle = .idle := by
  induction documents with
  | nil => rfl
  | cons document documents ih => exact ih

/-! ## One start -/

/-- A session that was started once: each `init` among the calls is refused and changes
nothing, so the turns alone decide what the session comes to, and a session that has failed
answers every turn with its failure. -/
structure OneShot (m : Mailbox σ) (rs : List Request) : Prop where
  refused : ∀ before payload later, rs = before ++ .init payload :: later →
    let x := (m.after before).handle (.init payload)
    x.Replies (.error .internal : InitReply) ∧ x.mailbox.runner = (m.after before).runner
  decided : ∀ before later, rs = before ++ later →
    (m.after before).runner = (m.after (before.filter Request.isTurn)).runner
  final : ∀ before between document later e,
    rs = before ++ between ++ .turn document :: later → (m.after before).runner = .failed e →
    ((m.after (before ++ between)).handle (.turn document)).Replies (.error e : TurnReply)

theorem oneShot_of_accepted {m : Mailbox σ} (started : m.runner ≠ .idle) {rs : List Request}
    (accepted : Accepted m.factory rs) : m.OneShot rs where
  refused := by
    rintro before payload later rfl
    obtain ⟨replies, runner, -⟩ := init_eq (m.after before) payload
    obtain ⟨robot, built⟩ := accepted payload (by simp)
    rw [factory_after, Runner.load_accepted built (after_ne_idle started before)] at replies runner
    exact ⟨replies, runner⟩
  decided := by
    rintro before later rfl
    have early : Accepted m.factory before := fun payload mem =>
      accepted payload (List.mem_append_left _ mem)
    rw [runner_after, runner_after]
    exact foldl_advance_filter early started
  final := by
    rintro before between document later e rfl failed
    have middle : Accepted m.factory between := fun payload mem =>
      accepted payload (by simp [mem])
    have still : (m.after (before ++ between)).runner = .failed e := by
      rw [after_append, runner_after, factory_after, failed, foldl_advance_failed middle]
    refine (turn_eq _ document).1 _ ?_
    rw [still]
    rfl

/-- Whatever turns were asked for before, the first `init` decides the session. From then on it
is started once and for all exactly if every later payload gives a robot as well: one that
gives none is answered with its own failure, and the session fails with it. -/
theorem one_shot_iff (factory : Factory σ) (documents : List (List UInt8))
    (payload : List UInt8) (rs : List Request) :
    let m := Mailbox.after { factory } (documents.map .turn)
    let x := m.handle (.init payload)
    x.Replies (Runner.load factory payload .idle).1 ∧
      x.mailbox.runner = (Runner.load factory payload .idle).2 ∧
      (x.mailbox.OneShot rs ↔ Accepted factory rs) ∧
      ∀ before rejected later f, rs = before ++ .init rejected :: later →
        factory rejected = .error f →
        let e := SessionError.initFailed (f.report Robot.defaultSource)
        let y := (x.mailbox.after before).handle (.init rejected)
        y.Replies (.error e : InitReply) ∧ y.mailbox.runner = .failed e := by
  intro m x
  have same : m.factory = factory := factory_after _ _
  have idle : m.runner = .idle := (runner_after _ _).trans (foldl_advance_idle factory documents)
  obtain ⟨replies, runner, kept⟩ := init_eq m payload
  rw [same, idle] at replies runner
  have started : x.mailbox.runner ≠ .idle := by
    rw [runner]
    exact Runner.load_ne_idle factory payload .idle
  have failing (before : List Request) (rejected : List UInt8) (f : Failure)
      (none : factory rejected = .error f) :
      let e := SessionError.initFailed (f.report Robot.defaultSource)
      let y := (x.mailbox.after before).handle (.init rejected)
      y.Replies (.error e : InitReply) ∧ y.mailbox.runner = .failed e := by
    obtain ⟨replies, runner, -⟩ := init_eq (x.mailbox.after before) rejected
    rw [factory_after, kept, same, Runner.load_rejected none] at replies runner
    exact ⟨replies, runner⟩
  refine ⟨replies, runner, ⟨fun law rejected mem => ?_, fun accepted => ?_⟩, ?_⟩
  · obtain ⟨before, later, rfl⟩ := List.append_of_mem mem
    cases built : factory rejected with
    | ok robot => exact ⟨robot, rfl⟩
    | error f =>
      have clash := (law.refused before rejected later rfl).1.unique
        (failing before rejected f built).1
      cases clash
  · refine oneShot_of_accepted started ?_
    rwa [kept, same]
  · rintro before rejected later f - none
    exact failing before rejected f none

theorem one_shot_iff_demo :
    let x := Mailbox.handle { factory := Demo.robot } (.init [])
    x.mailbox.OneShot [.init [], .turn [], .init (Utf8.encode "patrol")] ∧
      ¬ x.mailbox.OneShot [.turn [], .init (Utf8.encode "oops")] := by
  obtain ⟨-, -, kept, -⟩ := one_shot_iff Demo.robot [] []
    [.init [], .turn [], .init (Utf8.encode "patrol")]
  obtain ⟨-, -, broken, -⟩ := one_shot_iff Demo.robot [] [] [.turn [], .init (Utf8.encode "oops")]
  refine ⟨kept.mpr fun payload mem => ?_, fun law => ?_⟩
  · simp only [List.mem_cons, Request.init.injEq, reduceCtorEq, List.not_mem_nil, or_false,
      false_or] at mem
    rcases mem with rfl | rfl
    · exact ⟨_, rfl⟩
    · exact ⟨_, rfl⟩
  · obtain ⟨robot, built⟩ := broken.mp law (Utf8.encode "oops") (by simp)
    cases built

/-- A hunter is at work, and a mode that nobody knows ends its session. -/
theorem unknown_mode_fails_session :
    let first := Mailbox.handle { factory := Demo.robot } (.init [])
    let second := first.mailbox.handle (.init (Utf8.encode "oops"))
    first.Replies (.ok () : InitReply) ∧ first.mailbox.runner.isReady = true ∧
      ¬ second.Replies (.error .internal : InitReply) ∧
      second.mailbox.runner.isReady = false ∧
      ¬ first.mailbox.OneShot [.init (Utf8.encode "oops")] := by
  intro first second
  obtain ⟨f, unknown⟩ : ∃ f, Demo.robot (Utf8.encode "oops") = .error f := ⟨_, rfl⟩
  have factory : first.mailbox.factory = Demo.robot := rfl
  obtain ⟨replies, runner, -⟩ := init_eq first.mailbox (Utf8.encode "oops")
  rw [factory, Runner.load_rejected unknown] at replies runner
  have failed : second.mailbox.runner.isReady = false := by rw [runner]; rfl
  refine ⟨(init_eq _ _).1, rfl, fun internal => ?_, failed, fun law => ?_⟩
  · cases replies.unique internal
  · have own := (init_eq (first.mailbox.after []) (Utf8.encode "oops")).1
    rw [factory_after, factory, Runner.load_rejected unknown] at own
    cases own.unique (law.refused [] _ [] (List.nil_append _).symm).1

end RobotTurn.Mailbox
