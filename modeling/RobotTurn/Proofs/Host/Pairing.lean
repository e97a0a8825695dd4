import RobotTurn.Proofs.Host.Lines

/-! Turns and replies over lines. What a robot writes for a turn is a group: lines of its own
and then one marked line. Turn by turn the host takes one group exactly as long as the lines
of the robot's own are text. -/
namespace RobotTurn.Host

open Child (trimmed lineText body?)

/-- The mark of a reply. -/
def outputMark : List UInt8 := Utf8.encode (LineRobot.mark .output)

/-- The log lines that lines of the robot's own come to. -/
def notes (strays : List (List UInt8)) : List String :=
  strays.map fun body => Utf8.lossy (trimmed body)

/-- A line with its end. -/
def closed (body : List UInt8) : List UInt8 := body ++ [0x0A]

theorem line_closed {body : List UInt8} (h : 0x0A ∉ body) :
    Text.Line (· == 0x0A) (closed body) :=
  ⟨body, 0x0A, rfl, fun _ mem => beq_eq_false_iff_ne.mpr fun eq => h (eq ▸ mem), rfl⟩

/-- What a robot writes for one turn, without the ends of the lines and the mark. -/
structure Group where
  strays : List (List UInt8)
  reply : List UInt8

namespace Group

/-- The lines of a group, the reply last. -/
def lines (g : Group) : List (List UInt8) :=
  g.strays.map closed ++ [closed (outputMark ++ g.reply)]

/-- Every line is one line, and only the last one is marked. -/
structure Formed (g : Group) : Prop where
  whole : ∀ body ∈ g.strays, 0x0A ∉ body
  unmarked : ∀ body ∈ g.strays, ¬ outputMark <+: body
  last : 0x0A ∉ g.reply

theorem Formed.line {g : Group} (h : g.Formed) {l : List UInt8} (mem : l ∈ g.lines) :
    Text.Line (· == 0x0A) l := by
  rcases List.mem_append.mp mem with mem | mem
  · obtain ⟨body, listed, rfl⟩ := List.mem_map.mp mem
    exact line_closed (h.whole body listed)
  · rw [List.mem_singleton.mp mem]
    have mark : 0x0A ∉ outputMark := by decide
    exact line_closed (by simp [mark, h.last])

/-- Every line of the robot's own is text. -/
def Readable (g : Group) : Prop := ∀ body ∈ g.strays, Utf8.valid (closed body) = true

/-- What the marked line says, with the robot's own lines at the end of its log. -/
def verdict (g : Group) : TurnReply :=
  match Utf8.fault? (closed (outputMark ++ g.reply)) with
  | some (start, length) => .error (.io (StreamError.malformed start length).message)
  | none => (readReply (trimmed g.reply)).map (TurnReport.noting · (notes g.strays))

end Group

/-! ## One turn -/

namespace Child

theorem body?_stray {body : List UInt8} (h : ¬ outputMark <+: body) :
    body? .output (trimmed (closed body)) = none := by
  rw [closed, trimmed_feed]
  exact body?_none fun marked => h (marked.trans (trimmed_isPrefix body))

/-- A line of the robot's own is noted. -/
theorem await_stray {body : List UInt8} (text : Utf8.valid (closed body) = true)
    (unmarked : ¬ outputMark <+: body) (noted : List String)
    (rest : List (Except StreamError (List UInt8))) :
    await noted (.ok (closed body) :: rest) =
      await (noted ++ [Utf8.lossy (trimmed body)]) rest := by
  rw [await, lineText_ok text]
  simp only [body?_stray unmarked]
  rw [closed, trimmed_feed]

/-- A line that is not text ends the turn, and what stands behind it is left unread. -/
theorem await_fault {raw : List UInt8} (fault : Utf8.valid raw = false) (noted : List String)
    (rest : List (Except StreamError (List UInt8))) :
    ∃ message, await noted (.ok raw :: rest) = (.error (.io message), rest) := by
  cases found : Utf8.fault? raw with
  | none =>
    rw [Utf8.fault?_eq_none_iff, fault] at found
    cases found
  | some place =>
    refine ⟨(StreamError.malformed place.1 place.2).message, ?_⟩
    rw [await, lineText_fault found]

theorem await_strays {bodies : List (List UInt8)}
    (text : ∀ body ∈ bodies, Utf8.valid (closed body) = true)
    (unmarked : ∀ body ∈ bodies, ¬ outputMark <+: body) (noted : List String)
    (rest : List (Except StreamError (List UInt8))) :
    await noted (bodies.map (.ok ∘ closed) ++ rest) =
      await (noted ++ notes bodies) rest := by
  induction bodies generalizing noted with
  | nil => simp [notes]
  | cons body bodies ih =>
    rw [List.map_cons, List.cons_append, Function.comp_apply,
      await_stray (text body List.mem_cons_self) (unmarked body List.mem_cons_self),
      ih (fun b h => text b (List.mem_cons_of_mem _ h))
        (fun b h => unmarked b (List.mem_cons_of_mem _ h))]
    simp [notes]

theorem await_output (reply : List UInt8) (noted : List String)
    (rest : List (Except StreamError (List UInt8))) :
    await noted (.ok (closed (outputMark ++ reply)) :: rest) =
      ((match Utf8.fault? (closed (outputMark ++ reply)) with
        | some (start, length) => .error (.io (StreamError.malformed start length).message)
        | none => (readReply (trimmed reply)).map (TurnReport.noting · noted)), rest) := by
  cases found : Utf8.fault? (closed (outputMark ++ reply)) with
  | some place => rw [await, lineText_fault found]
  | none =>
    rw [await, lineText_ok ((Utf8.fault?_eq_none_iff _).mp found), closed, trimmed_feed,
      outputMark, trimmed_mark]
    simp only [body?_mark]

/-- What the end of the output leaves of a line is a reply only if its mark is whole. -/
theorem await_cut {cut : List UInt8} (whole : 0x0A ∉ cut) (text : Utf8.valid cut = true)
    (noted : List String) :
    (await noted ((Text.rawLines cut).map .ok)).2 = [] ∧
      (¬ outputMark <+: cut →
        (await noted ((Text.rawLines cut).map .ok)).1 = .error .noData) ∧
      ∀ reply, cut = outputMark ++ reply →
        (await noted ((Text.rawLines cut).map .ok)).1 =
          (readReply (trimmed reply)).map (TurnReport.noting · noted) := by
  have inner : ∀ b ∈ cut, (b == 0x0A) = false := fun b mem =>
    beq_eq_false_iff_ne.mpr fun eq => whole (eq ▸ mem)
  by_cases empty : cut = []
  · subst empty
    refine ⟨rfl, fun _ => rfl, fun reply h => ?_⟩
    exact absurd (List.append_eq_nil_iff.mp h.symm).1 (by decide)
  · rw [Text.rawLines, Text.pieces_open inner empty, List.map_singleton, await, lineText_ok text]
    by_cases marked : outputMark <+: cut
    · obtain ⟨reply, rfl⟩ := marked
      rw [outputMark, trimmed_mark]
      simp only [body?_mark]
      refine ⟨trivial, fun unmarked => absurd (List.prefix_append _ _) unmarked,
        fun other h => ?_⟩
      rw [List.append_cancel_left h]
    · have stray : body? .output (trimmed cut) = none :=
        body?_none fun h => marked (h.trans (trimmed_isPrefix cut))
      simp only [stray]
      exact ⟨rfl, fun _ => rfl, fun reply h => absurd ⟨reply, h.symm⟩ marked⟩

/-- A reply that was written as one is read as it was. -/
theorem verdict_encode (strays : List (List UInt8)) (reply : TurnReply) :
    (Group.mk strays (Json.encode reply)).verdict =
      reply.map (TurnReport.noting · (notes strays)) := by
  have line := await_line (notes strays) reply []
  have output := await_output (Json.encode reply) (notes strays) []
  exact congrArg Prod.fst (output.symm.trans line)

/-- A turn over a readable group comes to its verdict and takes nothing else. -/
theorem await_group {g : Group} (formed : g.Formed) (readable : g.Readable)
    (rest : List (Except StreamError (List UInt8))) :
    await [] (g.lines.map .ok ++ rest) = (g.verdict, rest) := by
  rw [Group.lines, List.map_append, List.map_map, List.append_assoc,
    await_strays readable formed.unmarked]
  exact await_output g.reply _ rest

/-- A turn that takes exactly one group has found it readable. -/
theorem readable_of_await {g : Group} (formed : g.Formed)
    {rest : List (Except StreamError (List UInt8))}
    (h : (await [] (g.lines.map .ok ++ rest)).2 = rest) : g.Readable := by
  suffices general : ∀ (bodies : List (List UInt8)) (noted : List String),
      (∀ body ∈ bodies, ¬ outputMark <+: body) →
      (await noted (bodies.map (.ok ∘ closed) ++
        .ok (closed (outputMark ++ g.reply)) :: rest)).2 = rest →
      ∀ body ∈ bodies, Utf8.valid (closed body) = true by
    refine general g.strays [] formed.unmarked ?_
    rwa [Group.lines, List.map_append, List.map_map, List.append_assoc] at h
  intro bodies
  induction bodies with
  | nil => exact fun _ _ _ => nofun
  | cons body bodies ih =>
    intro noted unmarked h
    rw [List.map_cons, List.cons_append, Function.comp_apply] at h
    cases text : Utf8.valid (closed body) with
    | false =>
      obtain ⟨message, stopped⟩ := await_fault text noted
        (bodies.map (.ok ∘ closed) ++ .ok (closed (outputMark ++ g.reply)) :: rest)
      rw [stopped] at h
      have longer := congrArg List.length h
      simp at longer
      omega
    | true =>
      rw [await_stray text (unmarked body List.mem_cons_self)] at h
      have later := ih _ (fun b m => unmarked b (List.mem_cons_of_mem _ m)) h
      intro other mem
      rcases List.mem_cons.mp mem with rfl | mem
      · exact text
      · exact later other mem

end Child

/-! ## Any number of turns -/

namespace Session

/-- The session after some turns. -/
def afterTurns (s : Session Child) (boards : List Board) : Session Child :=
  boards.foldl (fun s b => (s.turnChild b).2) s

/-- What some turns are answered with. -/
def answers (s : Session Child) : List Board → List (Except HostError (Answer TurnReport))
  | [] => []
  | b :: boards => (s.turnChild b).1 :: (s.turnChild b).2.answers boards

/-- A session that has started and whose robot takes every request from now on. -/
structure Open (s : Session Child) : Prop where
  ready : s.phase = .ready
  takes : ∀ n, s.link.asked ≤ n → ∀ request, s.link.refuses n request = none

theorem Open.turnChild_eq {s : Session Child} (h : s.Open) (b : Board) :
    s.turnChild b = (.ok { reply := (Child.await [] s.link.incoming).1 },
      { s with link := { s.link with
          incoming := (Child.await [] s.link.incoming).2
          asked := s.link.asked + 1
          sent := s.link.sent ++ [Child.request b] } }) := by
  simp only [turnChild, turn, h.ready, Child.play, h.takes _ (Nat.le_refl _)]
  rfl

theorem Open.turnChild {s : Session Child} (h : s.Open) (b : Board) : (s.turnChild b).2.Open := by
  rw [h.turnChild_eq]
  exact ⟨h.ready, fun n later => h.takes n (Nat.le_of_succ_le later)⟩

theorem Open.afterTurns {s : Session Child} (h : s.Open) (boards : List Board) :
    (s.afterTurns boards).Open := by
  induction boards generalizing s with
  | nil => exact h
  | cons b boards ih => exact ih (h.turnChild b)

/-- Turn by turn the host takes exactly one group, and each turn is answered by the verdict of
its own. -/
structure Paired (s : Session Child) (boards : List Board) (groups : List Group)
    (rest : List (List UInt8)) : Prop where
  answers : s.answers boards = groups.map fun g => .ok { reply := g.verdict }
  stream : ∀ k ≤ groups.length, (s.afterTurns (boards.take k)).link.incoming =
    ((groups.drop k).flatMap Group.lines ++ rest).map .ok

theorem paired_of_readable {s : Session Child} (h : s.Open) {groups : List Group}
    {rest : List (List UInt8)}
    (incoming : s.link.incoming = (groups.flatMap Group.lines ++ rest).map .ok)
    (formed : ∀ g ∈ groups, g.Formed) (readable : ∀ g ∈ groups, g.Readable)
    {boards : List Board} (count : boards.length = groups.length) :
    s.Paired boards groups rest := by
  induction groups generalizing s boards with
  | nil =>
    obtain rfl := List.length_eq_zero_iff.mp count
    refine ⟨rfl, fun k _ => ?_⟩
    simpa [afterTurns] using incoming
  | cons g groups ih =>
    obtain ⟨b, boards, rfl⟩ := List.exists_cons_of_length_eq_add_one count
    rw [List.flatMap_cons, List.append_assoc, List.map_append] at incoming
    have taken := Child.await_group (formed g List.mem_cons_self) (readable g List.mem_cons_self)
      ((groups.flatMap Group.lines ++ rest).map .ok)
    have step := h.turnChild_eq b
    rw [incoming, taken] at step
    obtain ⟨answers, stream⟩ := ih (h.turnChild b) (by rw [step])
      (fun g m => formed g (List.mem_cons_of_mem _ m))
      (fun g m => readable g (List.mem_cons_of_mem _ m)) (Nat.succ.inj count)
    refine ⟨?_, fun k le => ?_⟩
    · rw [Session.answers, answers, step]
      rfl
    · cases k with
      | zero => simpa [afterTurns] using incoming
      | succ k => exact stream k (Nat.le_of_succ_le_succ le)

theorem readable_of_paired {s : Session Child} (h : s.Open) {groups : List Group}
    {rest : List (List UInt8)} (formed : ∀ g ∈ groups, g.Formed)
    {boards : List Board} (count : boards.length = groups.length)
    (paired : s.Paired boards groups rest) : ∀ g ∈ groups, g.Readable := by
  induction groups generalizing s boards with
  | nil => exact nofun
  | cons g groups ih =>
    obtain ⟨b, boards, rfl⟩ := List.exists_cons_of_length_eq_add_one count
    have first : s.link.incoming = ((g :: groups).flatMap Group.lines ++ rest).map .ok :=
      paired.stream 0 (Nat.zero_le _)
    have second : (s.turnChild b).2.link.incoming = (groups.flatMap Group.lines ++ rest).map .ok :=
      paired.stream 1 (by simp)
    rw [h.turnChild_eq, first, List.flatMap_cons, List.append_assoc, List.map_append] at second
    have later := ih (h.turnChild b) (fun g m => formed g (List.mem_cons_of_mem _ m))
      (Nat.succ.inj count)
      ⟨(List.cons.inj paired.answers).2, fun k le => paired.stream (k + 1) (by simpa using le)⟩
    intro other mem
    rcases List.mem_cons.mp mem with rfl | mem
    · exact Child.readable_of_await (formed _ List.mem_cons_self) second
    · exact later other mem

/-! ## A whole transcript -/

/-- A line that starts a session on its own starts it whatever follows. -/
theorem initChild_line {line : List UInt8}
    (success : (initChild { link := { incoming := [.ok line] } }).1 = .ok { reply := .ok () })
    (rest : List (Except StreamError (List UInt8))) :
    initChild { link := { incoming := .ok line :: rest } } =
      (.ok { reply := .ok () }, { phase := .ready, link := { incoming := rest } }) := by
  have answer : (Child.start { incoming := [.ok line] }).1 = { reply := .ok () } :=
    Except.ok.inj success
  have start : Child.start { incoming := .ok line :: rest } =
      ((Child.start { incoming := [.ok line] }).1, { incoming := rest }) := rfl
  simp only [initChild, init, start, answer]
  rfl

/-- All that a robot writes: the line of its start, its groups, and what is left of a group
that breaks off. -/
def transcript (first : List UInt8) (groups : List Group) (tail : List UInt8) : List UInt8 :=
  closed first ++ (groups.flatMap Group.lines).flatten ++ tail

/-- After the start the groups stand in the stream line by line. -/
theorem initChild_output {first : List UInt8} (one : 0x0A ∉ first)
    (success : (initChild { link := .ofOutput (closed first) }).1 = .ok { reply := .ok () })
    {groups : List Group} (formed : ∀ g ∈ groups, g.Formed) (tail : List UInt8) :
    initChild { link := .ofOutput (transcript first groups tail) } =
      (.ok { reply := .ok () }, {
        phase := .ready
        link := { incoming := (groups.flatMap Group.lines ++ Text.rawLines tail).map .ok } }) := by
  have each : ∀ l ∈ groups.flatMap Group.lines, Text.Line (· == 0x0A) l := by
    intro l mem
    obtain ⟨g, listed, inside⟩ := List.mem_flatMap.mp mem
    exact (formed g listed).line inside
  have lines : Text.rawLines (transcript first groups tail) =
      closed first :: (groups.flatMap Group.lines ++ Text.rawLines tail) := by
    rw [transcript, Text.rawLines, List.append_assoc, Text.pieces_cons (line_closed one),
      Text.pieces_flatten each]
    rfl
  have alone : Text.rawLines (closed first) = [closed first] := Text.pieces_line (line_closed one)
  simp only [Child.ofOutput, lines, List.map_cons]
  refine initChild_line ?_ _
  rwa [Child.ofOutput, alone] at success

/-- A robot starts with one line, and writes a group for each turn and something at the end.
The host takes one group a turn and answers each turn by the verdict on its own group exactly
if all lines of the robot's own are text. At the end there is no reply, unless the output
breaks off behind the mark of one. -/
theorem paired_iff {first : List UInt8} (one : 0x0A ∉ first)
    (success : (initChild { link := .ofOutput (closed first) }).1 = .ok { reply := .ok () })
    {groups : List Group} (formed : ∀ g ∈ groups, g.Formed) {boards : List Board}
    (count : boards.length = groups.length) (tail : List UInt8) :
    let started := initChild { link := .ofOutput (transcript first groups tail) }
    started.1 = .ok { reply := .ok () } ∧
      (started.2.Paired boards groups (Text.rawLines tail) ↔ ∀ g ∈ groups, g.Readable) ∧
      ((∀ g ∈ groups, g.Readable) →
        ∀ (strays : List (List UInt8)) (cut : List UInt8) (next : Board),
        tail = (strays.map closed).flatten ++ cut →
        (∀ body ∈ strays, 0x0A ∉ body ∧ ¬ outputMark <+: body ∧
          Utf8.valid (closed body) = true) →
        0x0A ∉ cut → Utf8.valid cut = true →
        let last := (started.2.afterTurns boards).turnChild next
        last.2.link.incoming = [] ∧
          (¬ outputMark <+: cut → last.1 = .ok { reply := .error .noData }) ∧
          ∀ reply, cut = outputMark ++ reply → last.1 = .ok {
            reply := (readReply (trimmed reply)).map (TurnReport.noting · (notes strays)) }) := by
  intro started
  have begun : started = _ := initChild_output one success formed tail
  have running : started.2.Open := by
    rw [begun]
    exact ⟨rfl, fun _ _ _ => rfl⟩
  have incoming : started.2.link.incoming =
      (groups.flatMap Group.lines ++ Text.rawLines tail).map .ok := by rw [begun]
  refine ⟨by rw [begun], ⟨readable_of_paired running formed count, fun readable =>
    paired_of_readable running incoming formed readable count⟩, ?_⟩
  rintro readable strays cut next rfl own whole text last
  have left : (started.2.afterTurns boards).link.incoming =
      strays.map (.ok ∘ closed) ++ (Text.rawLines cut).map .ok := by
    have paired := paired_of_readable running incoming formed readable count
    have stream := paired.stream groups.length (Nat.le_refl _)
    rw [← count, List.take_length, count, List.drop_length] at stream
    rw [stream, Text.rawLines, Text.pieces_flatten]
    · simp [Text.rawLines]
    · intro l mem
      obtain ⟨body, listed, rfl⟩ := List.mem_map.mp mem
      exact line_closed (own body listed).1
  have answer := (running.afterTurns boards).turnChild_eq next
  rw [left, Child.await_strays (fun body m => (own body m).2.2) (fun body m => (own body m).2.1)]
    at answer
  obtain ⟨done, nothing, marked⟩ := Child.await_cut whole text ([] ++ notes strays)
  simp only [last, answer]
  refine ⟨done, fun unmarked => ?_, fun reply h => ?_⟩
  · rw [nothing unmarked]
  · rw [marked reply h]
    rfl

/-! ## Two robots -/

/-- The line that starts a session. -/
def begin : List UInt8 := Utf8.encode (LineRobot.mark .init) ++ Json.encode (.ok () : InitReply)

theorem begin_starts :
    (initChild { link := .ofOutput (closed begin) }).1 = .ok { reply := .ok () } := by
  have lines : Text.rawLines (closed begin) = [closed begin] := by decide
  have start : Child.start { incoming := [.ok (closed begin)] } =
      ({ reply := .ok () }, { incoming := [] }) := Child.start_line (.ok ()) []
  simp only [initChild, init, Child.ofOutput, lines, List.map_singleton, start]
  rfl

def greeting : Group := ⟨[Utf8.encode "hello"], Json.encode (.ok { logs := ["one"] } : TurnReply)⟩

theorem paired_iff_greeting :
    let started := initChild {
      link := .ofOutput (transcript begin [greeting, greeting] (Utf8.encode "bye")) }
    started.2.Paired [default, default] [greeting, greeting] [Utf8.encode "bye"] ∧
      ((started.2.afterTurns [default, default]).turnChild default).1 =
        .ok { reply := .error .noData } := by
  have formed : ∀ g ∈ [greeting, greeting], g.Formed := by
    simp only [List.mem_cons, List.not_mem_nil, or_false, or_self, forall_eq]
    exact ⟨by decide, by decide, by decide⟩
  have readable : ∀ g ∈ [greeting, greeting], g.Readable := by
    simp only [List.mem_cons, List.not_mem_nil, or_false, or_self, forall_eq]
    exact fun body mem => by rw [List.mem_singleton.mp mem]; decide
  have count : ([default, default] : List Board).length = [greeting, greeting].length := rfl
  obtain ⟨-, iff, ending⟩ := paired_iff (by decide) begin_starts formed count (Utf8.encode "bye")
  refine ⟨iff.mpr readable, ?_⟩
  exact (ending readable [] _ default rfl nofun (by decide) (by decide)).2.1 (by decide)

/-- A robot that writes one octet that is no text, and then its replies. -/
theorem stray_octet_shifts_replies :
    let mute : Group := ⟨[[0xFF]], Json.encode (.error .internal : TurnReply)⟩
    let late : Group := ⟨[], Json.encode (.ok { logs := ["two"] } : TurnReply)⟩
    let started := initChild { link := .ofOutput (transcript begin [mute, late] []) }
    started.1 = .ok { reply := .ok () } ∧ mute.verdict = .error .internal ∧
      (∃ message, started.2.answers [default, default] =
        [.ok { reply := .error (.io message) }, .ok { reply := .error .internal }]) ∧
      ¬ started.2.Paired [default, default] [mute, late] [] := by
  intro mute late started
  have formed : ∀ g ∈ [mute, late], g.Formed := by
    simp only [List.mem_cons, List.not_mem_nil, or_false, forall_eq_or_imp, forall_eq]
    exact ⟨⟨by decide, by decide, by decide⟩, ⟨by decide, by decide, by decide⟩⟩
  have begun : started = _ := initChild_output (by decide) begin_starts formed []
  have running : started.2.Open := by
    rw [begun]
    exact ⟨rfl, fun _ _ _ => rfl⟩
  have verdict : mute.verdict = .error .internal := Child.verdict_encode _ _
  have incoming : started.2.link.incoming =
      .ok (closed [0xFF]) :: .ok (LineRobot.line .output (.error .internal : TurnReply)) ::
        late.lines.map .ok := by
    rw [begun]
    rfl
  obtain ⟨message, stopped⟩ := Child.await_fault (show Utf8.valid (closed [0xFF]) = false by decide)
    [] (.ok (LineRobot.line .output (.error .internal : TurnReply)) :: late.lines.map .ok)
  have one := running.turnChild_eq default
  rw [incoming, stopped] at one
  have two := (running.turnChild default).turnChild_eq default
  rw [one] at two
  dsimp only at two
  rw [Child.await_line] at two
  have answers : started.2.answers [default, default] =
      [.ok { reply := .error (.io message) }, .ok { reply := .error .internal }] := by
    rw [Session.answers, Session.answers, Session.answers, one]
    dsimp only
    rw [two]
    rfl
  refine ⟨by rw [begun], verdict, ⟨message, answers⟩, fun paired => ?_⟩
  have own := paired.answers
  rw [answers, List.map_cons, verdict] at own
  cases (List.cons.inj own).1

end Session
end RobotTurn.Host
