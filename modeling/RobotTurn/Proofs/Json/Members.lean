import RobotTurn.Proofs.Json.Items

/-! Objects are read member by member (`members_renderMembers`), into tables (`reads_dict`) and
into records (`Record.reads`). -/
namespace RobotTurn.Json

open Reader

variable {α β σ : Type}

/-! ## Members -/

/-- The members of an object but the first, each after a comma. -/
def renderMoreMembers (ms : List (String × Json)) : List UInt8 :=
  ms.flatMap fun m => Octet.comma :: renderText m.1 ++ Octet.colon :: m.2.render

theorem renderMoreMembers_cons (key : String) (v : Json) (ms : List (String × Json)) :
    renderMoreMembers ((key, v) :: ms) =
      Octet.comma :: (renderText key ++ Octet.colon :: (v.render ++ renderMoreMembers ms)) := by
  simp [renderMoreMembers]

theorem renderMembers_cons (key : String) (v : Json) (ms : List (String × Json)) :
    renderMembers ((key, v) :: ms) =
      renderText key ++ Octet.colon :: (v.render ++ renderMoreMembers ms) := by
  induction ms generalizing key v with
  | nil => simp [renderMembers, renderMoreMembers]
  | cons m ms ih =>
    obtain ⟨key', w⟩ := m
    simp [renderMembers, ih, renderMoreMembers_cons]

theorem render_object_append (ms : List (String × Json)) (rest : List UInt8) :
    (Json.object ms).render ++ rest =
      Octet.openObject :: (renderMembers ms ++ Octet.closeObject :: rest) := by
  simp [render]

theorem ends_renderMoreMembers (ms : List (String × Json)) (rest : List UInt8) :
    Ends (renderMoreMembers ms ++ Octet.closeObject :: rest) := by
  cases ms with
  | nil => exact ends_closeObject rest
  | cons m ms => exact ends_comma _

theorem length_renderMembers (ms : List (String × Json)) :
    ms.length ≤ (renderMembers ms).length + 1 := by
  have more (ms : List (String × Json)) : ms.length ≤ (renderMoreMembers ms).length := by
    induction ms with
    | nil => exact Nat.le_refl 0
    | cons m ms ih =>
      rw [renderMoreMembers_cons]
      simp only [List.length_append, List.length_cons]
      omega
  cases ms with
  | nil => exact Nat.zero_le _
  | cons m ms =>
    have := more ms
    rw [renderMembers_cons]
    simp only [List.length_append, List.length_cons]
    omega

theorem memberFollows_close (first : Bool) (rest : List UInt8) :
    memberFollows first (Octet.closeObject :: rest) = .ok (false, Octet.closeObject :: rest) := by
  rw [memberFollows, bind_ok (peek_cons _ (by decide))]
  rfl

theorem memberFollows_first (rest : List UInt8) :
    memberFollows true (Octet.quote :: rest) = .ok (true, Octet.quote :: rest) := by
  rw [memberFollows, bind_ok (peek_cons _ (by decide))]
  rfl

theorem memberFollows_comma (rest : List UInt8) :
    memberFollows false (Octet.comma :: Octet.quote :: rest) =
      .ok (true, Octet.quote :: rest) := by
  rw [memberFollows, bind_ok (peek_cons _ (by decide))]
  simp only [show Octet.comma ≠ Octet.closeObject by decide, ↓reduceIte, Bool.false_eq_true]
  rw [bind_ok (bump_cons _ _), bind_ok (peek_cons _ (by decide))]
  rfl

theorem colon_ok (rest : List UInt8) : colon (Octet.colon :: rest) = .ok ((), rest) := by
  rw [colon, bind_ok (peek_cons _ (by decide))]
  rfl

/-- A step per member takes the one draft to the other. -/
inductive Folds (step : σ → String → Reader σ) : List (String × Json) → σ → σ → Prop where
  | nil (d : σ) : Folds step [] d d
  | cons {key : String} {v : Json} {ms : List (String × Json)} {d e f : σ}
      (head : ∀ rest, Ends rest → step d key (Octet.colon :: (v.render ++ rest)) = .ok (e, rest))
      (tail : Folds step ms e f) : Folds step ((key, v) :: ms) d f

theorem foldMembers_more {step : σ → String → Reader σ} {ms : List (String × Json)} {d e : σ}
    (h : Folds step ms d e) {n : Nat} (enough : ms.length < n) (rest : List UInt8) :
    foldMembers step n false d (renderMoreMembers ms ++ Octet.closeObject :: rest) =
      .ok (e, Octet.closeObject :: rest) := by
  induction h generalizing n with
  | nil d =>
    obtain ⟨n, rfl⟩ := Nat.exists_eq_succ_of_ne_zero (show n ≠ 0 by omega)
    rw [renderMoreMembers, List.flatMap_nil, List.nil_append, foldMembers,
      bind_ok (memberFollows_close false rest)]
    rfl
  | @cons key v ms d e f head tail ih =>
    obtain ⟨n, rfl⟩ := Nat.exists_eq_succ_of_ne_zero (show n ≠ 0 by omega)
    have read := head _ (ends_renderMoreMembers ms rest)
    rw [renderMoreMembers_cons, List.cons_append, List.append_assoc, renderText_append, foldMembers,
      bind_ok (memberFollows_comma _)]
    simp only [↓reduceIte]
    rw [bind_ok (bump_cons _ _), bind_ok (restOfText_append _ _), List.cons_append,
      List.append_assoc, bind_ok read]
    exact ih (by simpa using enough)

theorem members_renderMembers {step : σ → String → Reader σ} {ms : List (String × Json)}
    {d e : σ} (h : Folds step ms d e) (rest : List UInt8) :
    Reader.members step d (renderMembers ms ++ Octet.closeObject :: rest) = .ok (e, rest) := by
  have enough := length_renderMembers ms
  have read : placing passObject (fun bs => foldMembers step (bs.length + 1) true d bs)
      (renderMembers ms ++ Octet.closeObject :: rest) = .ok (e, Octet.closeObject :: rest) := by
    apply placing_ok
    generalize fuel : (renderMembers ms ++ Octet.closeObject :: rest).length = n
    rw [List.length_append, List.length_cons] at fuel
    cases h with
    | nil =>
      rw [renderMembers, List.nil_append, foldMembers, bind_ok (memberFollows_close true rest)]
      rfl
    | @cons key v ms d e f head tail =>
      have read := head _ (ends_renderMoreMembers ms rest)
      rw [renderMembers_cons, List.append_assoc, renderText_append, foldMembers,
        bind_ok (memberFollows_first _)]
      simp only [↓reduceIte]
      rw [bind_ok (bump_cons _ _), bind_ok (restOfText_append _ _), List.cons_append,
        List.append_assoc, bind_ok read]
      exact foldMembers_more tail (by simp at enough; omega) rest
  rw [Reader.members, bind_ok read]
  rfl


/-! ## Tables -/

theorem Reads.member {r : Reader α} {v : Json} {a : α} (h : Reads r v a) {key : String → Reader β}
    {name : String} {b : β} (hk : ∀ bs, key name bs = .ok (b, bs)) (put : σ → β → α → σ) (d : σ)
    (rest : List UInt8) (ends : Ends rest) :
    (do
      let k ← key name
      colon
      return put d k (← r)) (Octet.colon :: (v.render ++ rest)) = .ok (put d b a, rest) := by
  rw [bind_ok (hk _), bind_ok (colon_ok _), bind_ok (h rest ends)]
  rfl

theorem reads_mapping {key : String → Reader β} {r : Reader α} {put : σ → β → α → σ}
    {ms : List (String × Json)} {d e : σ}
    (h : Folds (fun acc name => do
      let k ← key name
      colon
      return put acc k (← r)) ms d e) : Reads (mapping key r put d) (.object ms) e := by
  intro rest _
  rw [render_object_append, mapping, bind_ok (enter_ok _ _ (by decide)),
    members_renderMembers h]

/-- However the members of a table are listed, the last value of each key stays. -/
theorem reads_entries {r : Reader α} {write : α → Json} (h : ∀ a, Reads r (write a) a)
    (es : List (String × α)) :
    Reads (Reader.dict r) (.object (es.map fun e => (e.1, write e.2))) (Dict.ofList es) := by
  apply reads_mapping
  rw [Dict.ofList]
  generalize (∅ : Dict α) = d
  induction es generalizing d with
  | nil => exact .nil d
  | cons e es ih =>
    exact .cons (fun rest ends => (h e.2).member (fun _ => rfl) Dict.insert d rest ends) (ih _)

theorem reads_dict {r : Reader α} {write : α → Json} (h : ∀ a, Reads r (write a) a)
    (d : Dict α) : Reads (Reader.dict r) (.object (d.entries.map fun e => (e.1, write e.2))) d := by
  have read := reads_entries h d.entries
  rwa [Dict.ofList_entries] at read

/-! ## Records -/

theorem Record.member_ok {r : Record σ α} {f : Field σ} {key : String} {v : Json} {d e : σ}
    (found : r.fields.find? (·.name = key) = some f) (unset : f.isSet d = false)
    (h : Reads (f.read d) v e) (rest : List UInt8) (ends : Ends rest) :
    r.member d key (Octet.colon :: (v.render ++ rest)) = .ok (e, rest) := by
  rw [Record.member, found]
  simp only [unset, Bool.false_eq_true, ↓reduceIte]
  rw [bind_ok (colon_ok _), h rest ends]

theorem Record.reads {r : Record σ α} {ms : List (String × Json)} {d : σ} {a : α}
    (h : Folds r.member ms r.draft d) (finish : r.finish d = .ok a) :
    Reads r.read (.object ms) a := by
  intro rest _
  rw [render_object_append, Record.read, bind_ok (peek_cons _ (by decide))]
  simp only [show Octet.openObject ≠ Octet.openList by decide, ↓reduceIte]
  rw [bind_ok (bump_cons _ _), bind_ok (members_renderMembers h rest), Record.complete, finish]
  rfl

/-- A reader that never succeeds. -/
def Fails (r : Reader α) : Prop := ∀ bs p, r bs ≠ .ok p

theorem Fails.behind {f : β → Reader α} (h : ∀ b, Fails (f b)) (r : Reader β) :
    Fails (r >>= f) := by
  intro bs p read
  obtain ⟨b, rest, -, read⟩ := bind_eq_ok read
  exact h b rest p read

theorem Fails.ite {r s : Reader α} {c : Prop} [Decidable c] (hr : Fails r) (hs : Fails s) :
    Fails (if c then r else s) := by
  split
  · exact hr
  · exact hs

theorem refuse_fails (expected : String) : Fails (refuse expected : Reader α) := by
  have fail (e : DecodeError) : Fails (Reader.fail e : Reader α) := nofun
  have ahead (e : DecodeError) : Fails (failAhead e : Reader α) := nofun
  refine .behind (fun first => ?_) look
  cases first with
  | none => exact ahead _
  | some b =>
    refine .ite (.behind (fun _ => fail _) _) <| .ite (.behind (fun _ => fail _) _) <|
      .ite (.behind (fun _ => fail _) _) <| .ite (.behind (fun _ => ?_) _) <|
      .ite (.behind (fun _ => fail _) _) <| .ite (.behind (fun _ => ?_) _) <|
      .ite (fail _) <| .ite (fail _) (ahead _)
    · exact .behind (fun _ => fail _) _
    · exact .behind (fun _ => fail _) _

theorem Record.positional_checked (r : Record σ α) (finish : σ → Except DecodeError β)
    (fs : List (Field σ)) (seen : Nat) (d : σ) :
    { r with finish }.positional fs seen d = r.positional fs seen d := by
  induction fs generalizing seen d with
  | nil => rfl
  | cons f fs ih =>
    simp only [positional, ih]

theorem Record.complete_eq_ok {r : Record σ α} {d : σ} {bs rest : List UInt8} {a : α}
    (h : r.complete d bs = .ok (a, rest)) : r.finish d = .ok a ∧ bs = rest := by
  rw [complete] at h
  cases finish : r.finish d with
  | error e => rw [finish] at h; cases h
  | ok b => rw [finish] at h; cases h; exact ⟨rfl, rfl⟩

theorem Record.complete_ok {r : Record σ α} {d : σ} {a : α} (h : r.finish d = .ok a)
    (bs : List UInt8) : r.complete d bs = .ok (a, bs) := by
  rw [complete, h]
  rfl

/-- What a record is read from gives a draft, and the same draft under any other last check. -/
theorem Record.read_checked {r : Record σ α} (finish : σ → Except DecodeError β)
    {bs rest : List UInt8} {a : α} (h : r.read bs = .ok (a, rest)) :
    ∃ d, r.finish d = .ok a ∧
      ∀ b, finish d = .ok b → { r with finish }.read bs = .ok (b, rest) := by
  obtain ⟨first, mid, peeked, h⟩ := bind_eq_ok h
  cases first with
  | none => cases h
  | some b =>
    dsimp only at h
    by_cases list : b = Octet.openList
    · rw [if_pos list] at h
      obtain ⟨⟨⟩, _, bumped, h⟩ := bind_eq_ok h
      obtain ⟨d, _, drafted, h⟩ := bind_eq_ok h
      obtain ⟨⟨⟩, _, closed, h⟩ := bind_eq_ok h
      obtain ⟨finished, rfl⟩ := complete_eq_ok h
      refine ⟨d, finished, fun b passes => ?_⟩
      rw [Record.read, bind_ok peeked]
      simp only [if_pos list, positional_checked]
      rw [bind_ok bumped, bind_ok drafted, bind_ok closed, complete_ok passes]
    · rw [if_neg list] at h
      by_cases object : b = Octet.openObject
      · rw [if_pos object] at h
        obtain ⟨⟨⟩, _, bumped, h⟩ := bind_eq_ok h
        obtain ⟨d, _, drafted, h⟩ := bind_eq_ok h
        obtain ⟨finished, rfl⟩ := complete_eq_ok h
        refine ⟨d, finished, fun b passes => ?_⟩
        rw [Record.read, bind_ok peeked]
        simp only [if_neg list, if_pos object]
        rw [bind_ok bumped]
        exact (bind_ok drafted).trans (complete_ok passes _)
      · rw [if_neg object] at h
        exact absurd h (refuse_fails _ _ _)

/-- The record whose value is its draft, with no last check. -/
def Record.raw (r : Record σ α) : Record σ σ := { r with finish := .ok }

/-- A record is read from what its draft is read from, if the draft passes the last check. -/
theorem Record.read_ok_iff {r : Record σ α} {bs rest : List UInt8} {a : α} :
    r.read bs = .ok (a, rest) ↔ ∃ d, r.raw.read bs = .ok (d, rest) ∧ r.finish d = .ok a := by
  constructor
  · intro read
    obtain ⟨d, finished, again⟩ := read_checked .ok read
    exact ⟨d, again d rfl, finished⟩
  · rintro ⟨d, read, finished⟩
    obtain ⟨_, ⟨⟩, again⟩ := read_checked r.finish read
    exact again a finished

end RobotTurn.Json
