import RobotTurn.Proofs.Json.Members

/-! Types whose values are read back as they were written (`decode_encode`), and how the
shapes keep that. -/
namespace RobotTurn.Json

open Reader

variable {α β : Type}

/-! ## Choices -/

theorem Choice.find_ok {c : Choice α} {name : String} {content : Content α}
    (h : c.variants.lookup name = some content) (bs : List UInt8) :
    c.find name bs = .ok (content, bs) := by
  rw [Choice.find, h]
  rfl

theorem Choice.reads_bare {c : Choice α} {name : String} {a : α}
    (h : c.variants.lookup name = some (.bare a)) : Reads c.read (.text name) a := by
  intro rest _
  rw [render, renderText_append, Choice.read, bind_ok (peek_cons _ (by decide))]
  simp only [show Octet.quote ≠ Octet.openObject by decide, ↓reduceIte]
  rw [bind_ok (bump_cons _ _), bind_ok (restOfText_append _ _), bind_ok (Choice.find_ok h _)]
  rfl

theorem Choice.key_ok (name : String) (rest : List UInt8) :
    Choice.key (renderText name ++ rest) = .ok (name, rest) := by
  rw [renderText_append, Choice.key, bind_ok (peek_cons _ (by decide))]
  simp only [↓reduceIte]
  rw [bind_ok (bump_cons _ _), restOfText_append]

theorem Choice.reads_holding {c : Choice α} {name : String} {r : Reader α} {v : Json} {a : α}
    (h : c.variants.lookup name = some (.holding r)) (hr : Reads r v a) :
    Reads c.read (.object [(name, v)]) a := by
  intro rest _
  rw [render_object_append, renderMembers_cons, Choice.read, bind_ok (peek_cons _ (by decide))]
  simp only [↓reduceIte, renderMoreMembers, List.flatMap_nil, List.append_nil, List.append_assoc,
    List.cons_append]
  rw [bind_ok (bump_cons _ _), bind_ok (Choice.key_ok name _), bind_ok (Choice.find_ok h _),
    bind_ok (colon_ok _)]
  dsimp only
  rw [bind_ok (hr _ (ends_closeObject rest)), bind_ok (peek_cons _ (by decide))]
  rfl

/-! ## Whole documents -/

/-- Every value is read off its document. -/
class Lawful (α : Type) [Wire α] : Prop where
  reads : ∀ a : α, Reads Wire.read (Wire.toJson a) a

/-- No value is written as `null`. -/
class Solid (α : Type) [Wire α] : Prop where
  ne_null : ∀ a : α, Wire.toJson a ≠ .null

/-- A whole document is its value and then blanks. -/
theorem whole_ok_iff {r : Reader α} {bs rest : List UInt8} {a : α} :
    whole r bs = .ok (a, rest) ↔
      ∃ after, r bs = .ok (a, after) ∧ peek after = .ok (none, rest) := by
  rw [whole]
  constructor
  · intro read
    obtain ⟨b, after, value, read⟩ := bind_eq_ok read
    obtain ⟨next, left, peeked, read⟩ := bind_eq_ok read
    cases next with
    | none => cases read; exact ⟨after, value, peeked⟩
    | some _ => cases read
  · rintro ⟨after, value, peeked⟩
    rw [bind_ok value, bind_ok peeked]
    rfl

theorem decode_ok_iff [Wire α] {bs : List UInt8} {a : α} :
    decode α bs = .ok a ↔ ∃ rest, whole Wire.read bs = .ok (a, rest) := by
  rw [decode]
  constructor
  · intro h
    split at h
    · next read => cases h; exact ⟨_, read⟩
    · cases h
  · rintro ⟨rest, read⟩
    rw [read]

theorem Reads.decode [Wire α] {v : Json} {a : α} (h : Reads Wire.read v a) :
    decode α v.render = .ok a := by
  have value := h [] ends_nil
  rw [List.append_nil] at value
  exact decode_ok_iff.mpr ⟨[], whole_ok_iff.mpr ⟨[], value, rfl⟩⟩

/-- What is written is read back as it was. -/
theorem decode_encode [Wire α] [Lawful α] (a : α) : decode α (encode a) = .ok a :=
  (Lawful.reads a).decode

/-- Different values have different documents. -/
theorem encode_inj [Wire α] [Lawful α] {a b : α} (same : encode a = encode b) : a = b := by
  have read := decode_encode a
  rw [same, decode_encode b] at read
  exact (Except.ok.inj read).symm

instance : Lawful Unit := ⟨fun _ => reads_unit⟩

instance : Lawful String := ⟨fun s => reads_text s _⟩

instance : Solid String := ⟨nofun⟩

instance [Wire α] [Lawful α] [Solid α] : Lawful (Option α) where
  reads
    | none => reads_none _
    | some a => (Lawful.reads a).option (Solid.ne_null a)

instance [Wire α] [Lawful α] : Lawful (List α) :=
  ⟨fun _ => .list fun a _ => Lawful.reads a⟩

instance [Wire α] [Wire β] [Lawful α] [Lawful β] : Lawful (α × β) :=
  ⟨fun p => .pair (Lawful.reads p.1) (Lawful.reads p.2)⟩

instance [Wire α] [Wire β] : Solid (α × β) := ⟨nofun⟩

instance [Wire α] [Lawful α] : Lawful (Dict α) :=
  ⟨reads_dict Lawful.reads⟩

instance [Wire α] [Wire β] [Lawful α] [Lawful β] : Lawful (Except α β) where
  reads
    | .ok b => Choice.reads_holding rfl ((Lawful.reads b).map Except.ok)
    | .error a => Choice.reads_holding rfl ((Lawful.reads a).map Except.error)

end RobotTurn.Json
