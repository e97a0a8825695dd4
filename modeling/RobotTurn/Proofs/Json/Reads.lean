import RobotTurn.Json.Shape
import RobotTurn.Proofs.Utf8

/-! What it means that a reader reads a value off its document, whatever follows the document.
The first such reader is that of texts (`reads_text`): an escaped character is read as the
octets that it stands for. -/
namespace RobotTurn.Json

variable {α β : Type}

namespace Reader

theorem bind_ok {r : Reader α} {f : α → Reader β} {bs rest : List UInt8} {a : α}
    (h : r bs = .ok (a, rest)) : (r >>= f) bs = f a rest := by
  show (r bs >>= fun p => f p.1 p.2) = _
  rw [h]
  rfl

/-- What comes of two parts comes of the first and then of the second. -/
theorem bind_eq_ok {r : Reader α} {f : α → Reader β} {bs : List UInt8} {p : β × List UInt8}
    (h : (r >>= f) bs = .ok p) : ∃ a rest, r bs = .ok (a, rest) ∧ f a rest = .ok p := by
  change (r bs >>= fun q => f q.1 q.2) = _ at h
  cases read : r bs with
  | error e => rw [read] at h; cases h
  | ok q => rw [read] at h; exact ⟨q.1, q.2, rfl, h⟩

theorem map_ok {r : Reader α} {f : α → β} {bs rest : List UInt8} {a : α}
    (h : r bs = .ok (a, rest)) : (f <$> r) bs = .ok (f a, rest) := by
  show (r bs >>= fun p => pure (f p.1, p.2)) = _
  rw [h]
  rfl

theorem look_cons (b : UInt8) (bs : List UInt8) : look (b :: bs) = .ok (some b, b :: bs) := rfl

theorem bump_cons (b : UInt8) (bs : List UInt8) : bump (b :: bs) = .ok ((), bs) := rfl

theorem peek_cons {b : UInt8} (bs : List UInt8) (h : Octet.isSpace b = false) :
    peek (b :: bs) = .ok (some b, b :: bs) := by
  simp [peek, skipSpace, h, look]

theorem placing_ok {r : Reader α} {pass : List UInt8 → List UInt8} {bs : List UInt8} (a : α)
    (rest : List UInt8) (h : r bs = .ok (a, rest)) : placing pass r bs = .ok (a, rest) := by
  simp only [placing, h]

end Reader

open Reader

/-- What follows a document does not go on with a number. -/
def Ends (rest : List UInt8) : Prop :=
  ∀ b ∈ rest.head?, Octet.isDigit b = false ∧ b ≠ Octet.point ∧ Octet.isExponent b = false

theorem ends_nil : Ends [] := by
  intro b hb
  cases hb

theorem ends_comma (bs : List UInt8) : Ends (Octet.comma :: bs) := by
  rintro b ⟨⟩
  decide

theorem ends_closeList (bs : List UInt8) : Ends (Octet.closeList :: bs) := by
  rintro b ⟨⟩
  decide

theorem ends_closeObject (bs : List UInt8) : Ends (Octet.closeObject :: bs) := by
  rintro b ⟨⟩
  decide

/-- The reader takes the document for the value and leaves what follows it. -/
def Reads (r : Reader α) (v : Json) (a : α) : Prop :=
  ∀ rest, Ends rest → r (v.render ++ rest) = .ok (a, rest)

theorem Reads.map {r : Reader α} {v : Json} {a : α} (h : Reads r v a) (f : α → β) :
    Reads (f <$> r) v (f a) :=
  fun rest ends => map_ok (h rest ends)

theorem Reads.bind_pure {r : Reader α} {v : Json} {a : α} (h : Reads r v a) (f : α → β) :
    Reads (r >>= fun a => pure (f a)) v (f a) :=
  fun rest ends => bind_ok (h rest ends)

/-! ## Texts -/

theorem textOctets_quote (acc rest : List UInt8) :
    textOctets acc (0x22 :: rest) = .ok (acc.reverse, rest) := by
  rw [textOctets.eq_def]
  rfl

theorem textOctets_plain {b : UInt8} (acc rest : List UInt8) (quote : b ≠ Octet.quote)
    (backslash : b ≠ Octet.backslash) (control : ¬ b < 0x20) :
    textOctets acc (b :: rest) = textOctets (b :: acc) rest := by
  rw [textOctets.eq_def]
  simp only [if_neg quote, if_neg backslash, if_neg control]

theorem textOctets_short {e c : UInt8} (acc rest : List UInt8) (long : e ≠ 0x75)
    (h : shortEscape? e = some c) :
    textOctets acc (0x5C :: e :: rest) = textOctets (c :: acc) rest := by
  rw [textOctets.eq_def]
  simp only [if_neg (show (0x5C : UInt8) ≠ Octet.quote by decide), ↓reduceIte, if_neg long, h]

theorem textOctets_unit {a b c d : UInt8} {n : Nat} (acc rest : List UInt8)
    (h : hex4? a b c d = some n) (low : isLowSurrogate n = false)
    (high : isHighSurrogate n = false) :
    textOctets acc (0x5C :: 0x75 :: a :: b :: c :: d :: rest) =
      textOctets (pushChar n acc) rest := by
  rw [textOctets.eq_def]
  simp [h, low, high, show (0x5C : UInt8) ≠ Octet.quote by decide]

/-- An octet that stands for itself inside quotes. -/
def Plain (b : UInt8) : Prop := b ≠ Octet.quote ∧ b ≠ Octet.backslash ∧ ¬ b < 0x20

theorem textOctets_append {bs : List UInt8} (acc rest : List UInt8) (h : ∀ b ∈ bs, Plain b) :
    textOctets acc (bs ++ rest) = textOctets (bs.reverse ++ acc) rest := by
  induction bs generalizing acc with
  | nil => rfl
  | cons b bs ih =>
    obtain ⟨quote, backslash, control⟩ := h b List.mem_cons_self
    rw [List.cons_append, textOctets_plain acc _ quote backslash control,
      ih _ fun x hx => h x (List.mem_cons_of_mem _ hx)]
    simp

theorem plain_of_mem_encodeChar {c : Char} (quote : c ≠ '"') (backslash : c ≠ '\\')
    (control : ¬ c.toNat < 0x20) {b : UInt8} (hb : b ∈ Utf8.encodeChar c) : Plain b := by
  have value : b.toNat ≠ 0x22 ∧ b.toNat ≠ 0x5C ∧ ¬ b.toNat < 0x20 := by
    by_cases h : 0x80 ≤ c.toNat
    · have := Utf8.toNat_ge_of_mem_encodeChar h hb
      omega
    · simp only [Utf8.encodeChar, show c.toNat < 0x80 by omega, ↓reduceIte,
        List.mem_singleton] at hb
      rw [hb, Utf8.toNat_toUInt8 (by omega)]
      exact ⟨fun e => quote (Char.toNat_inj.mp e), fun e => backslash (Char.toNat_inj.mp e),
        control⟩
  refine ⟨?_, ?_, fun lt => value.2.2 (UInt8.lt_iff_toNat_lt.mp lt)⟩
  · rintro rfl
    exact value.1 rfl
  · rintro rfl
    exact value.2.1 rfl

theorem hex?_hexDigit {n : Nat} (h : n < 16) : Octet.hex? (hexDigit n) = some n := by
  have all : ∀ n < 16, Octet.hex? (hexDigit n) = some n := by decide
  exact all n h

theorem hex4?_control {n : Nat} (h : n < 0x20) :
    hex4? 0x30 0x30 (hexDigit (n / 16)) (hexDigit (n % 16)) = some n := by
  have zero : Octet.hex? 0x30 = some 0 := by decide
  simp only [hex4?, zero, hex?_hexDigit (show n / 16 < 16 by omega),
    hex?_hexDigit (show n % 16 < 16 by omega), bind, Option.bind, pure, Option.some.injEq]
  omega

/-- An escaped character stands for its own octets. The cases are those of `escape`. -/
theorem textOctets_escape (c : Char) (acc rest : List UInt8) :
    textOctets acc (escape c ++ rest) =
      textOctets ((Utf8.encodeChar c).reverse ++ acc) rest := by
  simp only [escape]
  split
  · next h => subst h; exact textOctets_short acc rest (by decide) rfl
  split
  · next h => subst h; exact textOctets_short acc rest (by decide) rfl
  split
  · next h => subst h; exact textOctets_short acc rest (by decide) rfl
  split
  · next h => subst h; exact textOctets_short acc rest (by decide) rfl
  split
  · next h => subst h; exact textOctets_short acc rest (by decide) rfl
  split
  · next h => subst h; exact textOctets_short acc rest (by decide) rfl
  split
  · next h => subst h; exact textOctets_short acc rest (by decide) rfl
  split
  · next h =>
    have low : isLowSurrogate c.toNat = false := by
      simp [isLowSurrogate]
      omega
    have high : isHighSurrogate c.toNat = false := by
      simp [isHighSurrogate]
      omega
    refine (textOctets_unit acc rest (hex4?_control h) low high).trans ?_
    rw [pushChar, Char.ofNat_toNat]
  · next quote backslash _ _ _ _ _ control =>
    exact textOctets_append acc rest fun b hb =>
      plain_of_mem_encodeChar quote backslash control hb

theorem textOctets_flatMap_escape (cs : List Char) (acc rest : List UInt8) :
    textOctets acc (cs.flatMap escape ++ rest) =
      textOctets ((cs.flatMap Utf8.encodeChar).reverse ++ acc) rest := by
  induction cs generalizing acc with
  | nil => rfl
  | cons c cs ih =>
    rw [List.flatMap_cons, List.append_assoc, textOctets_escape, ih]
    simp

/-- A text after its opening quote; what follows its closing quote does not matter. -/
theorem restOfText_append (s : String) (rest : List UInt8) :
    restOfText (s.toList.flatMap escape ++ 0x22 :: rest) = .ok (s, rest) := by
  have octets : textOctets [] (s.toList.flatMap escape ++ 0x22 :: rest) =
      .ok (Utf8.encode s, rest) := by
    rw [textOctets_flatMap_escape, textOctets_quote]
    simp [Utf8.encode]
  rw [restOfText, bind_ok octets, Utf8.decode?_encode]
  rfl

theorem renderText_append (s : String) (rest : List UInt8) :
    renderText s ++ rest = Octet.quote :: (s.toList.flatMap escape ++ 0x22 :: rest) := by
  simp [renderText]

theorem reads_text (s expected : String) : Reads (Reader.text expected) (.text s) s := by
  intro rest _
  rw [render, renderText_append, Reader.text, bind_ok (peek_cons _ (by decide))]
  simp only [↓reduceIte]
  rw [bind_ok (bump_cons _ _), restOfText_append]

end RobotTurn.Json
