import Mathlib.Data.List.TakeDrop
import RobotTurn.Proofs.Json.Reads

/-! Whole numbers are read as they were written (`reads_integer`). The digits of a number add
up to it without passing `2 ^ 64`, and none of them is a zero in front. -/
namespace RobotTurn.Json

open Reader

/-! ## Digits -/

/-- The digits of a number, the first one first. -/
def digitsOf (n : Nat) : List Nat := (Nat.toDigits 10 n).map (·.toNat - 0x30)

theorem foldl_digitsOf (n : Nat) : (digitsOf n).foldl (fun n d => n * 10 + d) 0 = n := by
  have h := Nat.ofDigitChars_ten_toDigits (n := n)
  rw [Nat.ofDigitChars_eq_foldl] at h
  rw [digitsOf, List.foldl_map]
  simp only [Nat.mul_comm] at h
  exact h

theorem gather_eq {n : Nat} {ds : List Nat}
    (h : ds.foldl (fun n d => n * 10 + d) n < 2 ^ 64) :
    gather n ds = (ds.foldl (fun n d => n * 10 + d) n, 0) := by
  have grows (ds : List Nat) (n : Nat) : n ≤ ds.foldl (fun n d => n * 10 + d) n := by
    induction ds generalizing n with
    | nil => exact Nat.le_refl n
    | cons d ds ih => exact Nat.le_trans (by omega) (ih (n * 10 + d))
  induction ds generalizing n with
  | nil => rfl
  | cons d ds ih =>
    have first : n * 10 + d < 2 ^ 64 := Nat.lt_of_le_of_lt (grows ds _) h
    rw [gather, if_pos first, ih h]
    rfl

theorem gather_digitsOf {n : Nat} (h : n < 2 ^ 64) : gather 0 (digitsOf n) = (n, 0) := by
  have sum := foldl_digitsOf n
  rw [gather_eq (by rwa [sum]), sum]

theorem toNat_of_mem_toDigits {n : Nat} {c : Char} (h : c ∈ Nat.toDigits 10 n) :
    0x30 ≤ c.toNat ∧ c.toNat ≤ 0x39 := by
  have digit := Nat.isDigit_of_mem_toDigits (by omega) (by omega) h
  simpa [Char.isDigit, UInt32.le_iff_toNat_le] using digit

theorem toDigits_eq_cons {n : Nat} (h : 0 < n) :
    ∃ c cs, Nat.toDigits 10 n = c :: cs ∧ c ≠ '0' := by
  induction n using Nat.strongRecOn with
  | ind n ih =>
    rw [Nat.toDigits_eq_if (by omega)]
    split
    · exact ⟨_, [], rfl, by simp; omega⟩
    · obtain ⟨c, cs, eq, ne⟩ := ih (n / 10) (by omega) (by omega)
      exact ⟨c, cs ++ [_], by rw [eq]; rfl, ne⟩

/-- The octets of a number are those of its digits. -/
theorem encode_toString (n : Nat) :
    Utf8.encode (toString n) = (Nat.toDigits 10 n).map (·.toNat.toUInt8) := by
  rw [Utf8.encode, Nat.toString_eq_repr, Nat.toList_repr]
  have one (cs : List Char) (h : ∀ c ∈ cs, c.toNat < 0x80) :
      cs.flatMap Utf8.encodeChar = cs.map (·.toNat.toUInt8) := by
    induction cs with
    | nil => rfl
    | cons c cs ih =>
      rw [List.flatMap_cons, List.map_cons, ih fun x hx => h x (List.mem_cons_of_mem _ hx)]
      simp [Utf8.encodeChar, h c List.mem_cons_self]
  exact one _ fun c hc => Nat.lt_of_le_of_lt (toNat_of_mem_toDigits hc).2 (by omega)

theorem toNat_digit {n : Nat} {c : Char} (h : c ∈ Nat.toDigits 10 n) :
    c.toNat.toUInt8.toNat = c.toNat :=
  Utf8.toNat_toUInt8 (Nat.lt_of_le_of_lt (toNat_of_mem_toDigits h).2 (by omega))

theorem isDigit_digit {n : Nat} {c : Char} (h : c ∈ Nat.toDigits 10 n) :
    Octet.isDigit c.toNat.toUInt8 = true := by
  obtain ⟨low, high⟩ := toNat_of_mem_toDigits h
  simp [Octet.isDigit, UInt8.le_iff_toNat_le, toNat_digit h]
  omega

theorem isDigit_of_mem_encode {n : Nat} {b : UInt8} (h : b ∈ Utf8.encode (toString n)) :
    Octet.isDigit b = true := by
  rw [encode_toString, List.mem_map] at h
  obtain ⟨c, hc, rfl⟩ := h
  exact isDigit_digit hc

/-! ## Numerals -/

theorem digits_append (n : Nat) {rest : List UInt8} (h : Ends rest) :
    digits (Utf8.encode (toString n) ++ rest) = .ok (digitsOf n, rest) := by
  have stop : rest.takeWhile Octet.isDigit = [] ∧ rest.dropWhile Octet.isDigit = rest := by
    cases rest with
    | nil => exact ⟨rfl, rfl⟩
    | cons b bs => simp [(h b rfl).1]
  rw [digits, List.span_eq_takeWhile_dropWhile,
    List.takeWhile_append_of_pos fun b => isDigit_of_mem_encode,
    List.dropWhile_append_of_pos fun b => isDigit_of_mem_encode, stop.1, stop.2, List.append_nil]
  simp only [encode_toString, digitsOf, List.map_map]
  congr 2
  refine List.map_congr_left fun c hc => ?_
  simp only [Function.comp_apply, Octet.digit, toNat_digit hc]

theorem restOfNumeral_ends (negative : Bool) (whole : List Nat) {rest : List UInt8}
    (h : Ends rest) : restOfNumeral negative whole rest = .ok ({ negative, whole }, rest) := by
  cases rest with
  | nil => rfl
  | cons b bs =>
    obtain ⟨_, point, exponent⟩ := h b rfl
    have none : exponent? (b :: bs) = .ok (none, b :: bs) := by
      rw [exponent?, bind_ok (look_cons b bs)]
      simp only [exponent]
      rfl
    rw [restOfNumeral, bind_ok (look_cons b bs)]
    simp only [if_neg point]
    rw [bind_ok none]
    rfl

/-- The digits of a number are read as they stand, whatever its sign. -/
theorem numeral_append (negative : Bool) (n : Nat) {rest : List UInt8} (h : Ends rest) :
    numeral negative (Utf8.encode (toString n) ++ rest) =
      .ok ({ negative, whole := digitsOf n }, rest) := by
  rcases Nat.eq_zero_or_pos n with rfl | pos
  · have zero : Utf8.encode (toString 0) = [Octet.zero] := by decide
    have whole : digitsOf 0 = [0] := rfl
    rw [zero, whole, numeral, List.singleton_append, bind_ok (look_cons _ _)]
    simp only [↓reduceIte]
    rw [bind_ok (bump_cons _ _)]
    cases rest with
    | nil => rfl
    | cons b bs =>
      rw [bind_ok (look_cons b bs)]
      simp only [(h b rfl).1]
      exact restOfNumeral_ends negative [0] h
  · obtain ⟨c, cs, eq, ne⟩ := toDigits_eq_cons pos
    have first : c ∈ Nat.toDigits 10 n := by simp [eq]
    have notZero : c.toNat.toUInt8 ≠ Octet.zero := by
      intro zero
      have value := toNat_digit first
      rw [zero] at value
      exact ne (Char.toNat_inj.mp value.symm)
    have head : Utf8.encode (toString n) = c.toNat.toUInt8 :: cs.map (·.toNat.toUInt8) := by
      rw [encode_toString, eq, List.map_cons]
    rw [head, numeral, List.cons_append, bind_ok (look_cons _ _)]
    simp only [if_neg notZero, isDigit_digit first, ↓reduceIte]
    rw [← List.cons_append, ← head, bind_ok (digits_append n h)]
    exact restOfNumeral_ends negative _ h

theorem value_whole {n : Numeral} (negative : n.negative = false) (fraction : n.fraction = none)
    (exponent : n.exponent = none) {k : Nat} (h : gather 0 n.whole = (k, 0)) :
    n.value = .ok (.int k) := by
  unfold Numeral.value
  rw [h, fraction, exponent]
  dsimp only
  rw [if_neg (Nat.lt_irrefl 0), if_pos (by rw [negative]; rfl)]

theorem value_negative {n : Numeral} (negative : n.negative = true) (fraction : n.fraction = none)
    (exponent : n.exponent = none) {k : Nat} (h : gather 0 n.whole = (k, 0)) (pos : 0 < k)
    (bound : k ≤ 2 ^ 63) : n.value = .ok (.int (-k)) := by
  unfold Numeral.value
  rw [h, fraction, exponent]
  dsimp only
  rw [if_neg (Nat.lt_irrefl 0), if_neg (by rw [negative]; decide), if_pos ⟨pos, bound⟩]

theorem number_whole {n : Nat} (h : n < 2 ^ 64) {rest : List UInt8} (ends : Ends rest) :
    number false (Utf8.encode (toString n) ++ rest) = .ok (.int n, rest) := by
  rw [number, bind_ok (numeral_append false n ends), value_whole rfl rfl rfl (gather_digitsOf h)]
  rfl

theorem number_negative {n : Nat} (pos : 0 < n) (h : n ≤ 2 ^ 63) {rest : List UInt8}
    (ends : Ends rest) :
    number true (Utf8.encode (toString n) ++ rest) = .ok (.int (-n), rest) := by
  rw [number, bind_ok (numeral_append true n ends),
    value_negative rfl rfl rfl (gather_digitsOf (by omega)) pos h]
  rfl

/-! ## Integers -/

theorem render_natCast (n : Nat) : (Json.int n).render = Utf8.encode (toString n) := by
  rw [render, show toString (n : Int) = toString n from rfl]

theorem render_negative {n : Nat} (h : 0 < n) :
    (Json.int (-n)).render = Octet.minus :: Utf8.encode (toString n) := by
  obtain ⟨k, rfl⟩ := Nat.exists_eq_succ_of_ne_zero (by omega : n ≠ 0)
  have minus : Utf8.encode "-" = [Octet.minus] := by decide
  rw [render, show toString (-(k.succ : Int)) = "-" ++ toString k.succ from rfl,
    Utf8.encode_append, minus]
  rfl

theorem encode_nat_eq_cons (n : Nat) :
    ∃ b bs, Utf8.encode (toString n) = b :: bs ∧ Octet.isDigit b = true := by
  cases h : Utf8.encode (toString n) with
  | nil =>
    rw [encode_toString, List.map_eq_nil_iff] at h
    exact absurd h Nat.toDigits_ne_nil
  | cons b bs => exact ⟨b, bs, rfl, isDigit_of_mem_encode (h ▸ List.mem_cons_self)⟩

theorem ne_of_isDigit {b c : UInt8} (h : Octet.isDigit b = true) (hc : Octet.isDigit c = false) :
    b ≠ c := by
  rintro rfl
  rw [h] at hc
  cases hc

theorem isSpace_of_isDigit {b : UInt8} (h : Octet.isDigit b = true) :
    Octet.isSpace b = false := by
  simp [Octet.isSpace, ne_of_isDigit h (c := 0x20) (by decide),
    ne_of_isDigit h (c := 0x09) (by decide), ne_of_isDigit h (c := 0x0A) (by decide),
    ne_of_isDigit h (c := 0x0D) (by decide)]

/-- Every number of 64 bits within the bounds, with or without a sign, is read as it was
written. -/
theorem reads_integer {low high n : Int} (expected : String) (above : low ≤ n) (below : n ≤ high)
    (least : -2 ^ 63 ≤ n) (most : n < 2 ^ 64) :
    Reads (Reader.integer low high expected) (.int n) n := by
  intro rest ends
  rcases Int.lt_or_le n 0 with neg | pos
  · obtain ⟨k, hk⟩ := Int.eq_ofNat_of_zero_le (show 0 ≤ -n by omega)
    obtain rfl : n = -(k : Int) := by omega
    rw [render_negative (by omega), Reader.integer, List.cons_append,
      bind_ok (peek_cons _ (by decide))]
    simp only [↓reduceIte]
    rw [bind_ok (bump_cons _ _), bind_ok (number_negative (by omega) (by omega) ends)]
    simp only [above, below, and_self, ↓reduceIte]
    rfl
  · obtain ⟨k, rfl⟩ := Int.eq_ofNat_of_zero_le pos
    obtain ⟨b, bs, eq, digit⟩ := encode_nat_eq_cons k
    rw [render_natCast, Reader.integer, eq, List.cons_append,
      bind_ok (peek_cons _ (isSpace_of_isDigit digit))]
    simp only [if_neg (ne_of_isDigit digit (c := Octet.minus) (by decide)), digit, ↓reduceIte]
    rw [← List.cons_append, ← eq, bind_ok (number_whole (by omega) ends)]
    simp only [above, below, and_self, ↓reduceIte]
    rfl

end RobotTurn.Json
