import RobotTurn.Utf8

/-! Reading octets back as text. What was written is read as it was (`decode?_encode`), and a
text is well formed exactly if no malformed stretch is found in it (`fault?_eq_none_iff`). -/
namespace RobotTurn.Utf8

theorem toNat_toUInt8 {n : Nat} (h : n < 0x100) : n.toUInt8.toNat = n := by
  simpa [Nat.toUInt8] using Nat.mod_eq_of_lt h

theorem char_range (c : Char) : c.toNat < 0xD800 ∨ 0xDFFF < c.toNat ∧ c.toNat < 0x110000 :=
  c.valid

/-! ## One character -/

theorem step_lone {c : Char} (items : List (Option Char)) (h : c.toNat < 0x80) :
    step (none, items) c.toNat.toUInt8 = (none, some c :: items) := by
  simp [step, feed, start, toNat_toUInt8 (show c.toNat < 0x100 by omega), h, Char.ofNat_toNat]

theorem step_lead_two {n : Nat} (items : List (Option Char)) (low : 0xC2 ≤ n)
    (high : n < 0xE0) :
    step (none, items) n.toUInt8 = (some { value := n - 0xC0, owed := 1 }, items) := by
  simp [step, feed, start, toNat_toUInt8 (show n < 0x100 by omega),
    show ¬ n < 0x80 by omega, show ¬ n < 0xC2 by omega, high]

theorem step_lead_three {n : Nat} (items : List (Option Char)) (low : 0xE0 ≤ n)
    (high : n < 0xF0) :
    step (none, items) n.toUInt8 = (some {
        value := n - 0xE0, owed := 2
        low := if n = 0xE0 then 0xA0 else 0x80
        high := if n = 0xED then 0x9F else 0xBF }, items) := by
  simp only [step, feed, start, toNat_toUInt8 (show n < 0x100 by omega), high, ↓reduceIte,
    show ¬ n < 0x80 by omega, show ¬ n < 0xC2 by omega, show ¬ n < 0xE0 by omega]
  split
  · next h => simp [h]
  · split
    · next h => simp [h]
    · simp [*]

theorem step_lead_four {n : Nat} (items : List (Option Char)) (low : 0xF0 ≤ n)
    (high : n ≤ 0xF4) :
    step (none, items) n.toUInt8 = (some {
        value := n - 0xF0, owed := 3
        low := if n = 0xF0 then 0x90 else 0x80
        high := if n = 0xF4 then 0x8F else 0xBF }, items) := by
  simp only [step, feed, start, toNat_toUInt8 (show n < 0x100 by omega), ↓reduceIte,
    show ¬ n < 0x80 by omega, show ¬ n < 0xC2 by omega, show ¬ n < 0xE0 by omega,
    show n ≠ 0xE0 by omega, show n ≠ 0xED by omega, show ¬ n < 0xF0 by omega]
  split
  · next h => simp [h]
  · split
    · simp [*]
      omega
    · simp [*, show n = 0xF4 by omega]

/-- Any octet of a sequence but its last leaves one less owed. -/
theorem step_more {p : Pending} {n : Nat} (items : List (Option Char)) (owed : p.owed ≠ 1)
    (hn : n < 0x100) (low : p.low ≤ n) (high : n ≤ p.high) :
    step (some p, items) n.toUInt8 =
      (some { value := p.value * 0x40 + (n - 0x80), owed := p.owed - 1 }, items) := by
  simp [step, feed, toNat_toUInt8 hn, low, high, owed]

/-- The last octet of a sequence closes it. -/
theorem step_last {p : Pending} {n : Nat} (items : List (Option Char)) (owed : p.owed = 1)
    (hn : n < 0x100) (low : p.low ≤ n) (high : n ≤ p.high) :
    step (some p, items) n.toUInt8 =
      (none, some (Char.ofNat (p.value * 0x40 + (n - 0x80))) :: items) := by
  simp [step, feed, toNat_toUInt8 hn, low, high, owed]

/-- The octets of a character are one item of a scan, whatever stands before them. The cases
are those of `encodeChar`; in each, the six bits that an octet holds add up to the character. -/
theorem foldl_step_encodeChar (c : Char) (items : List (Option Char)) :
    (encodeChar c).foldl step (none, items) = (none, some c :: items) := by
  have range := char_range c
  simp only [encodeChar]
  split
  · next h => exact step_lone items h
  split
  · have value : (0xC0 + c.toNat / 0x40 - 0xC0) * 0x40 + (0x80 + c.toNat % 0x40 - 0x80) =
        c.toNat := by omega
    rw [List.foldl_cons, step_lead_two items (by omega) (by omega), List.foldl_cons,
      step_last items rfl (by omega) (by simp) (by simp; omega), List.foldl_nil]
    simp only [value, Char.ofNat_toNat]
  split
  · have value : ((0xE0 + c.toNat / 0x1000 - 0xE0) * 0x40 +
        (0x80 + c.toNat / 0x40 % 0x40 - 0x80)) * 0x40 + (0x80 + c.toNat % 0x40 - 0x80) =
        c.toNat := by omega
    rw [List.foldl_cons, step_lead_three items (by omega) (by omega), List.foldl_cons,
      step_more items (by simp) (by omega) (by simp; split <;> omega) (by simp; split <;> omega),
      List.foldl_cons, step_last items rfl (by omega) (by simp) (by simp; omega), List.foldl_nil]
    simp only [value, Char.ofNat_toNat]
  · have value : (((0xF0 + c.toNat / 0x40000 - 0xF0) * 0x40 +
        (0x80 + c.toNat / 0x1000 % 0x40 - 0x80)) * 0x40 +
        (0x80 + c.toNat / 0x40 % 0x40 - 0x80)) * 0x40 + (0x80 + c.toNat % 0x40 - 0x80) =
        c.toNat := by omega
    rw [List.foldl_cons, step_lead_four items (by omega) (by omega), List.foldl_cons,
      step_more items (by simp) (by omega) (by simp; split <;> omega) (by simp; split <;> omega),
      List.foldl_cons, step_more items (by simp) (by omega) (by simp) (by simp; omega),
      List.foldl_cons, step_last items rfl (by omega) (by simp) (by simp; omega), List.foldl_nil]
    simp only [value, Char.ofNat_toNat]

/-- An octet of a character beyond ASCII is beyond it as well. -/
theorem toNat_ge_of_mem_encodeChar {c : Char} (h : 0x80 ≤ c.toNat) {b : UInt8}
    (hb : b ∈ encodeChar c) : 0x80 ≤ b.toNat := by
  have range := char_range c
  simp only [encodeChar, show ¬ c.toNat < 0x80 by omega, ↓reduceIte] at hb
  split at hb
  · simp only [List.mem_cons, List.not_mem_nil, or_false] at hb
    rcases hb with rfl | rfl <;> rw [toNat_toUInt8 (by omega)] <;> omega
  split at hb <;> simp only [List.mem_cons, List.not_mem_nil, or_false] at hb
  · rcases hb with rfl | rfl | rfl <;> rw [toNat_toUInt8 (by omega)] <;> omega
  · rcases hb with rfl | rfl | rfl | rfl <;> rw [toNat_toUInt8 (by omega)] <;> omega

theorem encodeChar_ne_nil (c : Char) : encodeChar c ≠ [] := by
  unfold encodeChar
  dsimp only
  split
  · exact List.cons_ne_nil _ _
  split
  · exact List.cons_ne_nil _ _
  split <;> exact List.cons_ne_nil _ _

/-- An octet of ASCII is a character of its own. -/
theorem toNat_of_mem_encodeChar {c : Char} {b : UInt8} (ascii : b.toNat < 0x80)
    (mem : b ∈ encodeChar c) : c.toNat = b.toNat := by
  by_cases low : c.toNat < 0x80
  · rw [encodeChar, if_pos low, List.mem_singleton] at mem
    rw [mem, toNat_toUInt8 (by omega)]
  · have high := toNat_ge_of_mem_encodeChar (Nat.le_of_not_lt low) mem
    omega

/-! ## Texts -/

theorem foldl_step_encode (cs : List Char) (items : List (Option Char)) :
    (cs.flatMap encodeChar).foldl step (none, items) =
      (none, (cs.map some).reverse ++ items) := by
  induction cs generalizing items with
  | nil => rfl
  | cons c cs ih =>
    rw [List.flatMap_cons, List.foldl_append, foldl_step_encodeChar, ih]
    simp

theorem scan_encode (s : String) : scan (encode s) = s.toList.map some := by
  simp [scan, encode, foldl_step_encode]

@[simp] theorem valid_encode (s : String) : valid (encode s) = true := by
  simp [valid, scan_encode]

@[simp] theorem decode?_encode (s : String) : decode? (encode s) = some s := by
  simp [decode?, scan_encode, List.filterMap_map]

theorem encode_append (s t : String) : encode (s ++ t) = encode s ++ encode t := by
  simp [encode]

theorem lossy_encode (s : String) : lossy (encode s) = s := by
  rw [lossy, scan_encode, List.map_map]
  exact (congrArg String.ofList (List.map_id _)).trans s.ofList_toList

theorem feed_not_mem_encode {s : String} (whole : '\n' ∉ s.toList) : 0x0A ∉ encode s := by
  intro mem
  obtain ⟨c, listed, inside⟩ := List.mem_flatMap.mp mem
  have feed : c = '\n' := Char.toNat_inj.mp (toNat_of_mem_encodeChar (by decide) inside)
  exact whole (feed ▸ listed)

/-! ## Malformed stretches -/

/-- Only the first item of an octet can be a malformed stretch. -/
theorem feed_items (p : Option Pending) (b : Nat) :
    (feed p b).2.head? = some none ∨ (feed p b).2.all Option.isSome = true := by
  have first (b : Nat) : (start b).2.head? = some none ∨ (start b).2.all Option.isSome = true := by
    unfold start
    grind
  cases p with
  | none => exact first b
  | some p =>
    simp only [feed]
    split
    · split <;> exact .inr rfl
    · exact .inl rfl

theorem foldl_step_keeps (bs : List UInt8) (st : Option Pending × List (Option Char)) :
    st.2 <:+ (bs.foldl step st).2 := by
  induction bs generalizing st with
  | nil => exact List.suffix_rfl
  | cons b bs ih => exact (List.suffix_append _ _).trans (ih (step st b))

/-- A search and a scan go through the same states. The search stops at the first malformed
stretch; the scan goes on, but what it has found it keeps. -/
theorem search_eq_none_iff (p : Option Pending) (first i : Nat) (bs : List UInt8)
    (items : List (Option Char)) (clean : items.all Option.isSome = true) :
    search p first i bs = none ↔ (bs.foldl step (p, items)).1 = none ∧
      (bs.foldl step (p, items)).2.all Option.isSome = true := by
  induction bs generalizing p first i items with
  | nil => simp [search, clean]
  | cons b bs ih =>
    have next : step (p, items) b =
        ((feed p b.toNat).1, (feed p b.toNat).2.reverse ++ items) := rfl
    rw [search, List.foldl_cons, next]
    rcases feed_items p b.toNat with bad | good
    · have seen : none ∈ (bs.foldl step
          ((feed p b.toNat).1, (feed p b.toNat).2.reverse ++ items)).2 :=
        (foldl_step_keeps bs _).subset <|
          List.mem_append_left _ (List.mem_reverse.mpr (List.mem_of_mem_head? bad))
      simp only [bad, ↓reduceIte]
      constructor
      · intro h
        cases h
      · rintro ⟨_, all⟩
        simpa using List.all_eq_true.mp all none seen
    · have fine : (feed p b.toNat).2.head? ≠ some none := by
        intro bad
        simpa using List.all_eq_true.mp good none (List.mem_of_mem_head? bad)
      simp only [if_neg fine]
      exact ih _ _ _ _ (by simp [good, clean])

theorem fault?_eq_none_iff (bs : List UInt8) : fault? bs = none ↔ valid bs = true := by
  rw [fault?, search_eq_none_iff none 0 0 bs [] rfl, valid, scan]
  cases h : (bs.foldl step (none, [])).1 <;> simp [h]

end RobotTurn.Utf8
