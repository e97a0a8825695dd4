import RobotTurn.Proofs.Json.Number
import RobotTurn.Text.Blank

/-! Every document is text without control characters (`printed_render`), so it stands on one
line and no line feed or carriage return is ever part of it. -/
namespace RobotTurn.Json

/-- Octets of text that holds no control character. -/
def Printed (bs : List UInt8) : Prop :=
  ∃ cs : List Char, (∀ c ∈ cs, 0x20 ≤ c.toNat) ∧ bs = cs.flatMap Utf8.encodeChar

theorem printed_nil : Printed [] := ⟨[], nofun, rfl⟩

theorem Printed.append {as bs : List UInt8} (ha : Printed as) (hb : Printed bs) :
    Printed (as ++ bs) := by
  obtain ⟨cs, hc, rfl⟩ := ha
  obtain ⟨ds, hd, rfl⟩ := hb
  refine ⟨cs ++ ds, fun c h => ?_, by rw [List.flatMap_append]⟩
  rcases List.mem_append.mp h with h | h
  · exact hc c h
  · exact hd c h

theorem printed_encode {s : String} (h : ∀ c ∈ s.toList, 0x20 ≤ c.toNat) :
    Printed (Utf8.encode s) := ⟨s.toList, h, rfl⟩

theorem printed_ascii {b : UInt8} (low : 0x20 ≤ b.toNat) (high : b.toNat < 0x80) :
    Printed [b] := by
  have ascii : ∀ n < 0x80, (Char.ofNat n).toNat = n := by decide
  have value := ascii b.toNat high
  refine ⟨[Char.ofNat b.toNat], ?_, ?_⟩
  · intro c h
    rw [List.mem_singleton.mp h, value]
    exact low
  · simp [Utf8.encodeChar, value, high]

theorem Printed.cons {b : UInt8} {bs : List UInt8} (low : 0x20 ≤ b.toNat) (high : b.toNat < 0x80)
    (h : Printed bs) : Printed (b :: bs) :=
  (printed_ascii low high).append h

theorem printed_hexDigit {n : Nat} (h : n < 16) : Printed [hexDigit n] := by
  have all : ∀ n < 16, 0x20 ≤ (hexDigit n).toNat ∧ (hexDigit n).toNat < 0x80 := by decide
  exact printed_ascii (all n h).1 (all n h).2

/-- A character below the space is escaped, and an escape is printed. -/
theorem printed_escape (c : Char) : Printed (escape c) := by
  have short {b : UInt8} (low : 0x20 ≤ b.toNat) (high : b.toNat < 0x80) : Printed [0x5C, b] :=
    .cons (by decide) (by decide) (printed_ascii low high)
  simp only [escape]
  repeat' split
  · exact short (by decide) (by decide)
  · exact short (by decide) (by decide)
  · exact short (by decide) (by decide)
  · exact short (by decide) (by decide)
  · exact short (by decide) (by decide)
  · exact short (by decide) (by decide)
  · exact short (by decide) (by decide)
  · exact .cons (by decide) (by decide) <| .cons (by decide) (by decide) <|
      .cons (by decide) (by decide) <| .cons (by decide) (by decide) <|
      (printed_hexDigit (by omega)).append (printed_hexDigit (by omega))
  · next control =>
    exact ⟨[c], fun d h => by rw [List.mem_singleton.mp h]; omega, by simp⟩

theorem printed_renderText (s : String) : Printed (renderText s) := by
  have body (cs : List Char) : Printed (cs.flatMap escape) := by
    induction cs with
    | nil => exact printed_nil
    | cons c cs ih => exact (printed_escape c).append ih
  exact .cons (by decide) (by decide)
    ((body s.toList).append (printed_ascii (by decide) (by decide)))

theorem printed_int (n : Int) : Printed (Json.int n).render := by
  have digits (k : Nat) : Printed (Utf8.encode (toString k)) := by
    refine printed_encode fun c h => ?_
    rw [Nat.toString_eq_repr, Nat.toList_repr] at h
    exact Nat.le_trans (by omega) (toNat_of_mem_toDigits h).1
  rcases Int.lt_or_le n 0 with neg | pos
  · obtain ⟨k, hk⟩ := Int.eq_ofNat_of_zero_le (show 0 ≤ -n by omega)
    obtain rfl : n = -(k : Int) := by omega
    rw [render_negative (by omega)]
    exact .cons (by decide) (by decide) (digits k)
  · obtain ⟨k, rfl⟩ := Int.eq_ofNat_of_zero_le pos
    rw [render_natCast]
    exact digits k

theorem printed_member {v : Json} (key : String) (h : Printed v.render) :
    Printed (renderText key ++ Octet.colon :: v.render) :=
  (printed_renderText key).append (.cons (by decide) (by decide) h)

mutual

theorem printed_render : (v : Json) → Printed v.render
  | .null => by rw [render]; exact printed_encode (by simp)
  | .bool true => by rw [render]; exact printed_encode (s := "true") (by simp)
  | .bool false => by rw [render]; exact printed_encode (s := "false") (by simp)
  | .int n => printed_int n
  | .text s => by rw [render]; exact printed_renderText s
  | .list vs => by
    rw [render]
    exact .cons (by decide) (by decide)
      ((printed_renderItems vs).append (printed_ascii (by decide) (by decide)))
  | .object ms => by
    rw [render]
    exact .cons (by decide) (by decide)
      ((printed_renderMembers ms).append (printed_ascii (by decide) (by decide)))

theorem printed_renderItems : (vs : List Json) → Printed (renderItems vs)
  | [] => printed_nil
  | [v] => by rw [renderItems]; exact printed_render v
  | v :: w :: vs => by
    rw [renderItems]
    · exact (printed_render v).append
        (.cons (by decide) (by decide) (printed_renderItems (w :: vs)))
    · simp

theorem printed_renderMembers : (ms : List (String × Json)) → Printed (renderMembers ms)
  | [] => printed_nil
  | [(key, v)] => by
    rw [renderMembers]
    exact printed_member key (printed_render v)
  | (key, v) :: m :: ms => by
    rw [renderMembers]
    · exact (printed_member key (printed_render v)).append
        (.cons (by decide) (by decide) (printed_renderMembers (m :: ms)))
    · simp

end

/-! ## On one line -/

namespace Printed

variable {bs : List UInt8}

theorem valid (h : Printed bs) : Utf8.valid bs = true := by
  obtain ⟨cs, -, rfl⟩ := h
  simpa [Utf8.encode] using Utf8.valid_encode (String.ofList cs)

/-- It is well formed with a line feed behind it, too. -/
theorem valid_feed (h : Printed bs) : Utf8.valid (bs ++ [0x0A]) = true := by
  obtain ⟨cs, -, rfl⟩ := h
  have octets : cs.flatMap Utf8.encodeChar ++ [0x0A] =
      Utf8.encode (String.ofList (cs ++ ['\n'])) := by
    rw [Utf8.encode, String.toList_ofList, List.flatMap_append]
    rfl
  rw [octets, Utf8.valid_encode]

theorem not_mem (h : Printed bs) {b : UInt8} (control : b.toNat < 0x20) : b ∉ bs := by
  obtain ⟨cs, hc, rfl⟩ := h
  intro mem
  obtain ⟨c, hm, hb⟩ := List.mem_flatMap.mp mem
  have low := hc c hm
  rcases Nat.lt_or_ge c.toNat 0x80 with one | more
  · have same : b = c.toNat.toUInt8 := by simpa [Utf8.encodeChar, one] using hb
    have value : b.toNat = c.toNat := by rw [same, Utf8.toNat_toUInt8 (by omega)]
    omega
  · have := Utf8.toNat_ge_of_mem_encodeChar more hb
    omega

end Printed

theorem printed_document {α : Type} [Wire α] (a : α) : Printed (Json.encode a) := printed_render _

/-- A document with members is more than blanks. -/
theorem decode?_object (ms : List (String × Json)) :
    ∃ s, Utf8.decode? (Json.object ms).render = some s ∧ Text.isBlank s = false := by
  obtain ⟨cs, -, hcs⟩ : Printed (renderMembers ms ++ [Octet.closeObject]) :=
    (printed_renderMembers ms).append (printed_ascii (by decide) (by decide))
  refine ⟨String.ofList ('{' :: cs), ?_, ?_⟩
  · have octets : (Json.object ms).render = Utf8.encode (String.ofList ('{' :: cs)) := by
      rw [render, List.cons_append, Utf8.encode, String.toList_ofList, List.flatMap_cons, ← hcs]
      rfl
    rw [octets, Utf8.decode?_encode]
  · have brace : Text.isBlankChar '{' = false := by decide
    simp [Text.isBlank, brace]

end RobotTurn.Json
