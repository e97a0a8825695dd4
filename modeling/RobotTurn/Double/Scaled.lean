import RobotTurn.Double.Basic

/-! Doubles from a whole number and a power of ten. -/
namespace RobotTurn.Double

/-- Multiplies or divides by a power of ten that is itself rounded to a double, in steps of
at most 308 places; nothing if the result is too large. -/
def scaleBy : Nat → Double → Int → Option Double
  | 0, x, _ => some x
  | steps + 1, x, e =>
    if e.natAbs ≤ 308 then
      let power := ofNat (10 ^ e.natAbs)
      if 0 ≤ e then
        let y := mul x power
        if y.isInfinite then none else some y
      else some (div x power)
    else if x.magnitude = 0 then some x
    else if 0 ≤ e then none
    else scaleBy steps (div x (ofNat (10 ^ 308))) (e + 308)

/-- `s * 10 ^ e` for a number `s` of 64 bits; two long steps down already make it zero. -/
def scaled (s : Nat) (e : Int) : Option Double :=
  scaleBy 4 (ofNat s) e

end RobotTurn.Double
