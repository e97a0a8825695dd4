/-! Double-precision numbers as bit patterns. Every operation is exact arithmetic on natural
numbers followed by one rounding to the nearest double, halves to the even neighbour. -/
namespace RobotTurn

-- Powers of numbers are the core library's, also where another library brings its own.
attribute [instance (high), default_instance high] instPowNat

structure Double where
  bits : UInt64
  deriving DecidableEq, Repr, Inhabited

namespace Double

/-- The pattern without its sign. -/
def magnitude (x : Double) : Nat :=
  x.bits.toNat % 2 ^ 63

def isNegative (x : Double) : Bool :=
  2 ^ 63 ≤ x.bits.toNat

def infinityPattern : Nat := 0x7FF0000000000000

def isNaN (x : Double) : Bool :=
  infinityPattern < x.magnitude

def isInfinite (x : Double) : Bool :=
  x.magnitude = infinityPattern

/-- `(m, q)` where a finite number is `m * 2 ^ q` up to its sign. -/
def parts (x : Double) : Nat × Int :=
  let e : Nat := x.magnitude / 2 ^ 52
  let f : Nat := x.magnitude % 2 ^ 52
  if e = 0 then (f, -1074) else (f + 2 ^ 52, (e : Int) - 1075)

/-- The comparison of numbers: a NaN equals nothing and both zeros are equal. -/
def equals (x y : Double) : Bool :=
  !x.isNaN && !y.isNaN && (x.bits == y.bits || (x.magnitude == 0 && y.magnitude == 0))

def withSign (negative : Bool) (x : Double) : Double :=
  ⟨(x.magnitude + if negative then 2 ^ 63 else 0).toUInt64⟩

/-- The nearest natural number to a quotient, halves to the even one. -/
def roundQuotient (num den : Nat) : Nat :=
  let q := num / den
  let r := num % den
  if 2 * r < den then q else if den < 2 * r then q + 1 else q + q % 2

/-- `n * 2 ^ e`, or `n` where the power is negative. -/
def shifted (n : Nat) (e : Int) : Nat :=
  n * 2 ^ e.toNat

/-- The nearest double to a quotient of naturals; too large a one is infinite. -/
def ofRatio (num den : Nat) : Double :=
  if num = 0 then ⟨0⟩
  else
    let gap : Int := (num.log2 : Int) - den.log2
    let top := if shifted den gap ≤ shifted num (-gap) then gap else gap - 1
    let e := max (top - 52) (-1074)
    let m := roundQuotient (shifted num (-e)) (shifted den e)
    let pattern := (e + 1074).toNat * 2 ^ 52 + m
    ⟨(min pattern infinityPattern).toUInt64⟩

def ofNat (n : Nat) : Double :=
  ofRatio n 1

/-- A finite number without its sign, as a quotient. -/
def ratio (x : Double) : Nat × Nat :=
  let (m, q) := x.parts
  (shifted m q, shifted 1 (-q))

/-- The product of two numbers without their signs. -/
def mul (x y : Double) : Double :=
  ofRatio (x.ratio.1 * y.ratio.1) (x.ratio.2 * y.ratio.2)

/-- The quotient of two numbers without their signs. -/
def div (x y : Double) : Double :=
  ofRatio (x.ratio.1 * y.ratio.2) (x.ratio.2 * y.ratio.1)

/-- The largest natural number whose square is at most `n`. -/
def squareRoot (n : Nat) : Nat :=
  if h : n = 0 then 0
  else
    let r := 2 * squareRoot (n / 4)
    if (r + 1) * (r + 1) ≤ n then r + 1 else r
termination_by n
decreasing_by omega

/-- The whole number that stands for `n` among the doubles. -/
def rounded (n : Nat) : Nat :=
  let (num, den) := (ofNat n).ratio
  num / den

/-- The length of the diagonal over two whole sides, each side rounded first. The root is
taken with 64 binary places, and a last one tells whether it is exact. -/
def diagonal (dx dy : Nat) : Double :=
  let x := rounded dx
  let y := rounded dy
  let s := (x * x + y * y) * 2 ^ 128
  let r := squareRoot s
  ofRatio (2 * r + if r * r = s then 0 else 1) (2 ^ 65)

end Double
end RobotTurn
