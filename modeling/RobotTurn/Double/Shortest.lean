import RobotTurn.Double.Basic

/-! The fewest decimal digits that read back as a double, and the ways to lay them out. -/
namespace RobotTurn.Double

/-- Where a number goes that lies halfway between two decimals: to the larger one, or to the
one whose last digit is even. -/
inductive Half where
  | up | even
  deriving DecidableEq, Repr

/-- The reals that round to a double, as multiples of a quarter of its unit: the number
itself and the ends of the interval, which belong to it when `closed`. -/
structure Interval where
  low : Nat
  mid : Nat
  high : Nat
  closed : Bool

/-- The interval around `m * 2 ^ q`. The gap below a power of two is half as wide, except at
the bottom of the range. -/
def interval (m : Nat) (q : Int) : Interval :=
  { low := if m = 2 ^ 52 ∧ -1074 < q then 4 * m - 1 else 4 * m - 2
    mid := 4 * m
    high := 4 * m + 2
    closed := m % 2 = 0 }

/-- Whether `n + 1` is taken for `n + part / den`, and not `n`. -/
def Half.raises (half : Half) (n part den : Nat) : Bool :=
  match half, compare (2 * part) den with
  | _, .lt => false
  | _, .gt => true
  | up, .eq => true
  | even, .eq => n % 2 = 1

/-- The multiple of `10 ^ k` inside the interval that is nearest to its number. -/
def nearest? (half : Half) (i : Interval) (q k : Int) : Option Nat :=
  let up (n : Nat) := shifted n (q - 2) * 10 ^ (-k).toNat
  let den := shifted 1 (2 - q) * 10 ^ k.toNat
  let d := up i.mid / den
  let inside (c : Nat) : Bool :=
    if i.closed then up i.low ≤ c * den && c * den ≤ up i.high
    else up i.low < c * den && c * den < up i.high
  match inside d, inside (d + 1) with
  | true, false => some d
  | false, true => some (d + 1)
  | true, true => some (if half.raises d (up i.mid - d * den) den then d + 1 else d)
  | false, false => none

/-- Tries ever finer powers of ten, at most as many as are given. -/
def firstNear (half : Half) (i : Interval) (q : Int) : Nat → Int → Nat × Int
  | 0, k => (0, k)
  | tries + 1, k =>
    match nearest? half i q k with
    | some d => (d, k)
    | none => firstNear half i q tries (k - 1)

/-- `(d, k)` where `d * 10 ^ k` has the fewest digits of all decimals that round to the
positive number `m * 2 ^ q`, and is the nearest of those. -/
def shortest (half : Half) (m : Nat) (q : Int) : Nat × Int :=
  firstNear half (interval m q) q 24 ((m.log2 + q + 2) * 30103 / 100000 + 1)

/-- How a number is written. `half` settles which of two equally near decimals is taken;
`positional` says, of the place of the point after the first digit's left edge, whether no
exponent is written; a whole number ends in `whole`. -/
structure Layout where
  half : Half
  positional : Int → Bool
  whole : String

def zeros (n : Int) : String :=
  String.ofList (List.replicate n.toNat '0')

/-- Writes `d * 10 ^ k`; an exponent always has its sign. -/
def Layout.write (layout : Layout) (d : Nat) (k : Int) : String :=
  let ds := (toString d).toList
  let point := ds.length + k
  let cut (n : Nat) := String.ofList (ds.take n) ++ "." ++ String.ofList (ds.drop n)
  if layout.positional point then
    if 0 ≤ k then toString d ++ zeros k ++ layout.whole
    else if 0 < point then cut point.toNat
    else "0." ++ zeros (-point) ++ toString d
  else
    (if ds.length = 1 then toString d else cut 1) ++ "e" ++
      (if 0 < point then "+" else "") ++ toString (point - 1)

def text (layout : Layout) (x : Double) : String :=
  if x.isNaN then "NaN"
  else
    (if x.isNegative then "-" else "") ++
      if x.isInfinite then "inf"
      else if x.magnitude = 0 then "0" ++ layout.whole
      else
        let (m, q) := x.parts
        let (d, k) := shortest layout.half m q
        layout.write d k

end RobotTurn.Double
