/-! UTF-8 as a machine that reads one octet at a time. An octet that cannot continue the
sequence under way closes that sequence as malformed and is then read afresh, so every
malformed stretch is a maximal start of some sequence. -/
namespace RobotTurn.Utf8

/-- The octets of one character. -/
def encodeChar (c : Char) : List UInt8 :=
  let n := c.toNat
  if n < 0x80 then [n.toUInt8]
  else if n < 0x800 then [(0xC0 + n / 0x40).toUInt8, (0x80 + n % 0x40).toUInt8]
  else if n < 0x10000 then
    [(0xE0 + n / 0x1000).toUInt8, (0x80 + n / 0x40 % 0x40).toUInt8, (0x80 + n % 0x40).toUInt8]
  else
    [(0xF0 + n / 0x40000).toUInt8, (0x80 + n / 0x1000 % 0x40).toUInt8,
      (0x80 + n / 0x40 % 0x40).toUInt8, (0x80 + n % 0x40).toUInt8]

def encode (s : String) : List UInt8 :=
  s.toList.flatMap encodeChar

/-- A sequence under way: its value so far, the octets it still owes, and the bounds of the
next one. -/
structure Pending where
  value : Nat
  owed : Nat
  low : Nat := 0x80
  high : Nat := 0xBF
  deriving DecidableEq, Repr

/-- Reads an octet between sequences. A scanned item is a character, or `none` for a
malformed stretch. -/
def start (b : Nat) : Option Pending × List (Option Char) :=
  if b < 0x80 then (none, [some (Char.ofNat b)])
  else if b < 0xC2 then (none, [none])
  else if b < 0xE0 then (some { value := b - 0xC0, owed := 1 }, [])
  else if b = 0xE0 then (some { value := 0, owed := 2, low := 0xA0 }, [])
  else if b = 0xED then (some { value := 0xD, owed := 2, high := 0x9F }, [])
  else if b < 0xF0 then (some { value := b - 0xE0, owed := 2 }, [])
  else if b = 0xF0 then (some { value := 0, owed := 3, low := 0x90 }, [])
  else if b < 0xF4 then (some { value := b - 0xF0, owed := 3 }, [])
  else if b = 0xF4 then (some { value := 4, owed := 3, high := 0x8F }, [])
  else (none, [none])

/-- Reads one octet, whatever went before. -/
def feed (p : Option Pending) (b : Nat) : Option Pending × List (Option Char) :=
  match p with
  | none => start b
  | some p =>
    if p.low ≤ b ∧ b ≤ p.high then
      let v := p.value * 0x40 + (b - 0x80)
      if p.owed = 1 then (none, [some (Char.ofNat v)])
      else (some { value := v, owed := p.owed - 1 }, [])
    else
      let (q, out) := start b
      (q, none :: out)

/-- One octet of a scan; the items found so far stand in reverse. -/
def step (st : Option Pending × List (Option Char)) (b : UInt8) :
    Option Pending × List (Option Char) :=
  let (p, out) := feed st.1 b.toNat
  (p, out.reverse ++ st.2)

/-- Every character and malformed stretch of a text, in order. -/
def scan (bs : List UInt8) : List (Option Char) :=
  let (p, out) := bs.foldl step (none, [])
  (if p.isSome then none :: out else out).reverse

def valid (bs : List UInt8) : Bool :=
  (scan bs).all Option.isSome

/-- The text, if every stretch of it is well formed. -/
def decode? (bs : List UInt8) : Option String :=
  let items := scan bs
  if items.all Option.isSome then some (String.ofList (items.filterMap id)) else none

/-- Looks for a malformed stretch from the octet with number `i` on; a sequence under way
began at `first`. -/
def search (p : Option Pending) (first i : Nat) : List UInt8 → Option (Nat × Option Nat)
  | [] => p.map fun _ => (first, none)
  | b :: bs =>
    let begin := if p.isSome then first else i
    let (q, out) := feed p b.toNat
    if out.head? = some none then some (begin, some (max 1 (i - begin)))
    else search q begin (i + 1) bs

/-- Where the first malformed stretch begins and how long it is. One that the end of the text
cuts short has no length. -/
def fault? (bs : List UInt8) : Option (Nat × Option Nat) :=
  search none 0 0 bs

/-- The text with U+FFFD in place of every malformed stretch. -/
def lossy (bs : List UInt8) : String :=
  String.ofList ((scan bs).map (·.getD '\uFFFD'))

end RobotTurn.Utf8
