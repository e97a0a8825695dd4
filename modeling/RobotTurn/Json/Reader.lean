import RobotTurn.Double.Scaled
import RobotTurn.Json.Error
import RobotTurn.Utf8

/-! Reading the parts of a document, octet by octet from the left. The first problem met is
the one that is reported. -/
namespace RobotTurn.Json

/-- A problem, and what of the document had not been read at its place. -/
structure Fault where
  error : DecodeError
  rest : List UInt8
  placed : Bool
  deriving DecidableEq

def Fault.at (rest : List UInt8) (e : DecodeError) : Fault :=
  { error := e, rest, placed := e.isPlaced }

/-- Reads the front of a document and leaves the rest. -/
abbrev Reader := StateT (List UInt8) (Except Fault)

namespace Octet

abbrev quote : UInt8 := 0x22
abbrev plus : UInt8 := 0x2B
abbrev comma : UInt8 := 0x2C
abbrev minus : UInt8 := 0x2D
abbrev point : UInt8 := 0x2E
abbrev zero : UInt8 := 0x30
abbrev colon : UInt8 := 0x3A
abbrev openList : UInt8 := 0x5B
abbrev backslash : UInt8 := 0x5C
abbrev closeList : UInt8 := 0x5D
abbrev openObject : UInt8 := 0x7B
abbrev closeObject : UInt8 := 0x7D

def isSpace (b : UInt8) : Bool := b == 0x20 || b == 0x09 || b == 0x0A || b == 0x0D

def isDigit (b : UInt8) : Bool := 0x30 ≤ b && b ≤ 0x39

/-- Either letter that opens an exponent. -/
def isExponent (b : UInt8) : Bool := b == 0x65 || b == 0x45

def digit (b : UInt8) : Nat := b.toNat - 0x30

/-- The value of a hexadecimal digit of either case. -/
def hex? (b : UInt8) : Option Nat :=
  if isDigit b then some (digit b)
  else if 0x41 ≤ b && b ≤ 0x46 then some (b.toNat - 0x37)
  else if 0x61 ≤ b && b ≤ 0x66 then some (b.toNat - 0x57)
  else none

end Octet

/-- The value of four hexadecimal digits. -/
def hex4? (a b c d : UInt8) : Option Nat := do
  let a ← Octet.hex? a
  let b ← Octet.hex? b
  let c ← Octet.hex? c
  let d ← Octet.hex? d
  return ((a * 16 + b) * 16 + c) * 16 + d

namespace Reader

variable {α : Type}

/-- Fails behind what has been read. -/
def fail (e : DecodeError) : Reader α := fun bs => .error (.at bs e)

/-- Fails behind the next octet. -/
def failAhead (e : DecodeError) : Reader α := fun bs => .error (.at bs.tail e)

def skipSpace : List UInt8 → List UInt8
  | [] => []
  | b :: bs => if Octet.isSpace b then skipSpace bs else b :: bs

/-- The next octet, left unread. -/
def look : Reader (Option UInt8) := fun bs => .ok (bs.head?, bs)

/-- The next octet after blanks, left unread. -/
def peek : Reader (Option UInt8) := fun bs => look (skipSpace bs)

/-- Drops the next octet. -/
def bump : Reader Unit := fun bs => .ok ((), bs.tail)

/-- Reads the given octets, the rest of a bare word. -/
def word : List UInt8 → Reader Unit
  | [] => pure ()
  | w :: ws => do
    match ← look with
    | none => fail .endInValue
    | some b => if b = w then do bump; word ws else failAhead .badWord

def wordNull : Reader Unit := do bump; word [0x75, 0x6C, 0x6C]
def wordTrue : Reader Unit := do bump; word [0x72, 0x75, 0x65]
def wordFalse : Reader Unit := do bump; word [0x61, 0x6C, 0x73, 0x65]

/-- The octet of an escape of two characters. -/
def shortEscape? (b : UInt8) : Option UInt8 :=
  if b = 0x22 || b = 0x5C || b = 0x2F then some b
  else if b = 0x62 then some 0x08
  else if b = 0x66 then some 0x0C
  else if b = 0x6E then some 0x0A
  else if b = 0x72 then some 0x0D
  else if b = 0x74 then some 0x09
  else none

def isHighSurrogate (n : Nat) : Bool := 0xD800 ≤ n && n ≤ 0xDBFF
def isLowSurrogate (n : Nat) : Bool := 0xDC00 ≤ n && n ≤ 0xDFFF

/-- Puts the octets of a code point before others that stand in reverse. -/
def pushChar (n : Nat) (acc : List UInt8) : List UInt8 :=
  (Utf8.encodeChar (Char.ofNat n)).reverse ++ acc

/-- The octets of a quoted text up to its closing quote, escapes undone; those read so far
stand in reverse. An escaped character beyond 16 bits takes two escapes. -/
def textOctets (acc : List UInt8) : List UInt8 → Except Fault (List UInt8 × List UInt8)
  | [] => .error (.at [] .endInText)
  | b :: bs =>
    if b = Octet.quote then .ok (acc.reverse, bs)
    else if b = Octet.backslash then
      match bs with
      | [] => .error (.at [] .endInText)
      | e :: bs =>
        if e = 0x75 then
          match bs with
          | h₁ :: h₂ :: h₃ :: h₄ :: bs =>
            match hex4? h₁ h₂ h₃ h₄ with
            | none => .error (.at bs .badEscape)
            | some n =>
              if isLowSurrogate n then .error (.at bs .loneSurrogate)
              else if isHighSurrogate n then
                match bs with
                | [] => .error (.at [] .endInText)
                | s :: bs =>
                  if s ≠ Octet.backslash then .error (.at bs .cutSurrogate)
                  else match bs with
                    | [] => .error (.at [] .endInText)
                    | u :: bs =>
                      if u ≠ 0x75 then .error (.at bs .cutSurrogate)
                      else match bs with
                        | l₁ :: l₂ :: l₃ :: l₄ :: bs =>
                          match hex4? l₁ l₂ l₃ l₄ with
                          | none => .error (.at bs .badEscape)
                          | some m =>
                            if isLowSurrogate m then
                              textOctets
                                (pushChar (0x10000 + (n - 0xD800) * 0x400 + (m - 0xDC00)) acc) bs
                            else .error (.at bs .loneSurrogate)
                        | _ => .error (.at [] .endInText)
              else textOctets (pushChar n acc) bs
          | _ => .error (.at [] .endInText)
        else match shortEscape? e with
          | none => .error (.at bs .badEscape)
          | some c => textOctets (c :: acc) bs
    else if b < 0x20 then .error (.at bs .controlCharacter)
    else textOctets (b :: acc) bs

/-- A text whose opening quote has been read. -/
def restOfText : Reader String := do
  match Utf8.decode? (← fun bs => textOctets [] bs) with
  | none => fail .badUtf8
  | some s => pure s

/-- Skips a text whose opening quote has been read; only its escapes' form is checked. -/
def skipText : List UInt8 → Except Fault (Unit × List UInt8)
  | [] => .error (.at [] .endInText)
  | b :: bs =>
    if b = Octet.quote then .ok ((), bs)
    else if b = Octet.backslash then
      match bs with
      | [] => .error (.at [] .endInText)
      | e :: bs =>
        if e = 0x75 then
          match bs with
          | h₁ :: h₂ :: h₃ :: h₄ :: bs =>
            if (hex4? h₁ h₂ h₃ h₄).isSome then skipText bs else .error (.at bs .badEscape)
          | _ => .error (.at [] .endInText)
        else if (shortEscape? e).isSome then skipText bs
        else .error (.at bs .badEscape)
    else if b < 0x20 then .error (.at (b :: bs) .controlCharacter)
    else skipText bs

/-- The digits up to the next octet that is none. -/
def digits : Reader (List Nat) := fun bs =>
  let (ds, rest) := bs.span Octet.isDigit
  .ok (ds.map Octet.digit, rest)

/-- A number as it is written. -/
structure Numeral where
  negative : Bool
  whole : List Nat
  fraction : Option (List Nat) := none
  exponent : Option Int := none

def decimal (ds : List Nat) : Nat :=
  ds.foldl (fun n d => n * 10 + d) 0

/-- Whether an exponent has a minus sign. -/
def exponentSign : Reader Bool := do
  match ← look with
  | none => pure false
  | some b =>
    if b = Octet.minus then do
      bump
      pure true
    else if b = Octet.plus then do
      bump
      pure false
    else pure false

/-- The exponent of a number, from the letter that opens it. -/
def exponent : Reader Int := do
  bump
  let negative ← exponentSign
  match ← look with
  | none => fail .endInValue
  | some b =>
    if Octet.isDigit b then do
      let n := decimal (← digits)
      return if negative then -(n : Int) else n
    else failAhead .badNumber

def exponent? : Reader (Option Int) := do
  match ← look with
  | some b => if Octet.isExponent b then some <$> exponent else pure none
  | none => pure none

/-- The digits after the point. -/
def fraction : Reader (List Nat) := do
  bump
  let ds ← digits
  if ds.isEmpty then
    match ← look with
    | none => fail .endInValue
    | some _ => failAhead .badNumber
  else pure ds

/-- What follows the whole digits of a number. -/
def restOfNumeral (negative : Bool) (whole : List Nat) : Reader Numeral := do
  match ← look with
  | some b =>
    if b = Octet.point then do
      let ds ← fraction
      return { negative, whole, fraction := some ds, exponent := ← exponent? }
    else return { negative, whole, exponent := ← exponent? }
  | none => return { negative, whole }

/-- A number after its sign. A zero stands alone before the point. -/
def numeral (negative : Bool) : Reader Numeral := do
  match ← look with
  | none => fail .endInValue
  | some b =>
    if b = Octet.zero then do
      bump
      match ← look with
      | some d => if Octet.isDigit d then failAhead .badNumber else restOfNumeral negative [0]
      | none => restOfNumeral negative [0]
    else if Octet.isDigit b then do restOfNumeral negative (← digits)
    else failAhead .badNumber

/-- The number that digits add to a given one, as long as it stays below `2 ^ 64`, and how
many digits are left over. -/
def gather : Nat → List Nat → Nat × Nat
  | n, [] => (n, 0)
  | n, d :: ds => if n * 10 + d < 2 ^ 64 then gather (n * 10 + d) ds else (n, ds.length + 1)

inductive Number where
  | int (n : Int)
  | double (x : Double)

def Number.found : Number → Found
  | int n => .int n
  | double x => .double x

/-- A number with a point or an exponent is a double, and so is one beyond 64 bits and a
negative zero. Digits that do not fit in 64 bits count as zeros. -/
def Numeral.value (n : Numeral) : Except DecodeError Number :=
  let (whole, extra) := gather 0 n.whole
  let double (s : Nat) (e : Int) : Except DecodeError Number :=
    match Double.scaled s e with
    | none => .error .hugeNumber
    | some x => .ok (.double (x.withSign n.negative))
  match n.fraction, n.exponent with
  | none, none =>
    if 0 < extra then double whole extra
    else if !n.negative then .ok (.int whole)
    else if 0 < whole ∧ whole ≤ 2 ^ 63 then .ok (.int (-whole))
    else double whole 0
  | fraction, exponent =>
    let ds := fraction.getD []
    let (s, left) := gather whole ds
    double s ((extra : Int) - (ds.length - left : Nat) + exponent.getD 0)

def number (negative : Bool) : Reader Number := do
  match (← numeral negative).value with
  | .ok n => pure n
  | .error e => fail e

/-- Skips digits, of which there must be some. -/
def skipDigits : Reader Unit := do
  if (← digits).isEmpty then failAhead .badNumber

def skipExponent : Reader Unit := do
  match ← look with
  | none => pure ()
  | some b =>
    if Octet.isExponent b then do
      bump
      discard exponentSign
      skipDigits
    else pure ()

def skipFraction : Reader Unit := do
  match ← look with
  | none => pure ()
  | some b =>
    if b = Octet.point then do
      bump
      skipDigits
    else pure ()

/-- Skips a number after its sign; only its form is checked. -/
def skipNumber : Reader Unit := do
  match ← look with
  | none => failAhead .badNumber
  | some b =>
    if b = Octet.zero then do
      bump
      match ← look with
      | some d => if Octet.isDigit d then failAhead .badNumber else pure ()
      | none => pure ()
    else skipDigits
    skipFraction
    skipExponent

/-- Reads enough of a value of the wrong type to say what it is. -/
def refuse (expected : String) : Reader α := do
  match ← look with
  | none => failAhead .noValue
  | some b =>
    if b = 0x6E then do wordNull; fail (.wrongType .null expected)
    else if b = 0x74 then do wordTrue; fail (.wrongType (.bool true) expected)
    else if b = 0x66 then do wordFalse; fail (.wrongType (.bool false) expected)
    else if b = Octet.minus then do
      bump
      fail (.wrongType (← number true).found expected)
    else if Octet.isDigit b then do fail (.wrongType (← number false).found expected)
    else if b = Octet.quote then do
      bump
      fail (.wrongType (.text (← restOfText)) expected)
    else if b = Octet.openList then fail (.wrongType .list expected)
    else if b = Octet.openObject then fail (.wrongType .object expected)
    else failAhead .noValue

/-- Whether another item of a list follows; after a comma one must. -/
def itemFollows (first : Bool) : Reader Bool := do
  match ← peek with
  | none => failAhead .endInList
  | some b =>
    if b = Octet.closeList then pure false
    else if first then pure true
    else if b = Octet.comma then do
      bump
      match ← peek with
      | none => failAhead .endInValue
      | some b => if b = Octet.closeList then failAhead .trailingComma else pure true
    else failAhead .noListComma

/-- The end of a list of which all wanted items have been read. -/
def closeList : Reader Unit := do
  match ← peek with
  | none => failAhead .endInList
  | some b =>
    if b = Octet.closeList then bump
    else if b = Octet.comma then do
      bump
      match ← peek with
      | some b =>
        if b = Octet.closeList then failAhead .trailingComma else failAhead .trailingCharacters
      | none => failAhead .trailingCharacters
    else failAhead .trailingCharacters

/-- Whether another member of an object follows; after a comma one must. -/
def memberFollows (first : Bool) : Reader Bool := do
  match ← peek with
  | none => failAhead .endInObject
  | some b =>
    if b = Octet.closeObject then pure false
    else if first then if b = Octet.quote then pure true else failAhead .keyNotText
    else if b = Octet.comma then do
      bump
      match ← peek with
      | none => failAhead .endInValue
      | some b =>
        if b = Octet.quote then pure true
        else if b = Octet.closeObject then failAhead .trailingComma
        else failAhead .keyNotText
    else failAhead .noObjectComma

def colon : Reader Unit := do
  match ← peek with
  | none => failAhead .endInObject
  | some b => if b = Octet.colon then bump else failAhead .noColon

/-- The end of a list whose reading has failed: its bracket, or a comma, is passed. -/
def passList (bs : List UInt8) : List UInt8 :=
  match skipSpace bs with
  | [] => []
  | b :: bs =>
    if b = Octet.closeList then bs
    else if b = Octet.comma then skipSpace bs
    else b :: bs

/-- The end of an object whose reading has failed: its brace is passed. -/
def passObject (bs : List UInt8) : List UInt8 :=
  match skipSpace bs with
  | [] => []
  | b :: bs => if b = Octet.closeObject then bs else b :: bs

/-- Gives a failure without a place the end of what it stands in. -/
def placing (pass : List UInt8 → List UInt8) (r : Reader α) : Reader α := fun bs =>
  match r bs with
  | .ok a => .ok a
  | .error f =>
    if f.placed then .error f else .error { f with rest := pass f.rest, placed := true }

mutual

/-- Skips a value with at most the given number of nested steps. -/
def skipValue : Nat → Reader Unit
  | 0 => failAhead .noValue
  | steps + 1 => do
    match ← peek with
    | none => failAhead .endInValue
    | some b =>
      if b = 0x6E then wordNull
      else if b = 0x74 then wordTrue
      else if b = 0x66 then wordFalse
      else if b = Octet.minus then do bump; skipNumber
      else if Octet.isDigit b then skipNumber
      else if b = Octet.quote then do bump; fun bs => skipText bs
      else if b = Octet.openList then do
        bump
        match ← peek with
        | none => failAhead .endInList
        | some b => if b = Octet.closeList then bump else skipItems steps
      else if b = Octet.openObject then do
        bump
        match ← peek with
        | none => failAhead .endInObject
        | some b => if b = Octet.closeObject then bump else skipMembers steps
      else failAhead .noValue

/-- Skips the items of a list from the start of one. -/
def skipItems : Nat → Reader Unit
  | 0 => failAhead .noValue
  | steps + 1 => do
    skipValue steps
    match ← peek with
    | none => failAhead .endInList
    | some b =>
      if b = Octet.comma then do bump; skipItems steps
      else if b = Octet.closeList then bump
      else failAhead .noListComma

/-- Skips the members of an object from the start of one. -/
def skipMembers : Nat → Reader Unit
  | 0 => failAhead .noValue
  | steps + 1 => do
    match ← peek with
    | none => failAhead .endInObject
    | some b =>
      if b ≠ Octet.quote then failAhead .keyNotText
      else do
        bump
        (fun bs => skipText bs)
        colon
        skipValue steps
        match ← peek with
        | none => failAhead .endInObject
        | some b =>
          if b = Octet.comma then do bump; skipMembers steps
          else if b = Octet.closeObject then bump
          else failAhead .noObjectComma

end

/-- Skips a value of any type. Every two steps read an octet, so they suffice. -/
def skip : Reader Unit := fun bs => skipValue (2 * bs.length + 2) bs

end Reader
end RobotTurn.Json
