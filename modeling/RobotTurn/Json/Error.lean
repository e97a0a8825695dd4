import RobotTurn.Board.Basic
import RobotTurn.Double.Shortest
import RobotTurn.Text.Quoted

/-! What can be wrong with a document that is read into a type. -/
namespace RobotTurn.Json

/-- What stood where something else was wanted. -/
inductive Found where
  | null
  | bool (b : Bool)
  | int (n : Int)
  | double (x : Double)
  | text (s : String)
  | list
  | object
  | bareVariant
  deriving DecidableEq, Repr

/-- Numbers are written without an exponent while at most sixteen digits stand before the
point, or at most four zeros between the point and the first digit; whole ones end in a zero.
A half goes to the even digit. -/
def Found.numbers : Double.Layout := ⟨.even, fun point => -5 < point && point ≤ 16, ".0"⟩

def Found.describe : Found → String
  | null => "null"
  | bool b => s!"boolean `{b}`"
  | int n => s!"integer `{n}`"
  | double x => s!"floating point `{x.text numbers}`"
  | text s => s!"string {Text.quoted s}"
  | list => "sequence"
  | object => "map"
  | bareVariant => "unit variant"

inductive DecodeError where
  | endInValue
  | endInText
  | endInList
  | endInObject
  | noColon
  | noListComma
  | noObjectComma
  | badWord
  | noValue
  | badEscape
  | badNumber
  | hugeNumber
  | badUtf8
  | controlCharacter
  | keyNotText
  | loneSurrogate
  | cutSurrogate
  | trailingComma
  | trailingCharacters
  | wrongType (found : Found) (expected : String)
  | outOfRange (n : Int) (expected : String)
  | wrongLength (n : Nat) (expected : String)
  | unknownVariant (name : String) (variants : List String)
  | missingField (name : String)
  | duplicateField (name : String)
  | board (e : BoardError)
  deriving DecidableEq, Repr

namespace DecodeError

/-- The names to choose from. -/
def choices (names : List String) : String :=
  match names.map fun name => s!"`{name}`" with
  | [one] => one
  | [one, two] => s!"{one} or {two}"
  | more => "one of " ++ ", ".intercalate more

def message : DecodeError → String
  | endInValue => "EOF while parsing a value"
  | endInText => "EOF while parsing a string"
  | endInList => "EOF while parsing a list"
  | endInObject => "EOF while parsing an object"
  | noColon => "expected `:`"
  | noListComma => "expected `,` or `]`"
  | noObjectComma => "expected `,` or `\x7d`"
  | badWord => "expected ident"
  | noValue => "expected value"
  | badEscape => "invalid escape"
  | badNumber => "invalid number"
  | hugeNumber => "number out of range"
  | badUtf8 => "invalid unicode code point"
  | controlCharacter => "control character (\\u0000-\\u001F) found while parsing a string"
  | keyNotText => "key must be a string"
  | loneSurrogate => "lone leading surrogate in hex escape"
  | cutSurrogate => "unexpected end of hex escape"
  | trailingComma => "trailing comma"
  | trailingCharacters => "trailing characters"
  | wrongType found expected => s!"invalid type: {found.describe}, expected {expected}"
  | outOfRange n expected => s!"invalid value: integer `{n}`, expected {expected}"
  | wrongLength n expected => s!"invalid length {n}, expected {expected}"
  | unknownVariant name variants => s!"unknown variant `{name}`, expected {choices variants}"
  | missingField name => s!"missing field `{name}`"
  | duplicateField name => s!"duplicate field `{name}`"
  | board e => e.message

/-- Whether an error belongs to a place in the document. The others are found in a value that
has been read, and point at the end of what it stands in. -/
def isPlaced : DecodeError → Bool
  | wrongType .bareVariant _ => false
  | board _ => false
  | _ => true

end DecodeError

/-- A line and a column, counted from one; column zero is before the first octet. -/
structure Place where
  line : Nat
  column : Nat
  deriving DecidableEq, Repr

/-- The place behind the octets that have been read. -/
def Place.behind (read : List UInt8) : Place where
  line := read.count 0x0A + 1
  column := (read.reverse.takeWhile (· != 0x0A)).length

/-- Why a document was refused. -/
structure Refusal where
  error : DecodeError
  place : Option Place
  deriving DecidableEq, Repr

def Refusal.message (r : Refusal) : String :=
  r.error.message ++ match r.place with
    | none => ""
    | some p => s!" at line {p.line} column {p.column}"

end RobotTurn.Json
