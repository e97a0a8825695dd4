import RobotTurn.Utf8

/-! Documents and their one compact written form: no blanks, members in the given order. -/
namespace RobotTurn

inductive Json where
  | null
  | bool (b : Bool)
  | int (n : Int)
  | text (s : String)
  | list (items : List Json)
  | object (members : List (String × Json))
  deriving Inhabited

namespace Json

/-- The octet of a hexadecimal digit, lower case. -/
def hexDigit (n : Nat) : UInt8 :=
  if n < 10 then (0x30 + n).toUInt8 else (0x57 + n).toUInt8

/-- The octets of a character inside quotes. Only quotes, backslashes and characters below
the space are escaped. -/
def escape (c : Char) : List UInt8 :=
  if c = '"' then [0x5C, 0x22]
  else if c = '\\' then [0x5C, 0x5C]
  else if c = '\x08' then [0x5C, 0x62]
  else if c = '\x0C' then [0x5C, 0x66]
  else if c = '\n' then [0x5C, 0x6E]
  else if c = '\r' then [0x5C, 0x72]
  else if c = '\t' then [0x5C, 0x74]
  else if c.toNat < 0x20 then
    [0x5C, 0x75, 0x30, 0x30, hexDigit (c.toNat / 16), hexDigit (c.toNat % 16)]
  else Utf8.encodeChar c

def renderText (s : String) : List UInt8 :=
  0x22 :: s.toList.flatMap escape ++ [0x22]

mutual

def render : Json → List UInt8
  | null => Utf8.encode "null"
  | bool b => Utf8.encode (toString b)
  | int n => Utf8.encode (toString n)
  | text s => renderText s
  | list items => 0x5B :: renderItems items ++ [0x5D]
  | object members => 0x7B :: renderMembers members ++ [0x7D]

/-- The items of a list, each but the first after a comma. -/
def renderItems : List Json → List UInt8
  | [] => []
  | [v] => v.render
  | v :: vs => v.render ++ 0x2C :: renderItems vs

/-- The members of an object, each but the first after a comma. -/
def renderMembers : List (String × Json) → List UInt8
  | [] => []
  | [(key, v)] => renderText key ++ 0x3A :: v.render
  | (key, v) :: rest => renderText key ++ 0x3A :: v.render ++ 0x2C :: renderMembers rest

end

/-- The written form as text. -/
def compact (v : Json) : String :=
  Utf8.lossy v.render

end Json
end RobotTurn
