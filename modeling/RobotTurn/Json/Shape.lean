import RobotTurn.Json.Basic
import RobotTurn.Json.Reader

/-! Documents of known shape: each shape reads its type in one pass, and `Wire` pairs it with
the document that a value is written as. -/
namespace RobotTurn.Json

namespace Reader

variable {α β σ : Type}

def text (expected : String) : Reader String := do
  match ← peek with
  | none => failAhead .endInValue
  | some b =>
    if b = Octet.quote then do
      bump
      restOfText
    else refuse expected

/-- A whole number between two bounds. -/
def integer (low high : Int) (expected : String) : Reader Int := do
  match ← peek with
  | none => failAhead .endInValue
  | some b =>
    let accept : Number → Reader Int
      | .int n => if low ≤ n ∧ n ≤ high then pure n else fail (.outOfRange n expected)
      | .double x => fail (.wrongType (.double x) expected)
    if b = Octet.minus then do
      bump
      accept (← number true)
    else if Octet.isDigit b then do accept (← number false)
    else refuse expected

def unit : Reader Unit := do
  match ← peek with
  | none => failAhead .endInValue
  | some b => if b = 0x6E then wordNull else refuse "unit"

/-- Nothing where `null` stands. -/
def option (r : Reader α) : Reader (Option α) := do
  match ← peek with
  | some b =>
    if b = 0x6E then do
      wordNull
      pure none
    else some <$> r
  | none => some <$> r

/-- Reads past the bracket or brace that opens a value. -/
def enter (opening : UInt8) (expected : String) : Reader Unit := do
  match ← peek with
  | none => failAhead .endInValue
  | some b => if b = opening then bump else refuse expected

/-- The items of a list, those read so far in reverse, at most as many as given. -/
def items (r : Reader α) : Nat → Bool → List α → Reader (List α)
  | 0, _, _ => failAhead .endInList
  | more + 1, first, acc => do
    if ← itemFollows first then items r more false ((← r) :: acc) else pure acc.reverse

def list (r : Reader α) : Reader (List α) := do
  enter Octet.openList "a sequence"
  let found ← placing passList fun bs => items r (bs.length + 1) true [] bs
  bump
  pure found

/-- Fails at the end of a list that is too short. -/
def short (n : Nat) (expected : String) : Reader α := do
  bump
  fail (.wrongLength n expected)

def pair (r : Reader α) (s : Reader β) : Reader (α × β) := do
  let wanted := "a tuple of size 2"
  enter Octet.openList wanted
  let both ← placing passList do
    if ← itemFollows true then
      let a ← r
      if ← itemFollows false then
        let b ← s
        pure (a, b)
      else short 1 wanted
    else short 0 wanted
  closeList
  pure both

/-- Folds the members of an object, at most as many as given. The step starts after the key. -/
def foldMembers (step : σ → String → Reader σ) : Nat → Bool → σ → Reader σ
  | 0, _, _ => failAhead .endInObject
  | more + 1, first, acc => do
    if ← memberFollows first then
      bump
      let key ← restOfText
      foldMembers step more false (← step acc key)
    else pure acc

/-- The members of an object after its opening brace. -/
def members (step : σ → String → Reader σ) (start : σ) : Reader σ := do
  let found ← placing passObject fun bs => foldMembers step (bs.length + 1) true start bs
  bump
  pure found

/-- An object whose members are all of one type, after every key a value. -/
def mapping (key : String → Reader β) (r : Reader α) (put : σ → β → α → σ) (start : σ) :
    Reader σ := do
  enter Octet.openObject "a map"
  members (fun acc name => do
    let k ← key name
    colon
    return put acc k (← r)) start

def dict (r : Reader α) : Reader (Dict α) :=
  mapping pure r Dict.insert ∅

end Reader

/-- A member of a record that is read into a draft. `omittable` members may be left off the
end of the written list of members. -/
structure Field (σ : Type) where
  name : String
  isSet : σ → Bool
  read : σ → Reader σ
  omittable : Bool := false

/-- A record, written as an object or as the list of its members in order. -/
structure Record (σ α : Type) where
  name : String
  fields : List (Field σ)
  draft : σ
  finish : σ → Except DecodeError α

namespace Record

variable {α σ : Type}

/-- Reads one member after its key; unknown ones are skipped. -/
def member (r : Record σ α) (draft : σ) (key : String) : Reader σ :=
  match r.fields.find? (·.name = key) with
  | none => do
    Reader.colon
    Reader.skip
    pure draft
  | some f =>
    if f.isSet draft then do
      discard Reader.peek
      Reader.fail (.duplicateField key)
    else do
      Reader.colon
      f.read draft

/-- Reads the remaining members of the list form, of which `seen` have been read. -/
def positional (r : Record σ α) : List (Field σ) → Nat → σ → Reader σ
  | [], _, draft => pure draft
  | f :: fs, seen, draft => do
    if ← Reader.itemFollows (seen = 0) then positional r fs (seen + 1) (← f.read draft)
    else if f.omittable then positional r fs (seen + 1) draft
    else Reader.short seen s!"struct {r.name} with {r.fields.length} elements"

/-- The record of a draft whose document has been read. -/
def complete (r : Record σ α) (draft : σ) : Reader α :=
  match r.finish draft with
  | .ok a => pure a
  | .error e => Reader.fail e

def read (r : Record σ α) : Reader α := do
  match ← Reader.peek with
  | none => Reader.failAhead .endInValue
  | some b =>
    if b = Octet.openList then do
      Reader.bump
      let draft ← Reader.placing Reader.passList (positional r r.fields 0 r.draft)
      Reader.closeList
      r.complete draft
    else if b = Octet.openObject then do
      Reader.bump
      let draft ← Reader.members r.member r.draft
      r.complete draft
    else Reader.refuse s!"struct {r.name}"

/-- The value of a member that must be there. -/
def need (name : String) : Option β → Except DecodeError β
  | none => .error (.missingField name)
  | some b => .ok b

end Record

/-- What stands in an alternative besides its name. -/
inductive Content (α : Type) where
  | bare (a : α)
  | holding (r : Reader α)

/-- Alternatives by name. A bare one is written as its name, any other as an object with one
member. -/
structure Choice (α : Type) where
  variants : List (String × Content α)

namespace Choice

variable {α : Type}

def find (c : Choice α) (name : String) : Reader (Content α) :=
  match c.variants.lookup name with
  | none => Reader.fail (.unknownVariant name (c.variants.map (·.1)))
  | some content => pure content

/-- The name of the one member of an object. -/
def key : Reader String := do
  match ← Reader.peek with
  | none => Reader.failAhead .endInObject
  | some b =>
    if b = Octet.quote then do
      Reader.bump
      Reader.restOfText
    else if b = Octet.closeObject then Reader.failAhead .noValue
    else Reader.failAhead .keyNotText

def read (c : Choice α) : Reader α := do
  match ← Reader.peek with
  | none => Reader.failAhead .endInValue
  | some b =>
    if b = Octet.openObject then do
      Reader.bump
      let content ← c.find (← key)
      Reader.colon
      let a ← match content with
        | .bare a => do
          Reader.unit
          pure a
        | .holding r => r
      match ← Reader.peek with
      | none => Reader.fail .endInObject
      | some b =>
        if b = Octet.closeObject then do
          Reader.bump
          pure a
        else Reader.fail .noValue
    else if b = Octet.quote then do
      Reader.bump
      match ← c.find (← Reader.restOfText) with
      | .bare a => pure a
      | .holding _ => Reader.fail (.wrongType .bareVariant "newtype variant")
    else Reader.failAhead .noValue

/-- A choice of bare names. -/
def names (as : List α) (name : α → String) : Choice α :=
  { variants := as.map fun a => (name a, .bare a) }

end Choice

/-- Types that travel as documents. -/
class Wire (α : Type) where
  toJson : α → Json
  read : Reader α

/-- Reads a whole document, with nothing but blanks after it. -/
def whole {α : Type} (r : Reader α) : Reader α := do
  let a ← r
  match ← Reader.peek with
  | none => pure a
  | some _ => Reader.failAhead .trailingCharacters

/-- The value of a document. -/
def decode (α : Type) [Wire α] (bs : List UInt8) : Except Refusal α :=
  match whole (Wire.read : Reader α) bs with
  | .ok (a, _) => .ok a
  | .error f =>
    let place := Place.behind (bs.take (bs.length - f.rest.length))
    .error { error := f.error, place := if f.placed then some place else none }

def encode {α : Type} [Wire α] (a : α) : List UInt8 :=
  (Wire.toJson a).render

instance : Wire Unit := ⟨fun _ => .null, Reader.unit⟩

instance : Wire String := ⟨.text, Reader.text "a string"⟩

instance {α : Type} [Wire α] : Wire (Option α) where
  toJson
    | none => .null
    | some a => Wire.toJson a
  read := Reader.option Wire.read

instance {α : Type} [Wire α] : Wire (List α) where
  toJson as := .list (as.map Wire.toJson)
  read := Reader.list Wire.read

instance {α β : Type} [Wire α] [Wire β] : Wire (α × β) where
  toJson p := .list [Wire.toJson p.1, Wire.toJson p.2]
  read := Reader.pair Wire.read Wire.read

instance {α : Type} [Wire α] : Wire (Dict α) where
  toJson d := .object (d.entries.map fun e => (e.1, Wire.toJson e.2))
  read := Reader.dict Wire.read

/-- A result is an object whose one member tells success from failure. -/
instance {ε α : Type} [Wire ε] [Wire α] : Wire (Except ε α) where
  toJson
    | .ok a => .object [("Ok", Wire.toJson a)]
    | .error e => .object [("Err", Wire.toJson e)]
  read := Choice.read
    { variants := [
        ("Ok", .holding (.ok <$> Wire.read)), ("Err", .holding (.error <$> Wire.read))] }

end RobotTurn.Json
