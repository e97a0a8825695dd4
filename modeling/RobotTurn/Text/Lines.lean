import RobotTurn.Utf8

/-! Lines of a text, over octets or characters. A line ends after its line feed; the last
line of a text may have none. -/
namespace RobotTurn.Text

variable {α : Type}

/-- One element of a text being cut; the open line and the closed ones stand in reverse. -/
def cut (ends : α → Bool) (st : List α × List (List α)) (x : α) : List α × List (List α) :=
  if ends x then ([], (x :: st.1).reverse :: st.2) else (x :: st.1, st.2)

/-- The lines of a text, each with the element that ends it. -/
def pieces (ends : α → Bool) (xs : List α) : List (List α) :=
  let (rest, done) := xs.foldl (cut ends) ([], [])
  (if rest.isEmpty then done else rest.reverse :: done).reverse

/-- Drops a line feed at the end, and then one carriage return before it. -/
def chomp [DecidableEq α] (lf cr : α) (line : List α) : List α :=
  match line.reverse with
  | [] => []
  | x :: xs =>
    if x ≠ lf then line
    else match xs with
      | [] => []
      | y :: ys => if y = cr then ys.reverse else xs.reverse

/-- The lines of a text without their ends. -/
def lines (s : String) : List String :=
  (pieces (· == '\n') s.toList).map fun l => String.ofList (chomp '\n' '\r' l)

/-- The lines of an octet stream, each with its line feed. -/
def rawLines (bs : List UInt8) : List (List UInt8) :=
  pieces (· == 0x0A) bs

end RobotTurn.Text
