import Mathlib.Data.List.DropRight
import RobotTurn.Text.Lines

/-! Cutting a text into its lines. Lines that are put together are found again one by one
(`pieces_flatten`), whatever follows them. What belongs to the end of a line is cut off, and that
is less than all line feeds and carriage returns there (`chomp_eq_rdropWhile_iff`). -/
namespace RobotTurn.Text

variable {α : Type} {ends : α → Bool}

/-- Elements of which only the last one ends a line. -/
def Line (ends : α → Bool) (xs : List α) : Prop :=
  ∃ body e, xs = body ++ [e] ∧ (∀ x ∈ body, ends x = false) ∧ ends e = true

theorem foldl_cut_open {body : List α} (h : ∀ x ∈ body, ends x = false) (held : List α)
    (done : List (List α)) :
    body.foldl (cut ends) (held, done) = (body.reverse ++ held, done) := by
  induction body generalizing held with
  | nil => rfl
  | cons x xs ih =>
    have first : cut ends (held, done) x = (x :: held, done) := by
      simp [cut, h x List.mem_cons_self]
    rw [List.foldl_cons, first, ih fun y hy => h y (List.mem_cons_of_mem _ hy)]
    simp

/-- The lines that are closed already take no part in what follows. -/
theorem foldl_cut_done (xs held : List α) (done : List (List α)) :
    xs.foldl (cut ends) (held, done) =
      ((xs.foldl (cut ends) (held, [])).1, (xs.foldl (cut ends) (held, [])).2 ++ done) := by
  induction xs generalizing held done with
  | nil => rfl
  | cons x xs ih =>
    simp only [List.foldl_cons, cut]
    split
    · rw [ih, ih [] [(x :: held).reverse]]
      simp
    · exact ih (x :: held) done

theorem pieces_cons {line : List α} (h : Line ends line) (rest : List α) :
    pieces ends (line ++ rest) = line :: pieces ends rest := by
  obtain ⟨body, e, rfl, inner, last⟩ := h
  have closed : (body ++ [e]).foldl (cut ends) ([], []) = ([], [body ++ [e]]) := by
    rw [List.foldl_append, foldl_cut_open inner]
    simp [cut, last]
  rw [pieces, List.foldl_append, closed, foldl_cut_done, pieces]
  dsimp only
  split <;> simp

/-- Lines are found again, and so are the lines of what follows them. -/
theorem pieces_flatten {ls : List (List α)} (h : ∀ l ∈ ls, Line ends l) (rest : List α) :
    pieces ends (ls.flatten ++ rest) = ls ++ pieces ends rest := by
  induction ls with
  | nil => rfl
  | cons l ls ih =>
    rw [List.flatten_cons, List.append_assoc, pieces_cons (h l List.mem_cons_self),
      ih fun m hm => h m (List.mem_cons_of_mem _ hm)]
    rfl

theorem pieces_lines {ls : List (List α)} (h : ∀ l ∈ ls, Line ends l) :
    pieces ends ls.flatten = ls := by
  have found := pieces_flatten h []
  rw [List.append_nil] at found
  exact found.trans (List.append_nil ls)

theorem pieces_line {line : List α} (h : Line ends line) : pieces ends line = [line] := by
  have found := pieces_cons h []
  rwa [List.append_nil] at found

/-- What has no end is one piece. -/
theorem pieces_open {xs : List α} (h : ∀ x ∈ xs, ends x = false) (ne : xs ≠ []) :
    pieces ends xs = [xs] := by
  rw [pieces, foldl_cut_open h]
  simp [ne]

theorem chomp_line [DecidableEq α] {lf cr : α} {body : List α} (h : cr ∉ body) :
    chomp lf cr (body ++ [lf]) = body := by
  rw [chomp, List.reverse_append]
  simp only [List.reverse_singleton, List.singleton_append, ne_eq, not_true_eq_false,
    ↓reduceIte]
  cases shown : body.reverse with
  | nil => exact (List.reverse_eq_nil_iff.mp shown).symm
  | cons y ys =>
    have mem : y ∈ body := List.mem_reverse.mp (shown ▸ List.mem_cons_self)
    have ne : y ≠ cr := fun eq => h (eq ▸ mem)
    simp only [ne, ↓reduceIte]
    rw [← shown, List.reverse_reverse]

/-- A line of a text that holds no end of its own. -/
theorem lines_cons {line : List Char} (h : ∀ c ∈ line, c ≠ '\n' ∧ c ≠ '\r') (rest : List Char) :
    lines (String.ofList (line ++ '\n' :: rest)) =
      String.ofList line :: lines (String.ofList rest) := by
  have closed : Line (· == '\n') (line ++ ['\n']) :=
    ⟨line, '\n', rfl, fun c mem => beq_eq_false_iff_ne.mpr (h c mem).1, rfl⟩
  have body : chomp '\n' '\r' (line ++ ['\n']) = line :=
    chomp_line fun mem => (h _ mem).2 rfl
  rw [lines, String.toList_ofList, List.append_cons, pieces_cons closed, List.map_cons, body,
    lines, String.toList_ofList]

/-! ## Printed lines -/

/-- The text of some lines, each with its end. -/
def printed (ls : List String) : String := String.join (ls.map (· ++ "\n"))

theorem printed_cons (l : String) (ls : List String) :
    printed (l :: ls) = l ++ "\n" ++ printed ls := by
  simp [printed]

theorem toList_printed (ls : List String) :
    (printed ls).toList = (ls.map fun l => l.toList ++ ['\n']).flatten := by
  induction ls with
  | nil => simp [printed]
  | cons l ls ih =>
    simp [printed_cons, ih]

/-- Each line of a text loses its line feed and one carriage return before it. -/
theorem lines_printed {ls : List String} (whole : ∀ l ∈ ls, '\n' ∉ l.toList) :
    lines (printed ls) =
      ls.map fun l => String.ofList (chomp '\n' '\r' (l.toList ++ ['\n'])) := by
  have each : ∀ l ∈ ls.map fun l => l.toList ++ ['\n'], Line (· == '\n') l := by
    intro l mem
    obtain ⟨body, listed, rfl⟩ := List.mem_map.mp mem
    refine ⟨body.toList, '\n', rfl, fun c inside => ?_, rfl⟩
    exact beq_eq_false_iff_ne.mpr fun feed => whole body listed (feed ▸ inside)
  rw [lines, toList_printed, pieces_lines each, List.map_map]
  rfl

/-- What is cut off at the end of a line, wherever it stands there. -/
def endsLine (c : Char) : Bool := c == '\n' || c == '\r'

/-- A line without the line feeds and carriage returns at its end. -/
def bare (l : String) : String := String.ofList (l.toList.rdropWhile endsLine)

theorem chomp_reverse (back : List Char) :
    chomp '\n' '\r' (back.reverse ++ ['\n']) =
      (if back.head? = some '\r' then back.tail else back).reverse := by
  cases back with
  | nil => simp [chomp]
  | cons c back => by_cases returns : c = '\r' <;> simp [chomp, returns]

/-- Only one carriage return belongs to the end of a line. So cutting off all of them makes a
difference exactly if there are two. -/
theorem chomp_eq_rdropWhile_iff {line : List Char} (whole : '\n' ∉ line) :
    chomp '\n' '\r' (line ++ ['\n']) = line.rdropWhile endsLine ↔
      ¬ ['\r', '\r'] <:+ line := by
  have stays (c : Char) (mem : c ∈ line) (other : c ≠ '\r') : endsLine c = false := by
    have feed : c ≠ '\n' := fun eq => whole (eq ▸ mem)
    simp [endsLine, feed, other]
  have ends : endsLine '\r' = true := rfl
  obtain ⟨back, rfl⟩ : ∃ back, line = back.reverse := ⟨line.reverse, line.reverse_reverse.symm⟩
  have two : ['\r', '\r'] <:+ back.reverse ↔ ['\r', '\r'] <+: back :=
    @List.reverse_suffix Char ['\r', '\r'] back
  rw [chomp_reverse, List.rdropWhile_reverse, List.reverse_inj, two]
  rcases back with _ | ⟨c, _ | ⟨d, front⟩⟩
  · simp
  · by_cases returns : c = '\r'
    · simp [returns, ends]
    · simp [returns, stays c (by simp) returns]
  · by_cases returns : c = '\r'
    · by_cases again : d = '\r'
      · have shorter := (List.dropWhile_suffix endsLine (l := front)).length_le
        have longer : '\r' :: front ≠ front.dropWhile endsLine := by
          intro same
          rw [← same, List.length_cons] at shorter
          omega
        simp [returns, again, ends, longer]
      · simp [returns, ends, Ne.symm again, stays d (by simp) again]
    · simp [returns, Ne.symm returns, stays c (by simp) returns]

end RobotTurn.Text
