import RobotTurn.Proofs.Json.Number

/-! Options, lists and pairs are read as they were written, if what stands in them is. A reader
tells them apart by the first octet of a document (`render_eq_cons`). -/
namespace RobotTurn.Json

open Reader

variable {α β : Type}

/-! ## The first octet -/

/-- A document begins with an octet that is neither blank nor the end of a list; only `null`
begins like `null`. -/
theorem render_eq_cons (v : Json) : ∃ b bs, v.render = b :: bs ∧ Octet.isSpace b = false ∧
    b ≠ Octet.closeList ∧ (v ≠ .null → b ≠ 0x6E) := by
  cases v with
  | null => exact ⟨0x6E, _, rfl, by decide, by decide, fun ne => absurd rfl ne⟩
  | bool b =>
    cases b
    · exact ⟨0x66, _, rfl, by decide, by decide, fun _ => by decide⟩
    · exact ⟨0x74, _, rfl, by decide, by decide, fun _ => by decide⟩
  | int n =>
    rcases Int.lt_or_le n 0 with neg | pos
    · obtain ⟨k, hk⟩ := Int.eq_ofNat_of_zero_le (show 0 ≤ -n by omega)
      obtain rfl : n = -(k : Int) := by omega
      exact ⟨Octet.minus, _, render_negative (by omega), by decide, by decide,
        fun _ => by decide⟩
    · obtain ⟨k, rfl⟩ := Int.eq_ofNat_of_zero_le pos
      obtain ⟨b, bs, eq, digit⟩ := encode_nat_eq_cons k
      exact ⟨b, bs, (render_natCast k).trans eq, isSpace_of_isDigit digit,
        ne_of_isDigit digit (by decide), fun _ => ne_of_isDigit digit (by decide)⟩
  | text s =>
    exact ⟨Octet.quote, _, by rw [render, renderText]; rfl, by decide, by decide,
      fun _ => by decide⟩
  | list vs =>
    exact ⟨Octet.openList, _, by rw [render]; rfl, by decide, by decide, fun _ => by decide⟩
  | object ms =>
    exact ⟨Octet.openObject, _, by rw [render]; rfl, by decide, by decide, fun _ => by decide⟩

theorem peek_render (v : Json) (rest : List UInt8) : ∃ b, Octet.isSpace b = false ∧
    b ≠ Octet.closeList ∧ (v ≠ .null → b ≠ 0x6E) ∧
    peek (v.render ++ rest) = .ok (some b, v.render ++ rest) := by
  obtain ⟨b, bs, eq, space, close, null⟩ := render_eq_cons v
  refine ⟨b, space, close, null, ?_⟩
  rw [eq, List.cons_append, peek_cons _ space]

/-! ## Null and options -/

theorem reads_unit : Reads Reader.unit .null () := by
  intro rest _
  rfl

theorem reads_none (r : Reader α) : Reads (Reader.option r) .null none := by
  intro rest _
  rfl

theorem Reads.option {r : Reader α} {v : Json} {a : α} (h : Reads r v a) (ne : v ≠ .null) :
    Reads (Reader.option r) v (some a) := by
  intro rest ends
  obtain ⟨b, space, _, null, peeked⟩ := peek_render v rest
  rw [Reader.option, bind_ok peeked]
  simp only [if_neg (null ne)]
  exact map_ok (h rest ends)

/-! ## Lists -/

/-- The items of a list but the first, each after a comma. -/
def renderMore (vs : List Json) : List UInt8 := vs.flatMap fun v => Octet.comma :: v.render

theorem renderMore_cons (v : Json) (vs : List Json) :
    renderMore (v :: vs) = Octet.comma :: (v.render ++ renderMore vs) := rfl

theorem renderItems_cons (v : Json) (vs : List Json) :
    renderItems (v :: vs) = v.render ++ renderMore vs := by
  induction vs generalizing v with
  | nil => simp [renderItems, renderMore]
  | cons w vs ih => simp [renderItems, ih, renderMore_cons]

theorem length_renderMore (vs : List Json) : vs.length ≤ (renderMore vs).length := by
  induction vs with
  | nil => exact Nat.le_refl 0
  | cons v vs ih =>
    rw [renderMore_cons]
    simp only [List.length_append, List.length_cons]
    omega

theorem render_list_append (vs : List Json) (rest : List UInt8) :
    (Json.list vs).render ++ rest =
      Octet.openList :: (renderItems vs ++ Octet.closeList :: rest) := by
  simp [render]

theorem itemFollows_close (first : Bool) (rest : List UInt8) :
    itemFollows first (Octet.closeList :: rest) = .ok (false, Octet.closeList :: rest) := by
  rw [itemFollows, bind_ok (peek_cons _ (by decide))]
  rfl

theorem itemFollows_first (v : Json) (rest : List UInt8) :
    itemFollows true (v.render ++ rest) = .ok (true, v.render ++ rest) := by
  obtain ⟨b, space, close, _, peeked⟩ := peek_render v rest
  rw [itemFollows, bind_ok peeked]
  simp only [if_neg close]
  rfl

theorem itemFollows_comma (v : Json) (rest : List UInt8) :
    itemFollows false (Octet.comma :: (v.render ++ rest)) = .ok (true, v.render ++ rest) := by
  obtain ⟨b, space, close, _, peeked⟩ := peek_render v rest
  rw [itemFollows, bind_ok (peek_cons _ (by decide))]
  simp only [show Octet.comma ≠ Octet.closeList by decide, ↓reduceIte, Bool.false_eq_true]
  rw [bind_ok (bump_cons _ _), bind_ok peeked]
  simp only [if_neg close]
  rfl

theorem ends_renderMore (vs : List Json) (rest : List UInt8) :
    Ends (renderMore vs ++ Octet.closeList :: rest) := by
  cases vs with
  | nil => exact ends_closeList rest
  | cons v vs => exact ends_comma _

theorem items_renderMore {r : Reader α} {write : α → Json} (as acc : List α) {n : Nat}
    (enough : as.length < n) (h : ∀ a ∈ as, Reads r (write a) a) (rest : List UInt8) :
    items r n false acc (renderMore (as.map write) ++ Octet.closeList :: rest) =
      .ok (acc.reverse ++ as, Octet.closeList :: rest) := by
  induction as generalizing acc n with
  | nil =>
    obtain ⟨n, rfl⟩ := Nat.exists_eq_succ_of_ne_zero (show n ≠ 0 by omega)
    rw [List.map_nil, renderMore, List.flatMap_nil, List.nil_append, items,
      bind_ok (itemFollows_close false rest), List.append_nil]
    rfl
  | cons a as ih =>
    obtain ⟨n, rfl⟩ := Nat.exists_eq_succ_of_ne_zero (show n ≠ 0 by omega)
    have read := h a List.mem_cons_self _ (ends_renderMore (as.map write) rest)
    rw [List.map_cons, renderMore_cons, List.cons_append, List.append_assoc, items,
      bind_ok (itemFollows_comma _ _)]
    simp only [↓reduceIte]
    rw [bind_ok read, ih _ (by simpa using enough) fun x hx => h x (List.mem_cons_of_mem _ hx)]
    simp

theorem enter_ok {opening : UInt8} (expected : String) (rest : List UInt8)
    (space : Octet.isSpace opening = false) :
    enter opening expected (opening :: rest) = .ok ((), rest) := by
  rw [enter, bind_ok (peek_cons _ space)]
  simp only [↓reduceIte]
  rfl

/-- The items of a list; the first one stands without a comma. -/
theorem items_renderItems {r : Reader α} {write : α → Json} {as : List α} {n : Nat}
    (enough : as.length < n) (h : ∀ a ∈ as, Reads r (write a) a) (rest : List UInt8) :
    items r n true [] (renderItems (as.map write) ++ Octet.closeList :: rest) =
      .ok (as, Octet.closeList :: rest) := by
  obtain ⟨n, rfl⟩ := Nat.exists_eq_succ_of_ne_zero (show n ≠ 0 by omega)
  cases as with
  | nil =>
    rw [items, List.map_nil, renderItems, List.nil_append, bind_ok (itemFollows_close true rest)]
    rfl
  | cons a as =>
    have first := h a List.mem_cons_self _ (ends_renderMore (as.map write) rest)
    rw [List.map_cons, renderItems_cons, items, List.append_assoc, bind_ok (itemFollows_first _ _)]
    simp only [↓reduceIte]
    rw [bind_ok first, items_renderMore as [a] (by simpa using enough)
      fun x hx => h x (List.mem_cons_of_mem _ hx)]
    rfl

theorem length_renderItems (vs : List Json) : vs.length ≤ (renderItems vs).length + 1 := by
  cases vs with
  | nil => exact Nat.zero_le _
  | cons v vs =>
    have more := length_renderMore vs
    rw [renderItems_cons]
    simp only [List.length_append, List.length_cons]
    omega

theorem Reads.list {r : Reader α} {write : α → Json} {as : List α}
    (h : ∀ a ∈ as, Reads r (write a) a) :
    Reads (Reader.list r) (.list (as.map write)) as := by
  intro rest _
  have enough := length_renderItems (as.map write)
  rw [List.length_map] at enough
  have read : placing passList (fun bs => items r (bs.length + 1) true [] bs)
      (renderItems (as.map write) ++ Octet.closeList :: rest) =
        .ok (as, Octet.closeList :: rest) :=
    placing_ok _ _ (items_renderItems (by simp; omega) h rest)
  rw [render_list_append, Reader.list, bind_ok (enter_ok _ _ (by decide)), bind_ok read]
  rfl

/-! ## Pairs -/

theorem closeList_ok (rest : List UInt8) :
    closeList (Octet.closeList :: rest) = .ok ((), rest) := by
  rw [closeList, bind_ok (peek_cons _ (by decide))]
  rfl

theorem Reads.pair {r : Reader α} {s : Reader β} {v w : Json} {a : α} {b : β}
    (hr : Reads r v a) (hs : Reads s w b) : Reads (Reader.pair r s) (.list [v, w]) (a, b) := by
  intro rest _
  rw [render_list_append, renderItems_cons, renderMore_cons, Reader.pair,
    bind_ok (enter_ok _ _ (by decide))]
  simp only [renderMore, List.flatMap_nil, List.append_nil, List.append_assoc, List.cons_append]
  rw [bind_ok (placing_ok (a, b) (Octet.closeList :: rest) _),
    bind_ok (closeList_ok rest)]
  · rfl
  · rw [bind_ok (itemFollows_first v _)]
    simp only [↓reduceIte]
    rw [bind_ok (hr _ (ends_comma _)), bind_ok (itemFollows_comma w _)]
    simp only [↓reduceIte]
    rw [bind_ok (hs _ (ends_closeList rest))]
    rfl

end RobotTurn.Json
