import Mathlib.Data.List.Induction
import RobotTurn.Dict

/-! Tables that are filled entry by entry. The last value of a key is found (`find?_ofList`), and
the order does not matter if no key is put in twice (`ofList_of_perm`). -/
namespace RobotTurn.Dict

variable {α β γ : Type}

theorem mem_keys_iff (d : Dict α) (key : String) : key ∈ d.keys ↔ (d.find? key).isSome := by
  rw [find?, List.lookup_isSome_iff]
  simp [keys, beq_iff_eq]

theorem isEmpty_insert (d : Dict α) (key : String) (value : α) :
    (d.insert key value).isEmpty = false := by
  have found : key ∈ (d.insert key value).keys := by simp [mem_keys_iff]
  rw [isEmpty, List.isEmpty_eq_false_iff_exists_mem]
  obtain ⟨e, mem, -⟩ := List.mem_map.mp found
  exact ⟨e, mem⟩

theorem ofList_append_singleton (es : List (String × α)) (e : String × α) :
    ofList (es ++ [e]) = (ofList es).insert e.1 e.2 := by
  simp [ofList, List.foldl_append]

theorem isEmpty_ofList (es : List (String × α)) : (ofList es).isEmpty = es.isEmpty := by
  rcases List.eq_nil_or_concat es with rfl | ⟨es, e, rfl⟩
  · rfl
  · rw [List.concat_eq_append, ofList_append_singleton, isEmpty_insert]
    simp

/-- Where each step writes a value or leaves what is there, the last value written stays. -/
theorem foldl_last (step : γ → β → γ) (look : γ → Option α) (write : β → Option α) {xs : List β}
    (h : ∀ c, ∀ x ∈ xs, look (step c x) = (write x).or (look c)) (c : γ) :
    look (xs.foldl step c) = (xs.reverse.findSome? write).or (look c) := by
  induction xs generalizing c with
  | nil => rfl
  | cons x xs ih =>
    rw [List.foldl_cons, ih (fun c y hy => h c y (List.mem_cons_of_mem _ hy)),
      h c x List.mem_cons_self, List.reverse_cons, List.findSome?_append, Option.or_assoc]
    simp

/-- Where each step adds a part, all parts stand one after the other. -/
theorem foldl_gather {step : γ → β → γ} (look : γ → List α) {part : β → List α}
    (h : ∀ c x, look (step c x) = look c ++ part x) (c : γ) (xs : List β) :
    look (xs.foldl step c) = look c ++ xs.flatMap part := by
  induction xs generalizing c with
  | nil => simp
  | cons x xs ih => rw [List.foldl_cons, ih, h, List.flatMap_cons, List.append_assoc]

theorem findSome?_ite {p : β → Prop} [DecidablePred p] {f : β → Option α} {xs : List β}
    (h : ∀ x ∈ xs, (f x).isSome) :
    xs.findSome? (fun x => if p x then f x else none) = (xs.find? p).bind f := by
  induction xs with
  | nil => rfl
  | cons x xs ih =>
    have later := ih fun y hy => h y (List.mem_cons_of_mem _ hy)
    obtain ⟨a, written⟩ := Option.isSome_iff_exists.mp (h x List.mem_cons_self)
    by_cases here : p x
    · simp [here, written]
    · simp [here, later]

/-- The last value of a key is the one found. -/
theorem find?_ofList (es : List (String × α)) (key : String) :
    (ofList es).find? key = (es.findRev? (·.1 = key)).map (·.2) := by
  have insert (d : Dict α) (e : String × α) : (d.insert e.1 e.2).find? key =
      (if e.1 = key then some e.2 else none).or (d.find? key) := by
    by_cases here : e.1 = key
    · simp [here]
    · simp [here, Ne.symm here]
  have last := foldl_last (fun (d : Dict α) e => d.insert e.1 e.2) (·.find? key)
    (fun e => if e.1 = key then some e.2 else none) (fun d e (_ : e ∈ es) => insert d e) ∅
  rw [findSome?_ite fun _ _ => rfl] at last
  simpa [ofList, Option.map_eq_bind, Function.comp_def] using last

theorem mem_of_mem_ofList {es : List (String × α)} {e : String × α}
    (mem : e ∈ (ofList es).entries) : e ∈ es := by
  induction es using List.reverseRecOn with
  | nil => cases mem
  | append_singleton es x ih =>
    rw [ofList_append_singleton] at mem
    rcases mem_place mem with rfl | before
    · exact List.mem_append_right _ List.mem_cons_self
    · exact List.mem_append_left _ (ih before)

/-! ## The order of insertion -/

theorem place_perm {key : String} (value : α) {es : List (String × α)}
    (fresh : ∀ e ∈ es, e.1 ≠ key) : (place key value es).Perm ((key, value) :: es) := by
  induction es with
  | nil => exact .refl _
  | cons e es ih =>
    have later := ih fun x hx => fresh x (List.mem_cons_of_mem _ hx)
    rw [place]
    split
    · exact .refl _
    · rw [if_neg (fresh e List.mem_cons_self).symm]
      exact (later.cons e).trans (.swap _ _ _)

theorem foldl_insert_perm (d : Dict α) (es : List (String × α))
    (distinct : (d.entries ++ es).Pairwise (·.1 ≠ ·.1)) :
    (es.foldl (fun d e => d.insert e.1 e.2) d).entries.Perm (d.entries ++ es) := by
  induction es generalizing d with
  | nil => rw [List.append_nil, List.foldl_nil]
  | cons e es ih =>
    have fresh : ∀ x ∈ d.entries, x.1 ≠ e.1 := fun x hx =>
      (List.pairwise_append.mp distinct).2.2 x hx e List.mem_cons_self
    have placed : (d.insert e.1 e.2).entries.Perm (e :: d.entries) := place_perm e.2 fresh
    have moved : ((d.insert e.1 e.2).entries ++ es).Perm (d.entries ++ e :: es) :=
      (placed.append_right es).trans List.perm_middle.symm
    exact (ih _ (moved.symm.pairwise distinct Ne.symm)).trans moved

/-- Two tables with the same entries are the same, as both are sorted. -/
theorem eq_of_perm {d e : Dict α} (same : d.entries.Perm e.entries) : d = e :=
  ext (same.eq_of_pairwise
    (fun _ _ _ _ less greater => absurd greater (String.lt_asymm less)) d.sorted e.sorted)

/-- A table is rebuilt from its entries in any order. -/
theorem ofList_of_perm {d : Dict α} {es : List (String × α)} (same : es.Perm d.entries) :
    ofList es = d := by
  have distinct : d.entries.Pairwise (·.1 ≠ ·.1) := d.sorted.imp Std.ne_of_lt
  refine eq_of_perm ((foldl_insert_perm ∅ es ?_).trans same)
  exact same.symm.pairwise distinct Ne.symm

end RobotTurn.Dict
