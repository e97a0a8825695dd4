/-! Tables keyed by text, in the order of their keys, with each key at most once.
* `find?_insert`, `find?_erase`: an insertion changes exactly the value at its key, and so does
  an erasure.
* `ofList_entries`: a table is rebuilt from its own entries. -/
namespace RobotTurn

variable {α : Type}

structure Dict (α : Type) where
  entries : List (String × α)
  sorted : entries.Pairwise (·.1 < ·.1)

namespace Dict

def empty : Dict α := ⟨[], .nil⟩

instance : EmptyCollection (Dict α) := ⟨empty⟩
instance : Inhabited (Dict α) := ⟨∅⟩

@[ext] theorem ext {d e : Dict α} (h : d.entries = e.entries) : d = e := by
  cases d; cases e; cases h; rfl

instance [DecidableEq α] : DecidableEq (Dict α) := fun d e =>
  decidable_of_iff (d.entries = e.entries) ⟨ext, fun h => h ▸ rfl⟩

def keys (d : Dict α) : List String := d.entries.map (·.1)

def isEmpty (d : Dict α) : Bool := d.entries.isEmpty

def find? (d : Dict α) (key : String) : Option α :=
  d.entries.lookup key

/-- Puts a value in the place of its key, over an older one if there is one. -/
def place (key : String) (value : α) : List (String × α) → List (String × α)
  | [] => [(key, value)]
  | e :: es =>
    if key < e.1 then (key, value) :: e :: es
    else if key = e.1 then (key, value) :: es
    else e :: place key value es

theorem mem_place {key : String} {value : α} {e : String × α} {es : List (String × α)}
    (h : e ∈ place key value es) : e = (key, value) ∨ e ∈ es := by
  induction es with
  | nil => simpa [place] using h
  | cons x xs ih =>
    simp only [place] at h
    split at h
    · simpa using h
    · split at h
      · rcases List.mem_cons.mp h with h | h
        · exact .inl h
        · exact .inr (List.mem_cons_of_mem _ h)
      · rcases List.mem_cons.mp h with h | h
        · exact .inr (h ▸ List.mem_cons_self)
        · exact (ih h).imp id (List.mem_cons_of_mem _)

theorem place_sorted {key : String} {value : α} {es : List (String × α)}
    (h : es.Pairwise (·.1 < ·.1)) : (place key value es).Pairwise (·.1 < ·.1) := by
  induction es with
  | nil => simp [place]
  | cons x xs ih =>
    obtain ⟨hx, hxs⟩ := List.pairwise_cons.mp h
    simp only [place]
    split
    · rename_i lt
      refine List.pairwise_cons.mpr ⟨fun e he => ?_, h⟩
      rcases List.mem_cons.mp he with rfl | he
      · exact lt
      · exact String.lt_trans lt (hx e he)
    · rename_i nlt
      split
      · rename_i eq
        exact List.pairwise_cons.mpr ⟨fun e he => by simpa [eq] using hx e he, hxs⟩
      · rename_i ne
        refine List.pairwise_cons.mpr ⟨fun e he => ?_, ih hxs⟩
        rcases mem_place he with rfl | he
        · exact Std.lt_of_le_of_ne nlt (Ne.symm ne)
        · exact hx e he

def insert (d : Dict α) (key : String) (value : α) : Dict α :=
  ⟨place key value d.entries, place_sorted d.sorted⟩

def erase (d : Dict α) (key : String) : Dict α :=
  ⟨d.entries.filter (·.1 ≠ key), d.sorted.filter _⟩

/-- The table of a list of entries; the last value of a key stays. -/
def ofList (es : List (String × α)) : Dict α :=
  es.foldl (fun d e => d.insert e.1 e.2) ∅

theorem lookup_cons_if (key : String) (e : String × α) (es : List (String × α)) :
    (e :: es).lookup key = if key = e.1 then some e.2 else es.lookup key := by
  rw [List.lookup_cons]
  split <;> simp_all

theorem lookup_place (key other : String) (value : α) (es : List (String × α)) :
    (place key value es).lookup other = if other = key then some value else es.lookup other := by
  induction es with
  | nil => rw [place, lookup_cons_if]
  | cons x xs ih =>
    simp only [place]
    split
    · rw [lookup_cons_if]
    · split
      · rename_i eq
        simp only [lookup_cons_if, eq]
        split <;> rfl
      · rename_i ne
        simp only [lookup_cons_if, ih]
        by_cases eq : other = x.1
        · simp [eq, Ne.symm ne]
        · simp [eq]

@[simp] theorem find?_insert (d : Dict α) (key other : String) (value : α) :
    (d.insert key value).find? other = if other = key then some value else d.find? other :=
  lookup_place key other value d.entries

theorem lookup_filter (key other : String) (es : List (String × α)) :
    (es.filter (·.1 ≠ key)).lookup other = if other = key then none else es.lookup other := by
  induction es with
  | nil => simp
  | cons x xs ih =>
    rw [List.filter_cons]
    split
    · rename_i ne
      rw [lookup_cons_if, lookup_cons_if, ih]
      by_cases eq : other = x.1
      · simp_all
      · simp [eq]
    · rename_i eq
      rw [lookup_cons_if, ih]
      by_cases h : other = key <;> simp_all

@[simp] theorem find?_erase (d : Dict α) (key other : String) :
    (d.erase key).find? other = if other = key then none else d.find? other :=
  lookup_filter key other d.entries

@[simp] theorem find?_empty (key : String) : (∅ : Dict α).find? key = none := rfl

theorem place_after (es : List (String × α)) (key : String) (value : α)
    (h : ∀ e ∈ es, e.1 < key) : place key value es = es ++ [(key, value)] := by
  induction es with
  | nil => rfl
  | cons x xs ih =>
    have lt := h x List.mem_cons_self
    have ne : key ≠ x.1 := fun eq => String.lt_irrefl key (by rw [eq] at lt ⊢; exact lt)
    simp [place, String.lt_asymm lt, ne, ih fun e he => h e (List.mem_cons_of_mem _ he)]

theorem foldl_insert (d : Dict α) (es : List (String × α))
    (h : (d.entries ++ es).Pairwise (·.1 < ·.1)) :
    (es.foldl (fun d e => d.insert e.1 e.2) d).entries = d.entries ++ es := by
  induction es generalizing d with
  | nil => simp
  | cons e es ih =>
    have before : ∀ x ∈ d.entries, x.1 < e.1 := fun x hx =>
      (List.pairwise_append.mp h).2.2 x hx e List.mem_cons_self
    have placed : (d.insert e.1 e.2).entries = d.entries ++ [e] :=
      place_after d.entries e.1 e.2 before
    rw [List.foldl_cons, ih]
    · rw [placed, List.append_assoc, List.singleton_append]
    · rwa [placed, List.append_assoc, List.singleton_append]

theorem ofList_entries (d : Dict α) : ofList d.entries = d :=
  ext (foldl_insert ∅ d.entries d.sorted)

end Dict
end RobotTurn
