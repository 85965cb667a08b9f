/-!
# Finite Tables

A `Table` is a finite map, held as the list of its entries in ascending key order. The order is part
of the type, which has two uses. Everything that lists a table lists it in one order, and a table is
determined by its look-ups (`Table.ext_get?`), so equality of tables is equality of maps.

The laws are `get?_insert`, `get?_erase` and `ext_get?`.
-/

namespace BracketTint

/-- A finite map from `κ` to `α`: its entries, by strictly ascending keys. -/
structure Table (κ α : Type) [Ord κ] where
  /-- The entries in ascending key order. -/
  entries : List (κ × α)
  /-- Each key is below the keys after it. -/
  ascending : entries.Pairwise fun a b => compare a.1 b.1 = .lt

namespace Table

variable {κ α : Type} [Ord κ]

instance [DecidableEq κ] [DecidableEq α] : DecidableEq (Table κ α) := fun s t =>
  decidable_of_iff (s.entries = t.entries) <| by
    cases s; cases t; simp

/-- The table without entries. -/
def empty : Table κ α := ⟨[], .nil⟩

instance : EmptyCollection (Table κ α) := ⟨empty⟩

instance : Inhabited (Table κ α) := ⟨empty⟩

/-- The value at a key. -/
def get? (t : Table κ α) (key : κ) : Option α :=
  (t.entries.find? fun e => compare key e.1 == .eq).map (·.2)

/-- Whether a key has a value. -/
def contains (t : Table κ α) (key : κ) : Bool := (t.get? key).isSome

/-- The keys, ascending. -/
def keys (t : Table κ α) : List κ := t.entries.map (·.1)

/-- The number of keys. -/
def size (t : Table κ α) : Nat := t.entries.length

/-- Puts an entry in its place in an ascending list, over an entry with the same key. -/
def insertEntry (key : κ) (value : α) : List (κ × α) → List (κ × α)
  | [] => [(key, value)]
  | e :: rest =>
    match compare key e.1 with
    | .lt => (key, value) :: e :: rest
    | .eq => (key, value) :: rest
    | .gt => e :: insertEntry key value rest

/-- The keys after an insertion are the old ones and the new one. -/
theorem mem_insertEntry {key : κ} {value : α} {l : List (κ × α)} {e : κ × α}
    (h : e ∈ insertEntry key value l) : e = (key, value) ∨ e ∈ l := by
  induction l with
  | nil => simpa [insertEntry] using h
  | cons d rest ih =>
    simp only [insertEntry] at h
    split at h
    · simpa using h
    · rcases List.mem_cons.1 h with h | h
      · exact .inl h
      · exact .inr (List.mem_cons_of_mem _ h)
    · rcases List.mem_cons.1 h with h | h
      · exact .inr (h ▸ List.mem_cons_self)
      · exact (ih h).imp_right (List.mem_cons_of_mem _)

variable [Std.TransOrd κ] [Std.LawfulEqOrd κ]

/-- An insertion keeps the order. -/
theorem ascending_insertEntry (key : κ) (value : α) (l : List (κ × α))
    (h : l.Pairwise fun a b => compare a.1 b.1 = .lt) :
    (insertEntry key value l).Pairwise fun a b => compare a.1 b.1 = .lt := by
  induction l with
  | nil => simp [insertEntry]
  | cons d rest ih =>
    obtain ⟨hd, hrest⟩ := List.pairwise_cons.1 h
    simp only [insertEntry]
    split
    next hlt =>
      refine List.pairwise_cons.2 ⟨fun e he => ?_, h⟩
      rcases List.mem_cons.1 he with rfl | he
      · exact hlt
      · exact Std.TransCmp.lt_trans hlt (hd e he)
    next heq =>
      have hkey : key = d.1 := Std.LawfulEqCmp.eq_of_compare heq
      exact List.pairwise_cons.2 ⟨fun e he => hkey ▸ hd e he, hrest⟩
    next hgt =>
      refine List.pairwise_cons.2 ⟨fun e he => ?_, ih hrest⟩
      rcases mem_insertEntry he with rfl | he
      · exact Std.OrientedCmp.gt_iff_lt.1 hgt
      · exact hd e he

/-- Gives a key a value, over any value that it had. -/
def insert (t : Table κ α) (key : κ) (value : α) : Table κ α :=
  ⟨insertEntry key value t.entries, ascending_insertEntry key value t.entries t.ascending⟩

omit [Std.TransOrd κ] [Std.LawfulEqOrd κ] in
/-- Takes a key out. -/
def erase (t : Table κ α) (key : κ) : Table κ α :=
  ⟨t.entries.filter fun e => compare key e.1 != .eq, t.ascending.filter _⟩

/-- Gives keys values one after another; of two values for one key the later stays. -/
def insertAll (t : Table κ α) (entries : List (κ × α)) : Table κ α :=
  entries.foldl (fun t e => t.insert e.1 e.2) t

/-- The table of a list of entries; of two values for one key the later stays. -/
def ofList (entries : List (κ × α)) : Table κ α := (empty : Table κ α).insertAll entries

omit [Std.TransOrd κ] [Std.LawfulEqOrd κ] in
/-- Takes keys out. -/
def eraseAll (t : Table κ α) (keys : List κ) : Table κ α := keys.foldl erase t

/-! ### Look-ups -/

omit [Std.TransOrd κ] [Std.LawfulEqOrd κ] in
@[simp] theorem get?_empty (key : κ) : (empty : Table κ α).get? key = none := rfl

omit [Std.TransOrd κ] in
/-- Look-up in a list of entries after an insertion. -/
theorem find?_insertEntry [DecidableEq κ] (key k : κ) (value : α) (l : List (κ × α)) :
    ((insertEntry key value l).find? fun e => compare k e.1 == .eq).map (·.2) =
      if k = key then some value else (l.find? fun e => compare k e.1 == .eq).map (·.2) := by
  induction l with
  | nil => by_cases h : k = key <;> simp [insertEntry, h]
  | cons d rest ih =>
    simp only [insertEntry]
    split
    next => by_cases h : k = key <;> simp [List.find?_cons, h]
    next heq =>
      have hkey : key = d.1 := Std.LawfulEqCmp.eq_of_compare heq
      by_cases h : k = key <;> simp [h, ← hkey]
    next hgt =>
      by_cases hd : k = d.1
      · have hne : k ≠ key := by rintro rfl; simp [hd] at hgt
        have hfound : (compare k d.1 == .eq) = true := by simp [hd]
        simp [hne, hfound]
      · simpa [List.find?_cons, hd] using ih

/-- After an insertion the new key has the new value, and all other keys have what they had. -/
theorem get?_insert [DecidableEq κ] (t : Table κ α) (key k : κ) (value : α) :
    (t.insert key value).get? k = if k = key then some value else t.get? k :=
  find?_insertEntry key k value t.entries

omit [Std.TransOrd κ] in
/-- After a removal the key has no value, and all other keys have what they had. -/
theorem get?_erase [DecidableEq κ] (t : Table κ α) (key k : κ) :
    (t.erase key).get? k = if k = key then none else t.get? k := by
  simp only [get?, erase, List.find?_filter]
  by_cases h : k = key
  · subst h
    simp
  · simp only [h, if_false]
    congr 2
    funext e
    by_cases hk : k = e.1
    · have hne : key ≠ e.1 := fun hkey => h (hk.trans hkey.symm)
      simp [hk, hne]
    · simp [hk]

/-- An entry is found under its key. -/
theorem get?_eq_of_mem (t : Table κ α) {e : κ × α} (h : e ∈ t.entries) :
    t.get? e.1 = some e.2 := by
  obtain ⟨entries, ascending⟩ := t
  simp only [get?]
  induction entries with
  | nil => exact absurd h List.not_mem_nil
  | cons d rest ih =>
    obtain ⟨hd, hrest⟩ := List.pairwise_cons.1 ascending
    rcases List.mem_cons.1 h with rfl | h
    · simp
    · have hgt : compare e.1 d.1 = .gt := Std.OrientedCmp.gt_iff_lt.2 (hd e h)
      simp only [List.find?_cons, hgt]
      exact ih hrest h

omit [Std.TransOrd κ] in
/-- What is found under a key stands in the table. -/
theorem mem_of_get? (t : Table κ α) {key : κ} {value : α} (h : t.get? key = some value) :
    (key, value) ∈ t.entries := by
  simp only [get?, Option.map_eq_some_iff] at h
  obtain ⟨e, he, rfl⟩ := h
  have hkey : key = e.1 := by simpa using List.find?_some he
  exact hkey ▸ List.mem_of_find?_eq_some he

/-- Tables with the same look-ups are equal. -/
theorem ext_get? {s t : Table κ α} (h : ∀ key, s.get? key = t.get? key) : s = t := by
  have hmem (e : κ × α) : e ∈ s.entries ↔ e ∈ t.entries :=
    ⟨fun he => t.mem_of_get? ((h e.1).symm.trans (s.get?_eq_of_mem he)),
      fun he => s.mem_of_get? ((h e.1).trans (t.get?_eq_of_mem he))⟩
  obtain ⟨xs, hx⟩ := s
  obtain ⟨ys, hy⟩ := t
  simp only [Table.mk.injEq]
  clear h
  simp only at hmem
  induction xs generalizing ys with
  | nil => cases ys with
    | nil => rfl
    | cons y _ => exact absurd ((hmem y).2 List.mem_cons_self) List.not_mem_nil
  | cons x xs ih =>
    cases ys with
    | nil => exact absurd ((hmem x).1 List.mem_cons_self) List.not_mem_nil
    | cons y ys =>
      obtain ⟨hx1, hx2⟩ := List.pairwise_cons.1 hx
      obtain ⟨hy1, hy2⟩ := List.pairwise_cons.1 hy
      have hxy : x = y := by
        rcases List.mem_cons.1 ((hmem x).1 List.mem_cons_self) with hx' | hx'
        · exact hx'
        · rcases List.mem_cons.1 ((hmem y).2 List.mem_cons_self) with hy' | hy'
          · exact hy'.symm
          · have h1 := hx1 y hy'
            have h2 := hy1 x hx'
            rw [Std.OrientedCmp.gt_iff_lt.2 h1] at h2
            exact absurd h2 (by decide)
      subst hxy
      have irrefl {e : κ × α} (he : compare e.1 e.1 = .lt) : False := by simp at he
      have hrest (e : κ × α) : e ∈ xs ↔ e ∈ ys := by
        constructor
        · intro he
          rcases List.mem_cons.1 ((hmem e).1 (List.mem_cons_of_mem _ he)) with rfl | he'
          · exact (irrefl (hx1 e he)).elim
          · exact he'
        · intro he
          rcases List.mem_cons.1 ((hmem e).2 (List.mem_cons_of_mem _ he)) with rfl | he'
          · exact (irrefl (hy1 e he)).elim
          · exact he'
      rw [ih hx2 ys hy2 hrest]

end Table

end BracketTint
