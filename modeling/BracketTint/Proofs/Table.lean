import Mathlib.Data.List.Nodup
import BracketTint.Table

/-!
# Tables from Lists

`Table.insertAll`, `Table.ofList` and `Table.eraseAll` go through a list one entry at a time, and
of two entries with one key the later stays. Where the keys of the list are distinct the order of
the entries no longer matters, and a look-up is membership:

* `Table.get?_insertAll_eq_some_iff` — an entry of the list, or an entry of the table whose key
  the list does not have;
* `Table.get?_ofList_eq_some_iff` — an entry of the list;
* `Table.get?_eraseAll` — what the table had, apart from the keys taken out.

`Table.entries_perm` is the converse: a table lists exactly the entries it was built from.
-/

namespace BracketTint.Table

variable {κ α : Type} [Ord κ] [Std.TransOrd κ] [Std.LawfulEqOrd κ]

/-- **Look-up after putting in entries** with distinct keys: an entry is one of them, or it was
there before under a key that they do not have. -/
theorem get?_insertAll_eq_some_iff [DecidableEq κ] (t : Table κ α) {entries : List (κ × α)}
    (h : (entries.map Prod.fst).Nodup) (key : κ) (value : α) :
    (t.insertAll entries).get? key = some value ↔
      (key, value) ∈ entries ∨ key ∉ entries.map Prod.fst ∧ t.get? key = some value := by
  induction entries generalizing t with
  | nil => simp [insertAll]
  | cons e rest ih =>
      obtain ⟨hfresh, hrest⟩ := List.nodup_cons.1 h
      change ((t.insert e.1 e.2).insertAll rest).get? key = some value ↔ _
      rw [ih _ hrest, get?_insert]
      by_cases hkey : key = e.1
      · subst hkey
        have hnot : (e.1, value) ∉ rest := fun hmem => hfresh (List.mem_map.2 ⟨_, hmem, rfl⟩)
        simp only [hnot, hfresh, List.map_cons, List.mem_cons, not_true_eq_false, false_and,
          or_false, false_or, not_false_eq_true, true_and, if_true, Option.some.injEq]
        constructor
        · rintro rfl
          rfl
        · intro heq
          rw [← heq]
      · have hne : (key, value) ≠ e := fun heq => hkey (congrArg Prod.fst heq)
        simp [hkey, hne]

/-- **Look-up in the table of a list** with distinct keys is membership in the list. -/
theorem get?_ofList_eq_some_iff [DecidableEq κ] {entries : List (κ × α)}
    (h : (entries.map Prod.fst).Nodup) (key : κ) (value : α) :
    (ofList entries).get? key = some value ↔ (key, value) ∈ entries := by
  rw [ofList, get?_insertAll_eq_some_iff _ h]
  simp

omit [Std.TransOrd κ] in
/-- **Look-up after taking out keys**: they have no value, and all others have what they had. -/
theorem get?_eraseAll [DecidableEq κ] (t : Table κ α) (keys : List κ) (key : κ) :
    (t.eraseAll keys).get? key = if key ∈ keys then none else t.get? key := by
  induction keys generalizing t with
  | nil => simp [eraseAll]
  | cons k rest ih =>
      change ((t.erase k).eraseAll rest).get? key = _
      rw [ih, get?_erase]
      by_cases hrest : key ∈ rest
      · simp [hrest]
      · by_cases hk : key = k <;> simp [hrest, hk]

/-- An entry stands in a table exactly if it is found there. -/
theorem mem_entries_iff (t : Table κ α) (key : κ) (value : α) :
    (key, value) ∈ t.entries ↔ t.get? key = some value :=
  ⟨fun h => t.get?_eq_of_mem h, fun h => t.mem_of_get? h⟩

omit [Std.TransOrd κ] in
/-- The keys of a table are distinct. -/
theorem nodup_keys (t : Table κ α) : (t.entries.map Prod.fst).Nodup := by
  refine List.pairwise_map.2 (t.ascending.imp ?_)
  intro a b hlt heq
  simp [heq] at hlt

/-- A key is one of those of a table exactly if it has a value there. -/
theorem mem_keys_iff (t : Table κ α) (key : κ) :
    key ∈ t.keys ↔ ∃ value, t.get? key = some value := by
  simp only [keys, List.mem_map, ← mem_entries_iff]
  constructor
  · rintro ⟨e, he, rfl⟩
    exact ⟨e.2, he⟩
  · rintro ⟨value, h⟩
    exact ⟨(key, value), h, rfl⟩

theorem get?_of_notMem_keys {t : Table κ α} {key : κ} (h : key ∉ t.keys) :
    t.get? key = none := by
  cases hvalue : t.get? key with
  | none => rfl
  | some value => exact absurd ((mem_keys_iff t key).2 ⟨value, hvalue⟩) h

/-- A table whose look-ups are membership in a list with distinct keys lists exactly the entries
of that list. -/
theorem entries_perm {t : Table κ α} {entries : List (κ × α)} (h : (entries.map Prod.fst).Nodup)
    (hget : ∀ key value, t.get? key = some value ↔ (key, value) ∈ entries) :
    t.entries.Perm entries := by
  refine (List.perm_ext_iff_of_nodup (t.nodup_keys.of_map _) (h.of_map _)).2 ?_
  rintro ⟨key, value⟩
  rw [mem_entries_iff, hget]

/-- A table is the table of a list with distinct keys if its look-ups are membership in it. -/
theorem eq_ofList [DecidableEq κ] {t : Table κ α} {entries : List (κ × α)}
    (h : (entries.map Prod.fst).Nodup)
    (hget : ∀ key value, t.get? key = some value ↔ (key, value) ∈ entries) :
    t = ofList entries := by
  refine ext_get? fun key => Option.ext fun value => ?_
  rw [hget, get?_ofList_eq_some_iff h]

end BracketTint.Table
