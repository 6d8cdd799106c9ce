import Mathlib.Data.List.Nodup
import Rendezvous.Store.Table

/-!
# Rows of a table

Putting, replacing and erasing one row leaves all other rows where they are, so a view of
the table that does not show the row stays the same.
-/

namespace Rendezvous.Table

variable {α : Type} [Keyed α]

open Keyed (key)

theorem nodup_single (row : α) : ([row].map key).Nodup :=
  List.nodup_singleton _

theorem eq_of_key {table : Table α} {a b : α} (insideA : a ∈ table.rows)
    (insideB : b ∈ table.rows) (same : key a = key b) : a = b :=
  List.inj_on_of_nodup_map table.nodup insideA insideB same

theorem get?_eq_some_iff {table : Table α} {name : String} {row : α} :
    table.get? name = some row ↔ row ∈ table.rows ∧ key row = name := by
  constructor
  · exact mem_of_get?
  · rintro ⟨inside, rfl⟩
    cases found : table.get? (key row) with
    | none =>
      have absent := List.find?_eq_none.mp found row inside
      simp at absent
    | some other =>
      obtain ⟨inside', same⟩ := mem_of_get? found
      rw [eq_of_key inside' inside same]

theorem mem_put {table : Table α} {row other : α} :
    other ∈ (table.put row).rows ↔ other = row ∨ other ∈ table.rows ∧ key other ≠ key row := by
  rw [rows_put]
  obtain ⟨rows, nodup⟩ := table
  induction rows with
  | nil => simp [place]
  | cons first rest ih =>
    obtain ⟨absent, nodup'⟩ := List.nodup_cons.mp (List.map_cons ▸ nodup)
    rw [place]
    by_cases same : key first = key row
    · have others : ∀ other ∈ rest, key other ≠ key row := by
        intro other inside equal
        exact absent (same ▸ equal ▸ List.mem_map_of_mem inside)
      rw [if_pos same, List.mem_cons, List.mem_cons]
      constructor
      · rintro (rfl | inside)
        · exact .inl rfl
        · exact .inr ⟨.inr inside, others other inside⟩
      · rintro (rfl | ⟨rfl | inside, other⟩)
        · exact .inl rfl
        · exact absurd same other
        · exact .inr inside
    · rw [if_neg same, List.mem_cons, List.mem_cons, ih nodup']
      constructor
      · rintro (rfl | rfl | ⟨inside, other⟩)
        · exact .inr ⟨.inl rfl, same⟩
        · exact .inl rfl
        · exact .inr ⟨.inr inside, other⟩
      · rintro (rfl | ⟨rfl | inside, other⟩)
        · exact .inr (.inl rfl)
        · exact .inl rfl
        · exact .inr (.inr ⟨inside, other⟩)

/-- A view that shows neither a row nor what it replaces does not change. -/
theorem filter_place {shows : α → Bool} {row : α} {rows : List α} (hidden : shows row = false)
    (replaced : ∀ other ∈ rows, key other = key row → shows other = false) :
    (place row rows).filter shows = rows.filter shows := by
  induction rows with
  | nil => simp [place, hidden]
  | cons first rest ih =>
    have rest' := ih fun other inside => replaced other (List.mem_cons_of_mem _ inside)
    rw [place]
    split
    next same =>
      rw [List.filter_cons_of_neg (by simp [hidden]),
        List.filter_cons_of_neg (by simp [replaced first List.mem_cons_self same])]
    next other => rw [List.filter_cons, List.filter_cons, rest']

/-- A view shows the same where one row takes the place of its like. -/
theorem map_filter_place {β : Type} {shows : α → Bool} {view : α → β} {row : α} {rows : List α}
    (present : ∃ other ∈ rows, key other = key row)
    (alike : ∀ other ∈ rows, key other = key row →
      shows other = shows row ∧ view other = view row) :
    ((place row rows).filter shows).map view = (rows.filter shows).map view := by
  induction rows with
  | nil =>
    obtain ⟨_, inside, -⟩ := present
    cases inside
  | cons first rest ih =>
    rw [place]
    split
    next same =>
      obtain ⟨shows', view'⟩ := alike first List.mem_cons_self same
      rw [List.filter_cons, List.filter_cons, shows']
      split
      · rw [List.map_cons, List.map_cons, view']
      · rfl
    next other =>
      have present' : ∃ other ∈ rest, key other = key row := by
        obtain ⟨row', inside, same⟩ := present
        rcases List.mem_cons.mp inside with rfl | inside
        · exact absurd same other
        · exact ⟨row', inside, same⟩
      have rest' := ih present' fun row' inside => alike row' (List.mem_cons_of_mem _ inside)
      rw [List.filter_cons, List.filter_cons]
      split
      · rw [List.map_cons, List.map_cons, rest']
      · exact rest'

/-- Looking for a row finds the same where one takes the place of its like. -/
theorem find?_place {β : Type} {passes : α → Bool} {view : α → β} {row : α} {rows : List α}
    (present : ∃ other ∈ rows, key other = key row)
    (alike : ∀ other ∈ rows, key other = key row →
      passes other = passes row ∧ view other = view row) :
    ((place row rows).find? passes).map view = (rows.find? passes).map view := by
  rw [← List.head?_filter, ← List.head?_filter, ← List.head?_map, ← List.head?_map,
    map_filter_place present alike]

/-- A view that does not show an erased row does not change. -/
theorem filter_erase {table : Table α} {shows : α → Bool} {name : String}
    (hidden : ∀ row ∈ table.rows, key row = name → shows row = false) :
    (table.erase name).rows.filter shows = table.rows.filter shows := by
  rw [erase, rows_keep, List.filter_filter]
  refine List.filter_congr fun row inside => ?_
  by_cases here : key row = name
  · simp [hidden row inside here]
  · simp [here]

end Rendezvous.Table
