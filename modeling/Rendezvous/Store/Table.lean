/-!
# Tables

A table holds rows in the order in which their keys were first put in, one row for a
key.  Putting a row under a key that is present replaces the row where it stands.
-/

namespace Rendezvous

/-- Rows that are told apart by a text. -/
class Keyed (α : Type) where
  key : α → String

structure Table (α : Type) [Keyed α] where
  rows : List α
  nodup : (rows.map Keyed.key).Nodup

namespace Table

variable {α : Type} [Keyed α]

open Keyed (key)

theorem ext {a b : Table α} (same : a.rows = b.rows) : a = b := by
  cases a
  cases b
  cases same
  rfl

instance [DecidableEq α] : DecidableEq (Table α) := fun a b =>
  if same : a.rows = b.rows then isTrue (ext same) else isFalse fun h => same (h ▸ rfl)

def empty : Table α := ⟨[], List.nodup_nil⟩

instance : Inhabited (Table α) := ⟨empty⟩

@[simp] theorem rows_empty : (empty : Table α).rows = [] := rfl

def get? (table : Table α) (name : String) : Option α :=
  table.rows.find? fun row => key row = name

theorem mem_of_get? {table : Table α} {name : String} {row : α}
    (found : table.get? name = some row) : row ∈ table.rows ∧ key row = name :=
  ⟨List.mem_of_find?_eq_some found, by simpa using List.find?_some found⟩

/-- Puts a row where its key stands, or at the end. -/
def place (row : α) : List α → List α
  | [] => [row]
  | first :: rest => if key first = key row then row :: rest else first :: place row rest

theorem map_key_place (row : α) (rows : List α) :
    (place row rows).map key =
      if key row ∈ rows.map key then rows.map key else rows.map key ++ [key row] := by
  induction rows with
  | nil => simp [place]
  | cons first rest ih =>
    by_cases same : key first = key row
    · simp [place, same]
    · have other : ¬ key row = key first := fun h => same h.symm
      simp only [place, same, if_false, List.map_cons, ih, List.mem_cons, other, false_or]
      split <;> simp

theorem nodup_place (row : α) {rows : List α} (nodup : (rows.map key).Nodup) :
    ((place row rows).map key).Nodup := by
  rw [map_key_place]
  split
  · exact nodup
  next absent =>
    rw [List.nodup_append]
    refine ⟨nodup, by simp, ?_⟩
    intro a inside b last same
    simp only [List.mem_singleton] at last
    exact absent (last ▸ same ▸ inside)

def put (table : Table α) (row : α) : Table α :=
  ⟨place row table.rows, nodup_place row table.nodup⟩

@[simp] theorem rows_put (table : Table α) (row : α) :
    (table.put row).rows = place row table.rows := rfl

def keep (table : Table α) (passes : α → Bool) : Table α :=
  ⟨table.rows.filter passes, (List.filter_sublist.map key).nodup table.nodup⟩

@[simp] theorem rows_keep (table : Table α) (passes : α → Bool) :
    (table.keep passes).rows = table.rows.filter passes := rfl

def erase (table : Table α) (name : String) : Table α :=
  table.keep fun row => key row ≠ name

@[simp] theorem mem_erase {table : Table α} {name : String} {row : α} :
    row ∈ (table.erase name).rows ↔ row ∈ table.rows ∧ key row ≠ name := by
  simp [erase]

end Table

end Rendezvous
