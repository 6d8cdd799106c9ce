import Mathlib.Data.List.Basic

/-!
# Stable sorting

Records are kept in order by a stable merge sort.  Sorting and then taking some of the
records is the same as sorting only those, so a sorted range of dates can be read date by
date.
-/

namespace Rendezvous.Sorting

variable {α : Type} {le : α → α → Bool}

/-- A first row ends up before the rows it is not above of, and after the others. -/
theorem mergeSort_cons_eq (trans : ∀ a b c, le a b = true → le b c = true → le a c = true)
    (total : ∀ a b, (le a b || le b a) = true) (row : α) (rows : List α) :
    (row :: rows).mergeSort le
      = ((rows.mergeSort le).filter fun other => !le row other)
        ++ row :: (rows.mergeSort le).filter fun other => le row other := by
  obtain ⟨before, after, whole, rest, above⟩ := List.mergeSort_cons trans total row rows
  have sorted := List.pairwise_mergeSort trans total (row :: rows)
  rw [whole, List.pairwise_append, List.pairwise_cons] at sorted
  have below : ∀ other ∈ after, le row other = true := sorted.2.1.1
  have below' : ∀ other ∈ after, ¬ (!le row other) = true := by
    intro other inside
    simp [below other inside]
  have above' : ∀ other ∈ before, ¬ le row other = true := by
    intro other inside
    simpa using above other inside
  rw [whole, rest, List.filter_append, List.filter_append, List.filter_eq_self.mpr above,
    List.filter_eq_nil_iff.mpr below', List.filter_eq_nil_iff.mpr above',
    List.filter_eq_self.mpr below, List.append_nil, List.nil_append]

/-- A filtered sort is the sort of what the filter keeps. -/
theorem filter_mergeSort (trans : ∀ a b c, le a b = true → le b c = true → le a c = true)
    (total : ∀ a b, (le a b || le b a) = true) (keep : α → Bool) (rows : List α) :
    (rows.mergeSort le).filter keep = (rows.filter keep).mergeSort le := by
  induction rows with
  | nil => simp
  | cons row rows ih =>
    by_cases kept : keep row
    · rw [List.filter_cons_of_pos kept, mergeSort_cons_eq trans total,
        mergeSort_cons_eq trans total, ← ih, List.filter_append, List.filter_cons_of_pos kept]
      simp only [List.filter_filter, Bool.and_comm]
    · obtain ⟨before, after, whole, rest, -⟩ := List.mergeSort_cons trans total row rows
      rw [List.filter_cons_of_neg kept, whole, List.filter_append,
        List.filter_cons_of_neg kept, ← List.filter_append, ← rest, ih]

/-- Orders that agree on the rows sort them alike. -/
theorem mergeSort_congr {le' : α → α → Bool} {rows : List α}
    (agree : ∀ a ∈ rows, ∀ b ∈ rows, le a b = le' a b) :
    rows.mergeSort le = rows.mergeSort le' := by
  simpa using List.map_mergeSort (f := id) agree

end Rendezvous.Sorting
