import Mathlib.Data.List.Nodup
import Mathlib.Data.List.Perm.Subperm
import Rendezvous.Store.Fresh

/-!
# Fresh names

Generated names of different numbers differ, since a name can be read back as its number.
Among one more names than are taken there is one that is free, and the search finds it.
-/

namespace Rendezvous.Fresh

/-- The value of a digit in lower case. -/
def digitValue (c : Char) : Nat :=
  if c.toNat < 58 then c.toNat - 48 else c.toNat - 87

/-- The number that hexadecimal digits stand for, after digits that stand for `value`. -/
def valueFrom (value : Nat) (digits : List Char) : Nat :=
  digits.foldl (fun sum c => 16 * sum + digitValue c) value

theorem digitValue_digitChar {digit : Nat} (small : digit < 16) :
    digitValue digit.digitChar = digit := by
  revert digit
  decide

theorem valueFrom_replicate (count : Nat) : valueFrom 0 (List.replicate count '0') = 0 := by
  induction count with
  | zero => rfl
  | succ count ih => simpa [List.replicate_succ, valueFrom, digitValue] using ih

theorem valueFrom_toDigits (number : Nat) : valueFrom 0 (Nat.toDigits 16 number) = number := by
  induction number using Nat.strongRecOn with
  | ind number ih =>
    by_cases small : number < 16
    · rw [Nat.toDigits_of_lt_base small]
      simp [valueFrom, digitValue_digitChar small]
    · rw [Nat.toDigits_of_base_le (by decide) (Nat.le_of_not_lt small)]
      have front := ih (number / 16) (by omega)
      rw [valueFrom] at front
      rw [valueFrom, List.foldl_append, front]
      simp only [List.foldl_cons, List.foldl_nil, digitValue_digitChar (Nat.mod_lt number (by decide))]
      omega

/-- A numeral can be read back, whatever its width. -/
theorem valueFrom_numeral (width number : Nat) :
    valueFrom 0 (numeral width number).toList = number := by
  have digits := valueFrom_toDigits number
  have noughts := valueFrom_replicate (width - (Nat.toDigits 16 number).length)
  rw [valueFrom] at digits noughts
  rw [numeral, String.toList_ofList, List.leftpad, valueFrom, List.foldl_append, noughts, digits]

theorem numeral_injective (width : Nat) : Function.Injective (numeral width) := by
  intro a b same
  rw [← valueFrom_numeral width a, same, valueFrom_numeral]

/-- The search ends at a free name, or has found all names taken up to its last number. -/
theorem search_free_or (taken : List String) (fuel number : Nat) :
    name (search taken fuel number) ∉ taken
      ∨ ∀ other, number ≤ other → other ≤ number + fuel → name other ∈ taken := by
  induction fuel generalizing number with
  | zero =>
    by_cases free : name number ∈ taken
    · refine .inr fun other late early => ?_
      have same : other = number := by omega
      exact same ▸ free
    · exact .inl free
  | succ fuel ih =>
    rw [search]
    split
    next present =>
      rcases ih (number + 1) with free | full
      · exact .inl free
      · refine .inr fun other late early => ?_
        by_cases same : other = number
        · exact same ▸ by simpa using present
        · exact full other (by omega) (by omega)
    next absent => exact .inl (by simpa using absent)

/-- A name that is generated is not taken. -/
theorem name_next_not_mem (taken : List String) (issued : Nat) :
    name (next taken issued) ∉ taken := by
  rcases search_free_or taken taken.length (issued + 1) with free | full
  · exact free
  · -- more different names than are taken cannot all be taken
    have distinct : ((List.range' (issued + 1) (taken.length + 1)).map name).Nodup :=
      List.Nodup.map (numeral_injective nameWidth) List.nodup_range'
    have inside : (List.range' (issued + 1) (taken.length + 1)).map name ⊆ taken := by
      intro text generated
      obtain ⟨number, among, rfl⟩ := List.mem_map.mp generated
      rw [List.mem_range'_1] at among
      exact full number among.1 (by omega)
    have length := (List.subperm_of_subset distinct inside).length_le
    rw [List.length_map, List.length_range'] at length
    omega

/-- No row goes by the name that is generated for the next. -/
theorem ne_name_next {α : Type} (key : α → String) (rows : List α) (issued : Nat) :
    ∀ row ∈ rows, key row ≠ name (next (rows.map key) issued) := by
  intro row inside same
  exact name_next_not_mem (rows.map key) issued (same ▸ List.mem_map_of_mem inside)

end Rendezvous.Fresh
