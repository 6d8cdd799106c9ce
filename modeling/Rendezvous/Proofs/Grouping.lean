import Mathlib.Data.List.Basic
import Rendezvous.Contribution
import Rendezvous.Proofs.Occurrences

/-!
# Grouping contributions by date

Neighbours of one date are collected into a group.  Where the contributions come by date
there is one group for a date, which holds its contributions in their order.
-/

namespace Rendezvous.Contribution

/-- What a grouped list holds for a date, nothing where the date is missing. -/
def onDate (dated : List (Date × List Contribution)) (day : Date) : List Contribution :=
  ((dated.find? fun entry => entry.1 = day).map Prod.snd).getD []

@[simp] theorem onDate_nil (day : Date) : onDate [] day = [] := rfl

@[simp] theorem onDate_cons (entry : Date × List Contribution)
    (rest : List (Date × List Contribution)) (day : Date) :
    onDate (entry :: rest) day = if entry.1 = day then entry.2 else onDate rest day := by
  by_cases here : entry.1 = day <;> simp [onDate, here]

theorem onDate_eq_nil {dated : List (Date × List Contribution)} {day : Date}
    (absent : ∀ entry ∈ dated, entry.1 ≠ day) : onDate dated day = [] := by
  induction dated with
  | nil => rfl
  | cons entry rest ih =>
    rw [onDate_cons, if_neg (absent entry List.mem_cons_self)]
    exact ih fun other inside => absent other (List.mem_cons_of_mem _ inside)

/-- Where the dates ascend, a list holds for each of them what stands there. -/
theorem onDate_of_mem {dated : List (Date × List Contribution)}
    (ascending : (dated.map Prod.fst).Pairwise (· < ·)) {entry : Date × List Contribution}
    (inside : entry ∈ dated) : onDate dated entry.1 = entry.2 := by
  induction dated with
  | nil => cases inside
  | cons first rest ih =>
    rw [List.map_cons, List.pairwise_cons] at ascending
    rw [onDate_cons]
    rcases List.mem_cons.mp inside with rfl | inside
    · rw [if_pos rfl]
    · have later := ascending.1 entry.1 (List.mem_map_of_mem inside)
      rw [if_neg (Date.ne_of_lt later)]
      exact ih ascending.2 inside

theorem gather_cons (day : Date) (contribution : Contribution)
    (rest : List (Date × Contribution)) :
    (∃ group later, gather rest = (day, group) :: later
        ∧ gather ((day, contribution) :: rest) = (day, contribution :: group) :: later)
      ∨ (∀ entry ∈ (gather rest).head?, entry.1 ≠ day)
        ∧ gather ((day, contribution) :: rest) = (day, [contribution]) :: gather rest := by
  cases groups : gather rest with
  | nil => exact .inr ⟨by simp, by simp [gather, groups]⟩
  | cons entry later =>
    obtain ⟨next, group⟩ := entry
    by_cases same : day = next
    · subst same
      exact .inl ⟨group, later, rfl, by simp [gather, groups]⟩
    · refine .inr ⟨?_, by simp [gather, groups, same]⟩
      intro entry first
      cases first
      exact Ne.symm same

/-- A date of a group is the date of a contribution. -/
theorem mem_of_mem_gather {dated : List (Date × Contribution)}
    {entry : Date × List Contribution} (inside : entry ∈ gather dated) :
    entry.2 ≠ [] ∧ ∃ single ∈ dated, single.1 = entry.1 := by
  induction dated generalizing entry with
  | nil => cases inside
  | cons first rest ih =>
    obtain ⟨day, contribution⟩ := first
    rcases gather_cons day contribution rest with ⟨group, later, whole, found⟩ | ⟨-, found⟩
    · rw [found] at inside
      rcases List.mem_cons.mp inside with rfl | inside
      · exact ⟨by simp, (day, contribution), List.mem_cons_self, rfl⟩
      · obtain ⟨nonempty, single, among, same⟩ :=
          ih (whole ▸ List.mem_cons_of_mem _ inside)
        exact ⟨nonempty, single, List.mem_cons_of_mem _ among, same⟩
    · rw [found] at inside
      rcases List.mem_cons.mp inside with rfl | inside
      · exact ⟨by simp, (day, contribution), List.mem_cons_self, rfl⟩
      · obtain ⟨nonempty, single, among, same⟩ := ih inside
        exact ⟨nonempty, single, List.mem_cons_of_mem _ among, same⟩

/-- Where the first group is of another date, all groups are of later dates. -/
theorem lt_of_mem_gather {day : Date} {rest : List (Date × Contribution)}
    (least : ∀ single ∈ rest, day ≤ single.1)
    (other : ∀ entry ∈ (gather rest).head?, entry.1 ≠ day)
    (ascending : ((gather rest).map Prod.fst).Pairwise (· < ·)) :
    ∀ entry ∈ gather rest, day < entry.1 := by
  intro entry inside
  have early : ∀ entry ∈ gather rest, day ≤ entry.1 := by
    intro entry inside
    obtain ⟨-, single, among, same⟩ := mem_of_mem_gather inside
    exact same ▸ least single among
  cases groups : gather rest with
  | nil => simp [groups] at inside
  | cons head later =>
    rw [groups] at inside other ascending early
    have first : day < head.1 :=
      Date.lt_of_le_of_ne (early head List.mem_cons_self) fun same => other head rfl same.symm
    rcases List.mem_cons.mp inside with rfl | inside
    · exact first
    · rw [List.map_cons, List.pairwise_cons] at ascending
      exact Nat.lt_trans first (ascending.1 entry.1 (List.mem_map_of_mem inside))

/-- Contributions that come by date are grouped into ascending dates. -/
theorem pairwise_gather {dated : List (Date × Contribution)}
    (sorted : dated.Pairwise fun a b => a.1 ≤ b.1) :
    ((gather dated).map Prod.fst).Pairwise (· < ·) := by
  induction dated with
  | nil => simp [gather]
  | cons first rest ih =>
    obtain ⟨day, contribution⟩ := first
    obtain ⟨least, sorted⟩ := List.pairwise_cons.mp sorted
    have ascending := ih sorted
    rcases gather_cons day contribution rest with ⟨group, later, whole, found⟩ | ⟨other, found⟩
    · rw [whole] at ascending
      rw [found]
      exact ascending
    · rw [found, List.map_cons, List.pairwise_cons]
      refine ⟨?_, ascending⟩
      intro next inside
      obtain ⟨entry, among, rfl⟩ := List.mem_map.mp inside
      exact lt_of_mem_gather least other ascending entry among

/-- A group holds the contributions of its date in their order. -/
theorem onDate_gather {dated : List (Date × Contribution)}
    (sorted : dated.Pairwise fun a b => a.1 ≤ b.1) (day : Date) :
    onDate (gather dated) day = (dated.filter fun single => single.1 = day).map Prod.snd := by
  induction dated with
  | nil => rfl
  | cons first rest ih =>
    obtain ⟨start, contribution⟩ := first
    obtain ⟨least, sorted⟩ := List.pairwise_cons.mp sorted
    have groups := ih sorted
    rcases gather_cons start contribution rest with ⟨group, later, whole, found⟩ | ⟨other, found⟩
    · rw [whole, onDate_cons] at groups
      rw [found, onDate_cons]
      by_cases here : start = day
      · simp only [here, if_true] at groups ⊢
        simp [groups]
      · simp only [here, if_false] at groups ⊢
        simp [groups, here]
    · rw [found, onDate_cons]
      by_cases here : start = day
      · subst here
        have later := lt_of_mem_gather least other (pairwise_gather sorted)
        have absent : onDate (gather rest) start = [] :=
          onDate_eq_nil fun entry inside => Ne.symm (Date.ne_of_lt (later entry inside))
        rw [groups] at absent
        simp [absent]
      · simp [here, groups]

end Rendezvous.Contribution
