import Mathlib.Data.List.Basic
import Mathlib.Data.List.Nodup
import Rendezvous.Recurrence

/-!
# Dates of a recurrence

The look-up week by week finds exactly the dates that a recurrence covers.  A look-up that
gets to the end of the calendar does so for every longer range as well.
-/

namespace Rendezvous

namespace Date

theorem ordinal_max (a b : Date) : (max a b).ordinal = max a.ordinal b.ordinal := by
  change (if a ≤ b then b else a).ordinal = _
  split
  next later => exact (Nat.max_eq_right later).symm
  next earlier => exact (Nat.max_eq_left (Nat.le_of_not_le earlier)).symm

theorem ordinal_min (a b : Date) : (min a b).ordinal = min a.ordinal b.ordinal := by
  change (if a ≤ b then a else b).ordinal = _
  split
  next later => exact (Nat.min_eq_left later).symm
  next earlier => exact (Nat.min_eq_right (Nat.le_of_not_le earlier)).symm

theorem ext_iff {a b : Date} : a = b ↔ a.ordinal = b.ordinal :=
  ⟨congrArg ordinal, ext⟩

theorem le_refl (a : Date) : a ≤ a := Nat.le_refl a.ordinal

theorem le_trans {a b c : Date} (first : a ≤ b) (second : b ≤ c) : a ≤ c :=
  Nat.le_trans first second

theorem le_antisymm {a b : Date} (first : a ≤ b) (second : b ≤ a) : a = b :=
  ext (Nat.le_antisymm first second)

theorem lt_of_le_of_ne {a b : Date} (first : a ≤ b) (other : a ≠ b) : a < b :=
  Nat.lt_of_le_of_ne first fun same => other (ext same)

theorem ne_of_lt {a b : Date} (early : a < b) : a ≠ b := by
  rintro rfl
  exact Nat.lt_irrefl _ early

/-! ## Rows in the order of their dates -/

variable {α : Type} (dated : α → Date)

theorem byDate_trans (a b c : α) (first : decide (dated a ≤ dated b) = true)
    (second : decide (dated b ≤ dated c) = true) : decide (dated a ≤ dated c) = true := by
  simp only [decide_eq_true_eq] at first second ⊢
  exact le_trans first second

theorem byDate_total (a b : α) :
    (decide (dated a ≤ dated b) || decide (dated b ≤ dated a)) = true := by
  simp only [Bool.or_eq_true, decide_eq_true_eq]
  exact Nat.le_total (dated a).ordinal (dated b).ordinal

theorem pairwise_le_mergeSort (rows : List α) :
    (rows.mergeSort fun a b => dated a ≤ dated b).Pairwise fun a b => dated a ≤ dated b := by
  simpa using List.pairwise_mergeSort (byDate_trans dated) (byDate_total dated) rows

/-- Rows of different dates are sorted strictly. -/
theorem pairwise_lt_mergeSort {rows : List α}
    (distinct : rows.Pairwise fun a b => dated a ≠ dated b) :
    (rows.mergeSort fun a b => dated a ≤ dated b).Pairwise fun a b => dated a < dated b := by
  have apart : (rows.mergeSort fun a b => dated a ≤ dated b).Pairwise
      fun a b => dated a ≠ dated b :=
    ((List.mergeSort_perm rows _).pairwise_iff Ne.symm).mpr distinct
  apply ((pairwise_le_mergeSort dated rows).and apart).imp
  rintro a b ⟨before, other⟩
  exact lt_of_le_of_ne before other

/-! ## Ranges -/

theorem inRange_iff {first : Date} {last : Option Date} {day : Date} :
    inRange first last day ↔ first ≤ day ∧ ∀ stop ∈ last, day ≤ stop := by
  cases last <;> simp [inRange]

/-- Ranges overlap where neither ends before the other one begins. -/
theorem rangesOverlap_iff_le {firstA firstB : Date} {lastA lastB : Option Date} :
    rangesOverlap firstA lastA firstB lastB
      ↔ (∀ stop ∈ lastB, firstA ≤ stop) ∧ ∀ stop ∈ lastA, firstB ≤ stop := by
  cases lastA <;> cases lastB <;> simp [rangesOverlap]

/-- Two ranges overlap where they have a day in common. -/
theorem rangesOverlap_of_inRange {firstA firstB day : Date} {lastA lastB : Option Date}
    (inA : inRange firstA lastA day) (inB : inRange firstB lastB day) :
    rangesOverlap firstA lastA firstB lastB := by
  obtain ⟨afterA, beforeA⟩ := inRange_iff.mp inA
  obtain ⟨afterB, beforeB⟩ := inRange_iff.mp inB
  exact rangesOverlap_iff_le.mpr ⟨fun stop ends => le_trans afterA (beforeB stop ends),
    fun stop ends => le_trans afterB (beforeA stop ends)⟩

end Date

namespace Recurrence

theorem covers_iff {recurrence : Recurrence} {day : Date} :
    recurrence.covers day ↔ day.weekday = recurrence.weekday
      ∧ Date.inRange recurrence.firstDate recurrence.lastDate day := by
  simp [covers]

theorem begin_le_iff {recurrence : Recurrence} {start day : Date} :
    (recurrence.begin start).ordinal ≤ day.ordinal ↔ start ≤ day ∧ recurrence.firstDate ≤ day := by
  rw [begin, Date.ordinal_max, Nat.max_le]
  exact Iff.rfl

theorem le_finish_iff {recurrence : Recurrence} {stop day : Date} :
    day.ordinal ≤ (recurrence.finish stop).ordinal
      ↔ day ≤ stop ∧ ∀ last ∈ recurrence.lastDate, day ≤ last := by
  cases ends : recurrence.lastDate with
  | none => simp [finish, ends, Date.le_def]
  | some last =>
    simp only [finish, ends, Option.map_some, Option.getD_some, Date.ordinal_min,
      Option.mem_some_iff, forall_eq', Date.le_def]
    exact Nat.le_min

theorem weekday_eq_iff {weekday : Weekday} {day : Date} :
    day.weekday = weekday ↔ day.ordinal % 7 = weekday.val :=
  Fin.ext_iff

/-- The look-up finds the dates of the range that the recurrence covers. -/
theorem mem_dates {recurrence : Recurrence} {start stop day : Date} :
    day ∈ recurrence.dates start stop
      ↔ recurrence.covers day ∧ start ≤ day ∧ day ≤ stop := by
  have weekdays := recurrence.weekday.isLt
  have within : day ∈ recurrence.dates start stop
      ↔ day.ordinal % 7 = recurrence.weekday.val
        ∧ (recurrence.begin start).ordinal ≤ day.ordinal
        ∧ day.ordinal ≤ (recurrence.finish stop).ordinal := by
    simp only [dates, List.mem_filterMap, List.mem_range, Date.ofOrdinal?_eq_some_iff,
      nextOrdinal]
    constructor
    · rintro ⟨week, few, place⟩
      omega
    · rintro ⟨weekday, late, early⟩
      refine ⟨(day.ordinal - ((recurrence.begin start).ordinal
        + (recurrence.weekday.val + 7 - (recurrence.begin start).ordinal % 7) % 7)) / 7, ?_, ?_⟩
        <;> omega
  rw [within, begin_le_iff, le_finish_iff, covers_iff, weekday_eq_iff, Date.inRange_iff]
  tauto

/-- No date is found twice. -/
theorem nodup_dates (recurrence : Recurrence) (start stop : Date) :
    (recurrence.dates start stop).Nodup := by
  refine List.Nodup.filterMap ?_ List.nodup_range
  intro week week' day found found'
  have place := Date.ofOrdinal?_eq_some_iff.mp found
  have place' := Date.ofOrdinal?_eq_some_iff.mp found'
  omega

theorem isCutOff_iff {ordinal : Nat} :
    isCutOff ordinal ↔ lastOrdinal < ordinal ∧ (ordinal - 1) / 7 = (lastOrdinal - 1) / 7 := by
  simp [isCutOff]

theorem overruns_iff {recurrence : Recurrence} {start stop : Date} :
    recurrence.overruns start stop
      ↔ (recurrence.begin start).ordinal ≤ (recurrence.finish stop).ordinal
        ∧ isCutOff (nextOrdinal recurrence.weekday ((recurrence.finish stop).ordinal + 1)) := by
  simp [overruns, Date.le_def]

/-- A look-up of a single date that fails would fail in any range around that date. -/
theorem overruns_of_single {recurrence : Recurrence} {start stop day : Date}
    (after : start ≤ day) (before : day ≤ stop) (overrun : recurrence.overruns day day) :
    recurrence.overruns start stop := by
  obtain ⟨nonempty, cut⟩ := overruns_iff.mp overrun
  have self : (recurrence.finish day).ordinal ≤ day.ordinal :=
    (le_finish_iff.mp (Nat.le_refl _)).1
  have late : (recurrence.begin start).ordinal ≤ day.ordinal :=
    begin_le_iff.mpr ⟨after, (begin_le_iff.mp (Nat.le_trans nonempty self)).2⟩
  have reaches : day.ordinal ≤ (recurrence.finish day).ordinal :=
    Nat.le_trans (begin_le_iff.mp (Nat.le_refl _)).1 nonempty
  have early : day.ordinal ≤ (recurrence.finish stop).ordinal :=
    le_finish_iff.mpr ⟨before, (le_finish_iff.mp reaches).2⟩
  refine overruns_iff.mpr ⟨Nat.le_trans late early, ?_⟩
  -- no day of the weekday lies between the date and the end of the calendar
  have last := (recurrence.finish stop).le_last
  have weekdays := recurrence.weekday.isLt
  rw [isCutOff_iff] at cut ⊢
  simp only [nextOrdinal, lastOrdinal] at cut last ⊢
  omega

end Recurrence

end Rendezvous
