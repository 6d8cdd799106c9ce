import Rendezvous.Proofs.Intervals
import Rendezvous.Proofs.Rounding

/-!
# The hours that slots share

Slots with valid times share the minutes from the latest start to the earliest stop.  How long that
is, is reckoned only where some slot gives a start and some slot a stop; otherwise a whole day is.
-/

namespace Rendezvous

/-! ## The side of a slot -/

namespace TimeOfDay

/-- The minute that is given on one side of a slot. -/
def moment? (side : Option String) : Option Int := (given side).bind minutes?

variable {side : Option String} {edge : String} {minute : Int}

theorem legible_of_given (valid : isValid ((given side).getD edge)) :
    ∀ text ∈ given side, Legible text := by
  intro text inside
  rw [Option.mem_def.mp inside] at valid
  exact legible_of_isValid valid

/-- An edge of the day stands for a side that is not given. -/
theorem minutes?_getD (valid : isValid ((given side).getD edge))
    (known : minutes? edge = some minute) :
    minutes? ((given side).getD edge) = some ((moment? side).getD minute) := by
  unfold moment?
  cases found : given side with
  | none => exact known
  | some text =>
    obtain ⟨here, -, counted⟩ := legible_of_given valid text found
    simp [counted]

theorem moment?_eq_none_iff (valid : isValid ((given side).getD edge)) :
    moment? side = none ↔ given side = none := by
  unfold moment?
  cases found : given side with
  | none => simp
  | some text =>
    obtain ⟨here, -, counted⟩ := legible_of_given valid text found
    simp [counted]

theorem mapM_minutes {texts : List String} (legible : ∀ text ∈ texts, Legible text) :
    texts.mapM minutes = .ok (texts.filterMap minutes?) := by
  induction texts with
  | nil => rfl
  | cons text rest ih =>
    obtain ⟨here, -, known⟩ := legible text List.mem_cons_self
    have later := ih fun other inside => legible other (List.mem_cons_of_mem _ inside)
    rw [List.mapM_cons, minutes_of_minutes? known, Except.ok_bind, later,
      List.filterMap_cons_some known]
    rfl

/-- What is given on one side of some slots can be read. -/
theorem mapM_given {slots : List Slot} (pick : Slot → Option String)
    (valid : ∀ slot ∈ slots, isValid ((given (pick slot)).getD edge)) :
    (slots.filterMap fun slot => given (pick slot)).mapM minutes
      = .ok (slots.filterMap fun slot => moment? (pick slot)) := by
  rw [mapM_minutes, List.filterMap_filterMap]
  · rfl
  · intro text inside
    obtain ⟨slot, among, found⟩ := List.mem_filterMap.mp inside
    exact legible_of_given (valid slot among) text found

end TimeOfDay

open TimeOfDay (moment?)

theorem Slot.interval?_of_isTimed {slot : Slot} (timed : slot.isTimed) :
    slot.interval?
      = some ⟨(moment? slot.start).getD 0, (moment? slot.stop).getD TimeOfDay.lastMinute⟩ := by
  obtain ⟨valid, valid'⟩ := Bool.and_eq_true_iff.mp timed
  apply interval?_eq_some_iff.mpr
  exact ⟨timed, TimeOfDay.minutes?_getD valid TimeOfDay.minutes?_dayStart,
    TimeOfDay.minutes?_getD valid' TimeOfDay.minutes?_dayEnd⟩

/-! ## The latest start and the earliest stop -/

section

variable {α : Type} {list : List α} {f : α → Option Int} {edge found : Int}

/-- A lower bound that stands for what is missing does not change what is greatest. -/
theorem max?_map_getD (least : ∀ a ∈ list, edge ≤ (f a).getD edge)
    (greatest : (list.filterMap f).max? = some found) :
    (list.map fun a => (f a).getD edge).max? = some found := by
  obtain ⟨inside, upper⟩ := List.max?_eq_some_iff.mp greatest
  obtain ⟨a, among, given⟩ := List.mem_filterMap.mp inside
  apply List.max?_eq_some_iff.mpr
  constructor
  · exact List.mem_map.mpr ⟨a, among, by rw [given, Option.getD_some]⟩
  · intro b inside
    obtain ⟨c, among', rfl⟩ := List.mem_map.mp inside
    cases here : f c with
    | none => simpa [given] using least a among
    | some value => exact upper value (List.mem_filterMap.mpr ⟨c, among', here⟩)

/-- An upper bound that stands for what is missing does not change what is least. -/
theorem min?_map_getD (most : ∀ a ∈ list, (f a).getD edge ≤ edge)
    (smallest : (list.filterMap f).min? = some found) :
    (list.map fun a => (f a).getD edge).min? = some found := by
  obtain ⟨inside, lower⟩ := List.min?_eq_some_iff.mp smallest
  obtain ⟨a, among, given⟩ := List.mem_filterMap.mp inside
  apply List.min?_eq_some_iff.mpr
  constructor
  · exact List.mem_map.mpr ⟨a, among, by rw [given, Option.getD_some]⟩
  · intro b inside
    obtain ⟨c, among', rfl⟩ := List.mem_map.mp inside
    cases here : f c with
    | none => simpa [given] using most a among
    | some value => exact lower value (List.mem_filterMap.mpr ⟨c, among', here⟩)

end

namespace Sweep

/-- What slots share: it begins with the latest of their intervals, and stops with the earliest. -/
structure Shares (slots : List Slot) (shared : Interval) : Prop where
  start : ((slots.filterMap Slot.interval?).map Interval.start).max? = some shared.start
  stop : ((slots.filterMap Slot.interval?).map Interval.stop).min? = some shared.stop

variable {slots : List Slot} {shared other : Interval}

theorem intervals_of_isTimed (timed : ∀ slot ∈ slots, slot.isTimed) :
    slots.filterMap Slot.interval?
      = slots.map fun slot =>
        ⟨(moment? slot.start).getD 0, (moment? slot.stop).getD TimeOfDay.lastMinute⟩ := by
  rw [← List.filterMap_eq_map]
  exact List.filterMap_congr fun slot inside => Slot.interval?_of_isTimed (timed slot inside)

theorem exists_shares (filled : slots ≠ []) (timed : ∀ slot ∈ slots, slot.isTimed) :
    ∃ shared, Shares slots shared := by
  obtain ⟨slot, inside⟩ := List.exists_mem_of_ne_nil slots filled
  have there := List.mem_filterMap.mpr ⟨slot, inside, Slot.interval?_of_isTimed (timed slot inside)⟩
  obtain ⟨start, latest⟩ := Option.isSome_iff_exists.mp
    (List.isSome_max?_of_mem (List.mem_map_of_mem (f := Interval.start) there))
  obtain ⟨stop, earliest⟩ := Option.isSome_iff_exists.mp
    (List.isSome_min?_of_mem (List.mem_map_of_mem (f := Interval.stop) there))
  exact ⟨⟨start, stop⟩, latest, earliest⟩

/-- The minutes that slots share are those that each of them covers. -/
theorem Shares.forall_covers_iff (shares : Shares slots shared)
    (timed : ∀ slot ∈ slots, slot.isTimed) (minute : Int) :
    (∀ slot ∈ slots, slot.covers minute) ↔ spans minute (minute + 1) shared := by
  obtain ⟨begins, upper⟩ := List.max?_eq_some_iff.mp shares.start
  obtain ⟨ends, lower⟩ := List.min?_eq_some_iff.mp shares.stop
  simp only [Slot.covers_eq]
  constructor
  · intro covered
    obtain ⟨latest, there, start⟩ := List.mem_map.mp begins
    obtain ⟨earliest, there', stop⟩ := List.mem_map.mp ends
    obtain ⟨slot, inside, found⟩ := List.mem_filterMap.mp there
    obtain ⟨slot', inside', found'⟩ := List.mem_filterMap.mp there'
    have late := covered slot inside
    have early := covered slot' inside'
    rw [found, Option.any_some, Interval.spans_iff] at late
    rw [found', Option.any_some, Interval.spans_iff] at early
    exact Interval.spans_iff.mpr ⟨start ▸ late.1, stop ▸ early.2⟩
  · intro spanned slot inside
    obtain ⟨after, before⟩ := Interval.spans_iff.mp spanned
    have found := Slot.interval?_of_isTimed (timed slot inside)
    have there := List.mem_filterMap.mpr ⟨slot, inside, found⟩
    rw [found, Option.any_some]
    apply Interval.spans_iff.mpr
    exact ⟨Int.le_trans (upper _ (List.mem_map_of_mem there)) after,
      Int.le_trans before (lower _ (List.mem_map_of_mem there))⟩

/-- What slots share is not longer than a day. -/
theorem Shares.length_le (shares : Shares slots shared) : shared.length ≤ 1439 := by
  obtain ⟨latest, there, start⟩ := List.mem_map.mp (List.max?_mem shares.start)
  obtain ⟨earliest, there', stop⟩ := List.mem_map.mp (List.min?_mem shares.stop)
  obtain ⟨slot, -, found⟩ := List.mem_filterMap.mp there
  obtain ⟨slot', -, found'⟩ := List.mem_filterMap.mp there'
  have early := (Slot.bounds_of_interval? found).1.1
  have late := (Slot.bounds_of_interval? found').2.2
  have day : TimeOfDay.lastMinute = 1439 := rfl
  unfold Interval.length
  omega

/-- The latest start and the earliest stop that are given are those of the intervals. -/
theorem shares_of_given (timed : ∀ slot ∈ slots, slot.isTimed)
    (latest : (slots.filterMap fun slot => moment? slot.start).max? = some shared.start)
    (earliest : (slots.filterMap fun slot => moment? slot.stop).min? = some shared.stop) :
    Shares slots shared := by
  have within : ∀ slot ∈ slots, 0 ≤ (moment? slot.start).getD 0
      ∧ (moment? slot.stop).getD TimeOfDay.lastMinute ≤ TimeOfDay.lastMinute := by
    intro slot inside
    have bounds := Slot.bounds_of_interval? (Slot.interval?_of_isTimed (timed slot inside))
    exact ⟨bounds.1.1, bounds.2.2⟩
  constructor <;> rw [intervals_of_isTimed timed, List.map_map]
  · exact max?_map_getD (fun slot inside => (within slot inside).1) latest
  · exact min?_map_getD (fun slot inside => (within slot inside).2) earliest

theorem feasibleMinutes_eq (timed : ∀ slot ∈ slots, slot.isTimed) :
    feasibleMinutes slots
      = match (slots.filterMap fun slot => moment? slot.start).max?,
          (slots.filterMap fun slot => moment? slot.stop).min? with
        | some latest, some earliest => .ok (max 0 (earliest - latest))
        | _, _ => .ok (24 * 60) := by
  have valid := fun slot inside => Bool.and_eq_true_iff.mp (timed slot inside)
  rw [feasibleMinutes, TimeOfDay.mapM_given Slot.start fun slot inside => (valid slot inside).1,
    Except.ok_bind, TimeOfDay.mapM_given Slot.stop fun slot inside => (valid slot inside).2,
    Except.ok_bind]
  rfl

/-! ## What is reckoned -/

/-- Some slot gives a start, and some slot a stop. -/
def Bounded (slots : List Slot) : Prop :=
  (∃ slot ∈ slots, (TimeOfDay.given slot.start).isSome)
    ∧ ∃ slot ∈ slots, (TimeOfDay.given slot.stop).isSome

theorem exists_given_iff {pick : Slot → Option String} {edge : String}
    (valid : ∀ slot ∈ slots, TimeOfDay.isValid ((TimeOfDay.given (pick slot)).getD edge)) :
    (∃ slot ∈ slots, (TimeOfDay.given (pick slot)).isSome)
      ↔ slots.filterMap (fun slot => moment? (pick slot)) ≠ [] := by
  rw [Ne, List.filterMap_eq_nil_iff, not_forall]
  simp only [Classical.not_imp]
  refine exists_congr fun slot => and_congr_right fun inside => ?_
  rw [TimeOfDay.moment?_eq_none_iff (valid slot inside), Option.isSome_iff_ne_none]

theorem bounded_iff (timed : ∀ slot ∈ slots, slot.isTimed) :
    Bounded slots ↔ (slots.filterMap fun slot => moment? slot.start) ≠ []
      ∧ (slots.filterMap fun slot => moment? slot.stop) ≠ [] := by
  have valid := fun slot inside => Bool.and_eq_true_iff.mp (timed slot inside)
  exact and_congr (exists_given_iff fun slot inside => (valid slot inside).1)
    (exists_given_iff fun slot inside => (valid slot inside).2)

theorem feasibleMinutes_of_bounded (timed : ∀ slot ∈ slots, slot.isTimed)
    (bounded : Bounded slots) :
    ∃ shared, Shares slots shared ∧ feasibleMinutes slots = .ok (max 0 shared.length) := by
  obtain ⟨starts, stops⟩ := (bounded_iff timed).mp bounded
  cases latest : (slots.filterMap fun slot => moment? slot.start).max? with
  | none => exact absurd (List.max?_eq_none_iff.mp latest) starts
  | some start =>
    cases earliest : (slots.filterMap fun slot => moment? slot.stop).min? with
    | none => exact absurd (List.min?_eq_none_iff.mp earliest) stops
    | some stop =>
      refine ⟨⟨start, stop⟩, shares_of_given timed latest earliest, ?_⟩
      rw [feasibleMinutes_eq timed, latest, earliest]
      rfl

theorem feasibleMinutes_of_not_bounded (timed : ∀ slot ∈ slots, slot.isTimed)
    (halved : ¬ Bounded slots) : feasibleMinutes slots = .ok (24 * 60) := by
  rw [bounded_iff timed, not_and_or, not_not, not_not] at halved
  rw [feasibleMinutes_eq timed]
  rcases halved with starts | stops
  · rw [starts]
    rfl
  · rw [stops]
    split
    next none => simp at none
    next => rfl

/-- Of slots with valid times the hours that all of them share are reckoned, where some slot gives
a start and some slot a stop; otherwise a whole day is, and at no other time. -/
theorem feasibleHours_shared (slots : List Slot) (filled : slots ≠ [])
    (timed : ∀ slot ∈ slots, slot.isTimed) :
    ∃ shared hours, Shares slots shared ∧ feasibleHours slots = .ok hours
      ∧ (∀ minute, (∀ slot ∈ slots, slot.covers minute) ↔ spans minute (minute + 1) shared)
      ∧ (Bounded slots → hours = .nearest false ((max 0 shared.length).toNat * Double.one) 60
        ∧ ∀ n : Nat, hours.isBelow n ↔ max 0 shared.length < 60 * n)
      ∧ (hours = .ofNat 24 ↔ ¬ Bounded slots) := by
  have whole : TimeOfDay.hours (24 * 60) = .ok (.ofNat 24) := by decide +kernel
  have full : (Double.ofNat 24).isBelow (24 : Nat) = false := by decide +kernel
  by_cases bounded : Bounded slots
  · obtain ⟨shared, shares, minutes⟩ := feasibleMinutes_of_bounded timed bounded
    have day := shares.length_le
    have least : 0 ≤ max 0 shared.length := Int.le_max_left _ _
    have within : (max 0 shared.length).toNat ≤ 1440 := by omega
    obtain ⟨hours, reckoned, nearest, below⟩ := TimeOfDay.exists_hours within
    rw [Int.toNat_of_nonneg least] at reckoned
    refine ⟨shared, hours, shares, ?_, shares.forall_covers_iff timed, fun _ => ⟨nearest, ?_⟩, ?_⟩
    · rw [feasibleHours, minutes, Except.ok_bind, reckoned]
    · intro n
      rw [below]
      omega
    · refine iff_of_false ?_ (not_not.mpr bounded)
      intro same
      have short := (below 24).mpr (by omega)
      rw [same, full] at short
      cases short
  · obtain ⟨shared, shares⟩ := exists_shares filled timed
    refine ⟨shared, .ofNat 24, shares, ?_, shares.forall_covers_iff timed, ?_, ?_⟩
    · rw [feasibleHours, feasibleMinutes_of_not_bounded timed bounded, Except.ok_bind, whole]
    · exact fun closed => absurd closed bounded
    · exact iff_of_true rfl bounded

/-- One slot gives a start and another a stop. -/
theorem feasibleHours_shared_halves :
    let slots : List Slot := [⟨some "9:30", some ""⟩, ⟨none, some "11:00"⟩, ⟨none, none⟩]
    slots ≠ [] ∧ (∀ slot ∈ slots, slot.isTimed) ∧ Bounded slots
      ∧ Shares slots ⟨570, 660⟩
      ∧ feasibleHours slots = .ok (.nearest false (90 * Double.one) 60) := by
  intro slots
  have timed : ∀ slot ∈ slots, slot.isTimed := by decide +kernel
  have bounded : Bounded slots := by constructor <;> decide +kernel
  obtain ⟨shared, hours, ⟨start, stop⟩, reckoned, -, quotient, -⟩ :=
    feasibleHours_shared slots (List.cons_ne_nil _ _) timed
  have latest : ((slots.filterMap Slot.interval?).map Interval.start).max? = some 570 := by
    decide +kernel
  have earliest : ((slots.filterMap Slot.interval?).map Interval.stop).min? = some 660 := by
    decide +kernel
  have begins : shared.start = 570 := Option.some.inj (start.symm.trans latest)
  have ends : shared.stop = 660 := Option.some.inj (stop.symm.trans earliest)
  have long : (max 0 shared.length).toNat = 90 := by
    unfold Interval.length
    omega
  rw [(quotient bounded).1, long] at reckoned
  exact ⟨List.cons_ne_nil _ _, timed, bounded, ⟨latest, earliest⟩, reckoned⟩

/-- Of one slot that gives no stop a whole day is reckoned, although twelve hours of it are left. -/
theorem feasibleHours_of_half :
    Shares [⟨some "11:59", none⟩] ⟨719, 1439⟩
      ∧ Double.nearest false ((1439 - 719) * Double.one) 60 = .ofNat 12
      ∧ feasibleHours [⟨some "11:59", none⟩] = .ok (.ofNat 24)
      ∧ Double.ofNat 24 ≠ .ofNat 12 := by
  refine ⟨⟨?_, ?_⟩, ?_⟩ <;> decide +kernel

end Sweep

end Rendezvous
