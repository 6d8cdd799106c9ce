import Rendezvous.Proofs.Decisions
import Rendezvous.Proofs.Times
import Rendezvous.Sweep

/-!
# Slots that can be read

Times are texts, and a text that is no time breaks off whatever compares it.  Where a slot and
a window hold nothing but times, a slot is fitted into the window or refused, and holds nothing
but times again.
-/

namespace Rendezvous

/-! ## Results -/

/-- A result that is good, or fails in a way that is allowed. -/
def Ends {α : Type} (allowed : Failure → Prop) (good : α → Prop) : Except Failure α → Prop
  | .ok value => good value
  | .error failure => allowed failure

section Ends

variable {α β : Type} {allowed : Failure → Prop} {good : α → Prop} {good' : β → Prop}

theorem Ends.bind {first : Except Failure α} {next : α → Except Failure β}
    (ends : Ends allowed good first)
    (later : ∀ value, first = .ok value → good value → Ends allowed good' (next value)) :
    Ends allowed good' (first >>= next) := by
  cases first with
  | error failure => exact ends
  | ok value => exact later value rfl ends

theorem Ends.map {first : Except Failure α} (ends : Ends allowed good first) (f : α → β)
    (kept : ∀ value, good value → good' (f value)) : Ends allowed good' (first.map f) := by
  cases first with
  | error failure => exact ends
  | ok value => exact kept value ends

theorem Ends.of_eq_error {result : Except Failure α} {failure : Failure}
    (ends : Ends allowed good result) (failed : result = .error failure) : allowed failure := by
  subst failed
  exact ends

theorem Ends.of_eq_ok {result : Except Failure α} {value : α} (ends : Ends allowed good result)
    (found : result = .ok value) : good value := by
  subst found
  exact ends

theorem ends_pure {value : α} (holds : good value) :
    Ends allowed good (pure value : Except Failure α) :=
  holds

/-- A condition that is not met is refused. -/
theorem ends_unless {condition : Bool} {refusal : Refusal} (refuses : allowed (.refused refusal)) :
    Ends allowed (fun _ => condition) (Refusal.unless condition refusal) := by
  rw [Refusal.unless]
  split
  next holds => exact holds
  next => exact refuses

/-- Where nothing of a list fails, the list does not fail. -/
theorem ends_mapM {list : List α} {f : α → Except Failure β}
    (each : ∀ value ∈ list, Ends allowed good' (f value)) :
    Ends allowed (fun results => ∀ result ∈ results, good' result) (list.mapM f) := by
  induction list with
  | nil => exact fun result inside => by cases inside
  | cons value rest ih =>
    rw [List.mapM_cons]
    refine Ends.bind (each value List.mem_cons_self) fun first _ holds => ?_
    refine Ends.bind (ih fun other inside => each other (List.mem_cons_of_mem _ inside))
      fun later _ others => ends_pure ?_
    intro result inside
    rcases List.mem_cons.mp inside with rfl | inside
    · exact holds
    · exact others result inside

end Ends

/-! ## Times of day -/

variable {allowed : Failure → Prop}

namespace TimeOfDay

/-- A side of a slot that is missing, empty or a time. -/
def LegibleSide (side : Option String) : Prop :=
  ∀ text, given side = some text → Legible text

theorem legibleSide_of_legible {text : String} (legible : Legible text) :
    LegibleSide (some text) := by
  intro text' found
  obtain ⟨same, -⟩ := Option.filter_eq_some_iff.mp found
  cases same
  exact legible

theorem legibleSide_none : LegibleSide none := by
  intro text found
  cases found

theorem ends_minutes {text : String} (legible : Legible text) :
    Ends allowed (fun count => 0 ≤ count ∧ count ≤ 1439) (minutes text) := by
  obtain ⟨minute, small, found⟩ := legible
  rw [minutes, found]
  exact ⟨Int.natCast_nonneg minute, by omega⟩

theorem ends_compare {a b : String} (first : Legible a) (second : Legible b) :
    Ends allowed (fun _ => True) (compare a b) := by
  rw [compare]
  refine Ends.bind (ends_minutes first) fun _ _ _ => ?_
  refine Ends.bind (ends_minutes second) fun _ _ _ => ?_
  exact ends_pure trivial

theorem ends_earlier {a b : String} (first : Legible a) (second : Legible b) :
    Ends allowed Legible (earlier a b) := by
  rw [earlier]
  refine Ends.bind (ends_compare first second) fun order _ _ => ends_pure ?_
  split
  · exact second
  · exact first

theorem ends_later {a b : String} (first : Legible a) (second : Legible b) :
    Ends allowed Legible (later a b) := by
  rw [later]
  refine Ends.bind (ends_compare first second) fun order _ _ => ends_pure ?_
  split
  · exact second
  · exact first

theorem ends_minutesBetween {start stop : String} (first : Legible start)
    (last : Legible stop) :
    Ends allowed (fun count => 0 ≤ count ∧ count ≤ 1440) (minutesBetween start stop) := by
  rw [minutesBetween]
  refine Ends.bind (ends_minutes last) fun late _ range => ?_
  refine Ends.bind (ends_minutes first) fun early _ range' => ends_pure ?_
  omega

theorem ends_hours {count : Int} (range : 0 ≤ count ∧ count ≤ 1440) :
    Ends allowed (fun _ => True) (hours count) := by
  obtain ⟨hours', found⟩ := Option.isSome_iff_exists.mp (isSome_hours? range.1 range.2)
  rw [hours, found]
  exact trivial

/-- A time that is asked for is refused, or stored as a time. -/
theorem ends_request (side : Option String) (refuses : ∀ refusal, allowed (.refused refusal)) :
    Ends allowed LegibleSide (request side) := by
  rw [request]
  split
  · exact legibleSide_none
  · refine Ends.map ?_ some fun _ => legibleSide_of_legible
    rw [ofText]
    split
    next time found => exact legible_of_parse? found
    next => exact refuses _

end TimeOfDay

open TimeOfDay (Legible LegibleSide)

/-! ## Slots -/

/-- A slot whose sides are missing, empty or times. -/
structure Slot.Legible (slot : Slot) : Prop where
  start : LegibleSide slot.start
  stop : LegibleSide slot.stop

namespace Slot

theorem ends_ordered {slot : Slot} (legible : slot.Legible) :
    Ends allowed Slot.Legible slot.ordered := by
  rw [ordered]
  split
  next start stop first last =>
    refine Ends.bind (TimeOfDay.ends_compare (legible.start start first)
      (legible.stop stop last)) fun order _ _ => ends_pure ?_
    split
    · exact ⟨legible.stop, legible.start⟩
    · exact legible
  next => exact legible

theorem ends_isEmpty {slot : Slot} (legible : slot.Legible) :
    Ends allowed (fun _ => True) slot.isEmpty := by
  rw [isEmpty]
  split
  next start stop first last =>
    exact Ends.bind (TimeOfDay.ends_compare (legible.start start first)
      (legible.stop stop last)) fun order _ _ => ends_pure trivial
  next => exact trivial

end Slot

/-! ## Windows -/

/-- A window whose bounds are times. -/
structure Window.Legible (window : Window) : Prop where
  opens : ∀ text ∈ window.opens, TimeOfDay.Legible text
  closes : ∀ text ∈ window.closes, TimeOfDay.Legible text

namespace Window

theorem legible_unbounded : unbounded.Legible := by
  refine ⟨?_, ?_⟩ <;> intro text inside <;> cases inside

theorem ends_combine {special weekday : Window} (legible : special.Legible)
    (legible' : weekday.Legible) : Ends allowed Window.Legible (special.combine weekday) := by
  rw [combine]
  split
  next specialOpens specialCloses opens closes =>
    split
    next weekdayOpens weekdayCloses opens' closes' =>
      refine Ends.bind (TimeOfDay.ends_earlier (legible.opens _ opens) (legible'.opens _ opens'))
        fun first _ early => ?_
      refine Ends.bind (TimeOfDay.ends_later (legible.closes _ closes)
        (legible'.closes _ closes')) fun last _ late => ends_pure ⟨?_, ?_⟩
      · intro text inside
        cases inside
        exact early
      · intro text inside
        cases inside
        exact late
    next => exact legible
  next => exact legible'

theorem ends_adjustStart {window : Window} {start : Option String} (legible : window.Legible)
    (first : LegibleSide start) : Ends allowed LegibleSide (window.adjustStart start) := by
  rw [adjustStart]
  split
  next opens bound _ => exact TimeOfDay.legibleSide_of_legible (legible.opens opens bound)
  next opens time bound given =>
    refine Ends.bind (TimeOfDay.ends_compare (first time given) (legible.opens opens bound))
      fun order _ _ => ends_pure (TimeOfDay.legibleSide_of_legible ?_)
    split
    · exact legible.opens opens bound
    · exact first time given
  next => exact TimeOfDay.legibleSide_of_legible TimeOfDay.legible_dayStart
  next time _ given => exact TimeOfDay.legibleSide_of_legible (first time given)

theorem ends_adjustStop {window : Window} {stop : Option String} (legible : window.Legible)
    (last : LegibleSide stop) : Ends allowed LegibleSide (window.adjustStop stop) := by
  rw [adjustStop]
  split
  next closes bound _ => exact TimeOfDay.legibleSide_of_legible (legible.closes closes bound)
  next closes time bound given =>
    refine Ends.bind (TimeOfDay.ends_compare (last time given) (legible.closes closes bound))
      fun order _ _ => ends_pure (TimeOfDay.legibleSide_of_legible ?_)
    split
    · exact legible.closes closes bound
    · exact last time given
  next => exact TimeOfDay.legibleSide_of_legible TimeOfDay.legible_dayEnd
  next time _ given => exact TimeOfDay.legibleSide_of_legible (last time given)

theorem ends_adjust {window : Window} {slot : Slot} (legible : window.Legible)
    (legible' : slot.Legible) : Ends allowed Slot.Legible (window.adjust slot) := by
  rw [adjust]
  split
  · exact legible'
  · refine Ends.bind (ends_adjustStart legible legible'.start) fun start _ first => ?_
    refine Ends.bind (ends_adjustStop legible legible'.stop) fun stop _ last => ?_
    exact ends_pure ⟨first, last⟩

theorem ends_checkLength (leastHours : Nat) {slot : Slot} (legible : slot.Legible)
    (refuses : ∀ refusal, allowed (.refused refusal)) :
    Ends allowed (fun _ => True) (checkLength leastHours slot) := by
  rw [checkLength]
  split
  next start stop first last =>
    have early := legible.start start first
    have late := legible.stop stop last
    refine Ends.bind (TimeOfDay.ends_compare early late) fun order _ _ => ?_
    split
    · exact refuses _
    · split
      · exact trivial
      · refine Ends.bind (TimeOfDay.ends_minutesBetween early late) fun count _ range => ?_
        refine Ends.bind (TimeOfDay.ends_hours range) fun hours _ _ => ?_
        split
        · exact refuses _
        · exact trivial
  next => exact trivial

/-- A slot is fitted into a window or refused. -/
theorem ends_fit (leastHours : Nat) {window : Window} {slot : Slot} (legible : window.Legible)
    (legible' : slot.Legible) (refuses : ∀ refusal, allowed (.refused refusal)) :
    Ends allowed Slot.Legible (window.fit leastHours slot) := by
  rw [fit]
  refine Ends.bind (Slot.ends_ordered legible') fun ordered _ inOrder => ?_
  refine Ends.bind (Slot.ends_isEmpty inOrder) fun empty _ _ => ?_
  split
  · exact refuses _
  · refine Ends.bind (ends_adjust legible inOrder) fun adjusted _ within => ?_
    refine Ends.bind (ends_checkLength leastHours within refuses) fun _ _ _ => ?_
    exact ends_pure within

end Window

/-! ## The hours in common -/

namespace Sweep

theorem ends_feasibleMinutes {slots : List Slot} (legible : ∀ slot ∈ slots, slot.Legible) :
    Ends allowed (fun count => 0 ≤ count ∧ count ≤ 1440) (feasibleMinutes slots) := by
  rw [feasibleMinutes]
  have starts : ∀ text ∈ slots.filterMap fun slot => TimeOfDay.given slot.start,
      Ends allowed (fun count => 0 ≤ count ∧ count ≤ 1439) (TimeOfDay.minutes text) := by
    intro text inside
    obtain ⟨slot, among, given⟩ := List.mem_filterMap.mp inside
    exact TimeOfDay.ends_minutes ((legible slot among).start text given)
  have stops : ∀ text ∈ slots.filterMap fun slot => TimeOfDay.given slot.stop,
      Ends allowed (fun count => 0 ≤ count ∧ count ≤ 1439) (TimeOfDay.minutes text) := by
    intro text inside
    obtain ⟨slot, among, given⟩ := List.mem_filterMap.mp inside
    exact TimeOfDay.ends_minutes ((legible slot among).stop text given)
  refine Ends.bind (ends_mapM starts) fun firsts _ early => ?_
  refine Ends.bind (ends_mapM stops) fun lasts _ late => ?_
  split
  next latest earliest most least =>
    have first := early latest (List.max?_mem most)
    have last := late earliest (List.min?_mem least)
    exact ends_pure (by omega)
  next => exact ends_pure (by omega)

theorem ends_feasibleHours {slots : List Slot} (legible : ∀ slot ∈ slots, slot.Legible) :
    Ends allowed (fun _ => True) (feasibleHours slots) := by
  rw [feasibleHours]
  exact Ends.bind (ends_feasibleMinutes legible) fun _ _ range => TimeOfDay.ends_hours range

end Sweep

end Rendezvous
