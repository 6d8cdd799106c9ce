import Mathlib.Data.List.Induction
import Mathlib.Data.List.Nodup
import Rendezvous.Holiday

/-!
# Shelves of holiday tables

An almanac is told by the countries that it has been asked about: it holds what each of them
has, or that it has none, and has loaded each when it was first asked about.  So whatever is
looked up, and in whatever order, the shelf shows in no answer.
-/

namespace Rendezvous.Almanac

/-- One more country is distinct from the rest, or has been there before. -/
theorem eraseDups_concat (asked : List String) (country : String) :
    (asked ++ [country]).eraseDups
      = if country ∈ asked then asked.eraseDups else asked.eraseDups ++ [country] := by
  rw [List.eraseDups_append]
  by_cases known : country ∈ asked
  · simp [List.removeAll, known]
  · simp [List.removeAll, known, List.eraseDups_cons]

theorem nodup_eraseDups (asked : List String) : asked.eraseDups.Nodup := by
  induction asked using List.reverseRecOn with
  | nil => simp
  | append_singleton asked country ih =>
    rw [eraseDups_concat]
    split
    next => exact ih
    next unknown =>
      have unseen : country ∉ asked.eraseDups := by simpa using unknown
      simpa using List.Nodup.concat unseen ih

section

variable (load : String → Option HolidayTable)

/-- The almanac that has been asked about some countries, one after another. -/
def stocked (asked : List String) : Almanac where
  shelf := asked.eraseDups.map fun country => (country, load country)
  loads := asked.eraseDups

@[simp] theorem stocked_nil : stocked load [] = empty := rfl

/-- A country that is among those on the shelf is found there, with what it has. -/
theorem find?_entries (countries : List String) (country : String) :
    ((countries.map fun country => (country, load country)).find? fun entry => entry.1 = country)
      = if country ∈ countries then some (country, load country) else none := by
  induction countries with
  | nil => rfl
  | cons other countries ih =>
    by_cases same : other = country
    · simp [same]
    · simp [same, Ne.symm same, ih]

theorem table_stocked (asked : List String) (country : String) :
    (stocked load asked).table load country = (load country, stocked load (asked ++ [country])) := by
  rw [table, stocked, find?_entries]
  by_cases known : country ∈ asked
  · simp [known, stocked, eraseDups_concat]
  · simp [known, stocked, eraseDups_concat]

theorem name?_stocked (asked : List String) (country : String) (day : Date) :
    (stocked load asked).name? load country day
      = ((load country).bind fun table => table.name? day, stocked load (asked ++ [country])) := by
  simp only [name?, table_stocked]

/-- Look-ups are answered from the tables themselves, and leave the almanac of all that has been
asked. -/
theorem names_stocked (asked : List String) (lookups : List (String × Date)) :
    names load (stocked load asked) lookups
      = (lookups.map fun lookup => (load lookup.1).bind fun table => table.name? lookup.2,
          stocked load (asked ++ lookups.map Prod.fst)) := by
  induction lookups generalizing asked with
  | nil => simp [names]
  | cons lookup lookups ih =>
    obtain ⟨country, day⟩ := lookup
    simp only [names, name?_stocked, ih, List.map_cons, List.append_assoc, List.singleton_append]

/-- An almanac that starts with an empty shelf answers every look-up as a table loaded for it
alone would, and not at all for a country without one; it loads the countries that it is asked
about, with and without a table, once each and in the order in which they first come up. -/
theorem shelf_is_transparent (lookups : List (String × Date)) :
    (names load empty lookups).1
        = lookups.map (fun lookup => (load lookup.1).bind fun table => table.name? lookup.2)
      ∧ (names load empty lookups).2.loads = (lookups.map Prod.fst).eraseDups
      ∧ (names load empty lookups).2.loads.Nodup := by
  have run := names_stocked load [] lookups
  rw [stocked_nil, List.nil_append] at run
  rw [run]
  exact ⟨rfl, rfl, nodup_eraseDups _⟩

end

end Rendezvous.Almanac
