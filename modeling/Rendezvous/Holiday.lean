import Rendezvous.Failure
import Rendezvous.Zone

/-!
# Public holidays

Holidays are looked up by country and day, and the country of a calendar by its time zone.
A table can be consulted with or without regard to the case of country codes, and an
almanac keeps the tables it has asked for, so that each country is asked for once.
-/

namespace Rendezvous

/-- Which time zones lie in which countries, and the names of the days that are public
holidays there. -/
structure Holidays where
  zones : Zone.Table
  named : String → Date → Option String

abbrev HolidayTable := List (Date × String)

namespace HolidayTable

/-- The name of a day; of two entries for one day the later counts. -/
def name? (table : HolidayTable) (day : Date) : Option String :=
  (table.reverse.find? fun entry => entry.1 = day).map (·.2)

end HolidayTable

namespace Holidays

/-- Named days by country code; of two tables for one code the later counts. -/
def ofTables (tables : List (String × HolidayTable)) : Holidays where
  zones := Zone.countries
  named country day :=
    (tables.reverse.find? fun entry => entry.1 = country).bind fun entry => entry.2.name? day

def ofTablesAnyCase (tables : List (String × HolidayTable)) : Holidays where
  zones := Zone.countries
  named country := (ofTables (tables.map fun entry => (Text.upper entry.1, entry.2))).named
    (Text.upper country)

def name? (holidays : Holidays) (country : String) (day : Date) : Option String :=
  if country = "" then none else holidays.named country day

def isHoliday (holidays : Holidays) (country : String) (day : Date) : Bool :=
  (holidays.name? country day).isSome

def isEve (holidays : Holidays) (country : String) (day : Date) : Except Failure Bool :=
  match day.next? with
  | some following => .ok (holidays.isHoliday country following)
  | none => .error .beyondCalendar

end Holidays

/-- The tables asked for so far, `none` for a country without one, and the order in
which they were asked for. -/
structure Almanac where
  shelf : List (String × Option HolidayTable)
  loads : List String

namespace Almanac

def empty : Almanac := ⟨[], []⟩

/-- The table of a country, asked for unless it is on the shelf. -/
def table (load : String → Option HolidayTable) (almanac : Almanac) (country : String) :
    Option HolidayTable × Almanac :=
  match almanac.shelf.find? fun entry => entry.1 = country with
  | some entry => (entry.2, almanac)
  | none =>
      let loaded := load country
      (loaded, ⟨almanac.shelf ++ [(country, loaded)], almanac.loads ++ [country]⟩)

def name? (load : String → Option HolidayTable) (almanac : Almanac) (country : String)
    (day : Date) : Option String × Almanac :=
  let (table, later) := almanac.table load country
  (table.bind fun days => days.name? day, later)

def names (load : String → Option HolidayTable) :
    Almanac → List (String × Date) → List (Option String) × Almanac
  | almanac, [] => ([], almanac)
  | almanac, (country, day) :: lookups =>
      let (name, almanac) := almanac.name? load country day
      let (names, almanac) := names load almanac lookups
      (name :: names, almanac)

end Almanac

end Rendezvous
