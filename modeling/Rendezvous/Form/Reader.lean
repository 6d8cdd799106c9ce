import Rendezvous.Form.Moment

/-!
# Readers

A reader turns a value of a document into a value of the library.  Readers are lenient
where nothing is lost: whole numbers may be written as texts, as fractions of nought or as
yes and no, and yes and no in several words.
-/

namespace Rendezvous

abbrev Reader (α : Type) := Payload → Checked α

namespace Reader

variable {α : Type}

def text : Reader String
  | .text value => .valid value
  | _ => .fault .text

/-- A text whose length in characters lies between two bounds. -/
def textBetween (low high : Nat) : Reader String := fun payload =>
  (text payload).bind fun value =>
    if value.length < low then .fault .textTooShort
    else if high < value.length then .fault .textTooLong
    else .valid value

/-- Machine words are below this, and not below its negative. -/
def wordBound : Int := 9223372036854775808

/-- Whether a double may stand for an integer: between the bounds of machine words. -/
def isMachineSized (x : Double) : Bool :=
  x.isFinite && -wordBound * Double.one < x.units && x.units < wordBound * Double.one

def integerOfDouble (x : Double) : Checked Int :=
  if !x.isFinite then .fault .finiteNumber
  else
    match x.whole? with
    | some whole => if isMachineSized x then .valid whole else .fault .integerSize
    | none => .fault .wholeNumber

def integer : Reader Int
  | .integer value => .valid value
  | .flag value => .valid (if value then 1 else 0)
  | .real value => integerOfDouble value
  | .text value => Number.integer value
  | _ => .fault .integer

def atLeast (low : Nat) : Reader { n : Nat // low ≤ n } := fun payload =>
  (integer payload).bind fun value =>
    if value < 0 then .fault .tooSmall
    else if enough : low ≤ value.toNat then .valid ⟨value.toNat, enough⟩
    else .fault .tooSmall

def between (low high : Nat) : Reader Nat := fun payload =>
  (integer payload).bind fun value =>
    if value < low then .fault .tooSmall
    else if high < value then .fault .tooLarge
    else .valid value.toNat

def weekday : Reader Weekday := fun payload =>
  (between 0 6 payload).map (Fin.ofNat 7)

def flagWords : List (String × Bool) :=
  [("1", true), ("t", true), ("true", true), ("y", true), ("yes", true), ("on", true),
    ("0", false), ("f", false), ("false", false), ("n", false), ("no", false), ("off", false)]

/-- One and nought stand for yes and no; integers too large for a machine word stand for
nothing. -/
def flagOfInteger (value : Int) : Checked Bool :=
  if value = 1 then .valid true
  else if value = 0 then .valid false
  else if -wordBound ≤ value ∧ value < wordBound then .fault .flagText
  else .fault .flag

def flag : Reader Bool
  | .flag value => .valid value
  | .integer value => flagOfInteger value
  | .real value =>
      match value.whole? with
      | some whole => if isMachineSized value then flagOfInteger whole else .fault .flag
      | none => .fault .flag
  | .text value =>
      match flagWords.lookup (String.ofList (value.toList.map Char.toLower)) with
      | some answer => .valid answer
      | none => .fault .flagText
  | _ => .fault .flag

def double : Reader Double
  | .real value => .valid value
  | .integer value =>
      match Double.ofInt? value with
      | some number => .valid number
      | none => .fault .number
  | .flag value => .valid (.ofNat value.toNat)
  | .text value =>
      match Number.double? value with
      | some number => .valid number
      | none => .fault .numberText
  | _ => .fault .number

def date : Reader Date := Moment.date

def instant : Reader Instant := Moment.instant

def choice (values : List α) (name : α → String) : Reader α
  | .text value =>
      match values.find? fun candidate => name candidate = value with
      | some found => .valid found
      | none => .fault .choice
  | _ => .fault .choice

def optional (read : Reader α) : Reader (Option α)
  | .null => .valid none
  | payload => (read payload).map some

/-- Items whose faults are found at their positions. -/
def items (read : Reader α) : Nat → List Payload → List (Checked α)
  | _, [] => []
  | index, item :: rest => (read item).within (toString index) :: items read (index + 1) rest

def list (read : Reader α) : Reader (List α)
  | .list payloads => .all (items read 0 payloads)
  | _ => .fault .list

/-- The key and the value of an entry, whose faults are found under the key. -/
def entry (read : Reader α) (field : String × Payload) : Checked (Int × α) :=
  let key := (Number.integer field.1).within "[key]"
  (Prod.mk <$> key <*> read field.2).within field.1

/-- Puts an entry in the place of the one with its key, or at the end. -/
def putEntry (entries : List (Int × α)) (entry : Int × α) : List (Int × α) :=
  if entries.any (·.1 = entry.1) then
    entries.map fun present => if present.1 = entry.1 then entry else present
  else
    entries ++ [entry]

/-- Values by integer keys; of two spellings of one key the later value counts. -/
def byInteger (read : Reader α) : Reader (List (Int × α))
  | .record fields => (Checked.all (fields.map (entry read))).map fun entries =>
      entries.foldl putEntry []
  | _ => .fault .map

end Reader

namespace Fields

variable {α : Type}

def required (fields : Fields) (name : String) (read : Reader α) : Checked α :=
  match fields.value? name with
  | some value => (read value).within name
  | none => (Checked.fault .missing).within name

/-- A field with a value to use where it is missing. -/
def defaulted (fields : Fields) (name : String) (absent : α) (read : Reader α) : Checked α :=
  match fields.value? name with
  | some value => (read value).within name
  | none => .valid absent

def nullable (fields : Fields) (name : String) (read : Reader α) : Checked (Option α) :=
  fields.defaulted name none (Reader.optional read)

/-- A field that may be missing, which is not the same as being null. -/
def given (fields : Fields) (name : String) (read : Reader α) : Checked (Option (Option α)) :=
  fields.defaulted name none fun payload => (Reader.optional read payload).map some

end Fields

end Rendezvous
