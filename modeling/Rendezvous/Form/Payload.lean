import Rendezvous.Double

/-!
# Payloads

A payload is a value of a document: what a request carries and what an answer is
written in.
-/

namespace Rendezvous

inductive Payload where
  | null
  | flag (value : Bool)
  | integer (value : Int)
  | real (value : Double)
  | text (value : String)
  | list (items : List Payload)
  | record (fields : List (String × Payload))
deriving Inhabited

abbrev Fields := List (String × Payload)

namespace Fields

def value? (fields : Fields) (name : String) : Option Payload :=
  (fields.find? fun field => field.1 = name).map (·.2)

@[simp] theorem value?_nil (name : String) : value? [] name = none := rfl

@[simp] theorem value?_cons (field : String × Payload) (fields : Fields) (name : String) :
    value? (field :: fields) name =
      if field.1 = name then some field.2 else value? fields name := by
  by_cases same : field.1 = name <;> simp [value?, same]

/-- The names, each of them once, in ascending order. -/
def names (fields : Fields) : List String :=
  ((fields.map (·.1)).mergeSort fun a b => !(b < a)).eraseDups

def without (fields : Fields) (names : List String) : Fields :=
  fields.filter fun field => !names.contains field.1

end Fields

namespace Payload

def optional {α : Type} (write : α → Payload) : Option α → Payload
  | some value => write value
  | none => .null

def optionalText (value : Option String) : Payload :=
  optional .text value

def ofNat (n : Nat) : Payload := .integer n

mutual

def isFinite : Payload → Bool
  | .real value => value.isFinite
  | .list items => areFinite items
  | .record fields => areFieldsFinite fields
  | _ => true

def areFinite : List Payload → Bool
  | [] => true
  | item :: items => isFinite item && areFinite items

def areFieldsFinite : List (String × Payload) → Bool
  | [] => true
  | (_, value) :: fields => isFinite value && areFieldsFinite fields

end

/-- Null, no, nought, and what is empty. -/
def isVacant : Payload → Bool
  | .null => true
  | .flag value => !value
  | .integer value => value = 0
  | .real value => value.isZero
  | .text value => value = ""
  | .list items => items.isEmpty
  | .record fields => fields.isEmpty

end Payload

end Rendezvous
