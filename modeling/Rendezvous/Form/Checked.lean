import Rendezvous.Failure

/-!
# Checked values

A check ends in a value or in faults.  Checks that do not depend on each other are
combined so that the faults of all of them are kept.
-/

namespace Rendezvous

inductive Checked (α : Type) where
  | valid (value : α)
  | faulty (faults : List Fault)

namespace Checked

variable {α β : Type}

def map (f : α → β) : Checked α → Checked β
  | .valid value => .valid (f value)
  | .faulty faults => .faulty faults

/-- Both checks, with the faults of the first before those of the second. -/
def combine (f : Checked (α → β)) (a : Checked α) : Checked β :=
  match f, a with
  | .valid f, .valid a => .valid (f a)
  | .valid _, .faulty faults => .faulty faults
  | .faulty faults, .valid _ => .faulty faults
  | .faulty faults, .faulty more => .faulty (faults ++ more)

instance : Applicative Checked where
  map := map
  pure := .valid
  seq f a := combine f (a ())

instance : LawfulApplicative Checked where
  map_const := rfl
  id_map a := by cases a <;> rfl
  seqLeft_eq a b := by cases a <;> cases b <;> rfl
  seqRight_eq a b := by cases a <;> cases b <;> rfl
  pure_seq f a := by cases a <;> rfl
  map_pure f a := rfl
  seq_pure f a := by cases f <;> rfl
  seq_assoc a f g := by
    cases a <;> cases f <;> cases g <;> simp [Seq.seq, Functor.map, combine, map]

def fault (kind : FaultKind) : Checked α := .faulty [⟨[], kind⟩]

def within (name : String) : Checked α → Checked α
  | .valid value => .valid value
  | .faulty faults => .faulty (faults.map (·.within name))

def bind (check : Checked α) (next : α → Checked β) : Checked β :=
  match check with
  | .valid value => next value
  | .faulty faults => .faulty faults

def all : List (Checked α) → Checked (List α)
  | [] => .valid []
  | check :: rest => List.cons <$> check <*> all rest

def toExcept : Checked α → Except Failure α
  | .valid value => .ok value
  | .faulty faults => .error (.invalid faults)

end Checked

end Rendezvous
