import Rendezvous.Failure
import Rendezvous.Form.Payload
import Rendezvous.Text.Case

/-!
# The journal

Lines are written to the journal at a level and under the name of a source.  A line is
kept if its level reaches the threshold of its source.  The sources of the web client
have a threshold of their own.
-/

namespace Rendezvous.Journal

inductive Level where
  | debug
  | info
  | warning
  | error
  | critical
deriving DecidableEq

namespace Level

def name : Level → String
  | .debug => "debug"
  | .info => "info"
  | .warning => "warning"
  | .error => "error"
  | .critical => "critical"

def rank : Level → Nat
  | .debug => 10
  | .info => 20
  | .warning => 30
  | .error => 40
  | .critical => 50

end Level

/-- A way of writing: the level, and whether a trace of the present error follows. -/
structure Manner where
  level : Level
  traced : Bool
deriving DecidableEq

/-- The manner that goes by a word; some words mean the same. -/
def Manner.ofWord? : String → Option Manner
  | "debug" => some ⟨.debug, false⟩
  | "info" => some ⟨.info, false⟩
  | "warning" | "warn" => some ⟨.warning, false⟩
  | "error" => some ⟨.error, false⟩
  | "exception" => some ⟨.error, true⟩
  | "critical" | "fatal" => some ⟨.critical, false⟩
  | _ => none

/-- The rank that a configured threshold names, whatever the case of its letters; an
unknown name means the level of information.  Two words name other things than ranks. -/
def threshold (name : String) : Except Failure Nat :=
  let name := Text.upper name
  if name = "NOTSET" then .ok 0
  else if name = "DEBUG" then .ok 10
  else if name = "WARN" ∨ name = "WARNING" then .ok 30
  else if name = "ERROR" then .ok 40
  else if name = "CRITICAL" ∨ name = "FATAL" then .ok 50
  else if name = "BASIC_FORMAT" then .error .unreadable
  else if name = "_STYLES" then .error .notText
  else .ok 20

/-- A source is part of another if it is that one, or below it after a point. -/
def within (parent source : String) : Bool :=
  source = parent || (parent.toList ++ ['.']).isPrefixOf source.toList

/-- The rank that a line of a source has to reach to be kept, where others have to reach a
general one. -/
def thresholdOf (general : Nat) (source : String) : Nat :=
  if within "httpx" source || within "httpcore" source then Level.warning.rank else general

structure Line where
  source : String
  manner : Manner
  event : Payload
  fields : Fields

/-- A source without a name is the root of all. -/
def sourceName (source : String) : String :=
  if source = "" then "root" else source

/-- Names that the fields of a line cannot have, as the journal is called with them. -/
def takenNames : List String := ["self", "event", "method_name"]

/-- A line as it is written, its time aside.  The names of its own fields give way to those
that every line has. -/
def Line.payload (line : Line) : Fields :=
  Fields.without line.fields ["exc_info", "level", "logger", "timestamp"]
    ++ (match line.event with
      | .null => []
      | event => [("event", event)])
    ++ [("level", .text line.manner.level.name), ("logger", .text (sourceName line.source))]

inductive Entry where
  | line (fields : Fields)
  | trace (text : String)

/-- The trace where there is no present error. -/
def emptyTrace : String := "NoneType: None"

def Line.entries (line : Line) : List Entry :=
  .line line.payload :: if line.manner.traced then [.trace emptyTrace] else []

def write (configured : String) (lines : List Line) : Except Failure (List Entry) := do
  let general ← threshold configured
  if lines.any fun line => line.fields.any fun field => takenNames.contains field.1 then
    .error .clash
  else
    pure ((lines.filter fun line =>
      thresholdOf general line.source ≤ line.manner.level.rank).flatMap Line.entries)

end Rendezvous.Journal
