import Rendezvous.Form.Answer
import Rendezvous.Web.Url

/-!
# The web interface

A request names an endpoint by the path of its address and an operation by its method.
What the operation needs comes from the path, the query and the body; a form that is at
fault is reported before the operation is performed.
-/

namespace Rendezvous.Api

structure Request where
  method : String
  address : Url
  body : Payload

namespace Request

def home : Url := ⟨"http", "", "service", none, "/", none, none⟩

def schemes : List String := ["http", "https"]

/-- The address with the query that some parameters make, in place of its own. -/
def withParameters (address : Url) (parameters : List (String × String)) :
    Except Failure Url :=
  let query := Text.writeParameters parameters
  if Url.longest < query.length then .error .badAddress
  else .ok { address with
    query := if parameters.isEmpty then none else some (String.ofList query) }

/-- A request to an address, or to a path of the service.  Parameters that are given take the
place of the query. -/
def make (method address : String) (parameters : Option (List (String × String)))
    (body : Payload) : Except Failure Request := do
  let address ← Url.resolve home address
  let address ← match parameters with
    | some parameters => withParameters address parameters
    | none => pure address
  if !body.isFinite then .error .unreadable
  else if schemes.contains address.scheme then pure ⟨Text.upper method, address, body⟩
  else .error .unknownScheme

end Request

/-- What a request is answered with: a status and a body, or the faults of its form. -/
inductive Reply where
  | answered (status : Nat) (body : Payload)
  | invalid (faults : List Fault)

inductive Endpoint where
  | availabilities (token participantId : String)
  | availability (token participantId day : String)
  | dateSummary (token day : String)
  | rangeSummary (token : String)
  | busyTimes (token day : String)
  | recurrences (token participantId : String)
  | recurrence (token participantId recurrenceId : String)
  | exclusions (token participantId recurrenceId : String)
  | exclusion (token participantId recurrenceId day : String)
  | email (token participantId : String)
  | resend (token participantId : String)
  | verification (token : String)
  | cleanup
deriving DecidableEq

namespace Endpoint

def ofCalendarPath? (token : String) : List String → Option Endpoint
  | ["participants", participantId, "availabilities"] => some (.availabilities token participantId)
  | ["participants", participantId, "availabilities", day] =>
      some (.availability token participantId day)
  | ["availabilities", "date", day] => some (.dateSummary token day)
  | ["availabilities", "range"] => some (.rangeSummary token)
  | ["availabilities", "date", day, "threshold-windows"] => some (.busyTimes token day)
  | ["participants", participantId, "recurrences"] => some (.recurrences token participantId)
  | ["participants", participantId, "recurrences", recurrenceId] =>
      some (.recurrence token participantId recurrenceId)
  | ["participants", participantId, "recurrences", recurrenceId, "exceptions"] =>
      some (.exclusions token participantId recurrenceId)
  | ["participants", participantId, "recurrences", recurrenceId, "exceptions", day] =>
      some (.exclusion token participantId recurrenceId day)
  | ["participants", participantId, "email"] => some (.email token participantId)
  | ["participants", participantId, "email", "resend"] => some (.resend token participantId)
  | _ => none

def ofParts? : List String → Option Endpoint
  | "api" :: "v1" :: "calendars" :: token :: rest => ofCalendarPath? token rest
  | ["api", "v1", "participants", "verify-email", token] => some (.verification token)
  | ["api", "v1", "maintenance", "notification-log", "cleanup"] => some .cleanup
  | _ => none

/-- The parts of a path without the line feed that may end the last of them. -/
def withoutLineFeed (parts : List String) : List String :=
  match parts.getLast? with
  | some last =>
      parts.dropLast ++ [String.ofList (TimeOfDay.withoutLineFeed last.toList)]
  | none => []

/-- The endpoint of a path, of which no part is empty.  A line feed at the end is passed over
where it is not part of a name. -/
def ofPath? (path : List Char) : Option Endpoint :=
  match (path.splitOn '/').map String.ofList with
  | "" :: parts =>
      if parts.contains "" then none
      else (ofParts? parts).or (ofParts? (withoutLineFeed parts))
  | _ => none

end Endpoint

/-! ## Routes -/

/-- The path of an address, whose escapes are replaced twice on the way to the service. -/
def pathOf (address : Url) : List Char :=
  Text.percentUnescape (Text.percentUnescape address.rootedPath)

def isForwardSafe (c : Char) : Bool :=
  Text.isUnreserved c || ":/%#?=@[]!$&'()*+,".toList.contains c

/-- The address that a request is sent on to, with another path.  It is read anew. -/
def forward (address : Url) (path : List Char) : Except Failure Url :=
  let query := match address.query with
    | some query => if query = "" then [] else '?' :: query.toList
    | none => []
  Url.parse (String.ofList (Text.percentEscape isForwardSafe
    ((address.scheme ++ "://" ++ address.netloc).toList ++ path ++ query)))

def mostForwards : Nat := 20

/-- The endpoint of an address, and the address after the request was sent on `fuel` times at
most.  A request is sent on where only the slashes at its end keep it from an endpoint. -/
def route? : Nat → Url → Option (Endpoint × Url)
  | 0, address => (Endpoint.ofPath? (pathOf address)).map fun endpoint => (endpoint, address)
  | fuel + 1, address =>
      let path := pathOf address
      let short := Text.trimEnd (· = '/') path
      match Endpoint.ofPath? path with
      | some endpoint => some (endpoint, address)
      | none =>
          if path.getLast? = some '/' && (Endpoint.ofPath? short).isSome then
            match forward address short with
            | .ok address => route? fuel address
            | .error _ => none
          else
            none

/-- An operation to perform, the status if it succeeds, and how its answer is written. -/
structure Call where
  operation : Checked Operation
  status : Nat
  write : Answer → Payload

def Request.read {α : Type} (request : Request) (form : Form α) (preset : Preset) : Checked α :=
  match request.body with
  | .null => (Checked.fault .missing).within "body"
  | payload => (form.body preset payload).within "body"

/-- A parameter of the query; of two with one name the later counts. -/
def Request.parameter? (request : Request) (name : String) : Option String :=
  let parameters := Text.readParameters ((request.address.query.getD "").toList)
  (parameters.reverse.find? fun parameter => parameter.1 = name).map (·.2)

def Request.parameter (request : Request) (name : String) : Checked String :=
  match request.parameter? name with
  | some value => .valid value
  | none => ((Checked.fault .missing).within name).within "query"

/-- What others may know of the participant an answer is about. -/
def profile : Answer → Payload
  | .participant participant => Profile.form.payload (.of participant)
  | answer => answer.payload

def confirmation : Answer → Payload
  | .participant participant =>
      .record [("participant_id", .text participant.id), ("email_verified", .flag true)]
  | answer => answer.payload

def removal (answer : Answer) : Payload :=
  .record [("removed", answer.payload)]

/-- The call that a method makes of an endpoint, if the endpoint knows the method. -/
def call? (preset : Preset) (request : Request) (endpoint : Endpoint) : Option Call :=
  match endpoint, request.method with
  | .availabilities token participantId, "POST" =>
      some ⟨(request.read AvailabilityRequest.form preset).map
        (.createAvailability token participantId), 201, Answer.payload⟩
  | .availabilities token participantId, "GET" =>
      some ⟨.valid (.listAvailabilities token participantId (request.parameter? "start_date")
        (request.parameter? "end_date")), 200, Answer.payload⟩
  | .availability token participantId day, "PATCH" =>
      some ⟨(request.read AvailabilityPatch.form preset).map
        (.updateAvailability token participantId day), 200, Answer.payload⟩
  | .availability token participantId day, "DELETE" =>
      some ⟨.valid (.deleteAvailability token participantId day), 204, Answer.payload⟩
  | .dateSummary token day, "GET" =>
      some ⟨.valid (.dateSummary token day), 200, Answer.payload⟩
  | .rangeSummary token, "GET" =>
      some ⟨(fun start stop =>
          Operation.rangeSummary token start stop (request.parameter? "participant_id"))
        <$> request.parameter "start" <*> request.parameter "end", 200, Answer.payload⟩
  | .busyTimes token day, "GET" =>
      some ⟨.valid (.busyTimes token day), 200, Answer.payload⟩
  | .recurrences token participantId, "POST" =>
      some ⟨(request.read RecurrenceRequest.form preset).map
        (.createRecurrence token participantId), 201, Answer.payload⟩
  | .recurrences token participantId, "GET" =>
      some ⟨.valid (.listRecurrences token participantId), 200, Answer.payload⟩
  | .recurrence token participantId recurrenceId, "PUT" =>
      some ⟨(request.read RecurrenceRequest.form preset).map
        (.updateRecurrence token participantId recurrenceId), 200, Answer.payload⟩
  | .recurrence token participantId recurrenceId, "DELETE" =>
      some ⟨.valid (.deleteRecurrence token participantId recurrenceId), 204, Answer.payload⟩
  | .exclusions token participantId recurrenceId, "POST" =>
      some ⟨(request.read ExclusionRequest.form preset).map
        (.createExclusion token participantId recurrenceId), 201, Answer.payload⟩
  | .exclusion token participantId recurrenceId day, "DELETE" =>
      some ⟨.valid (.deleteExclusion token participantId recurrenceId day), 204, Answer.payload⟩
  | .email token participantId, "POST" =>
      some ⟨(request.read EmailRequest.form preset).map fun given =>
        .addEmail token participantId given.email, 200, profile⟩
  | .resend token participantId, "POST" =>
      some ⟨.valid (.resendVerification token participantId), 200, profile⟩
  | .verification token, "POST" => some ⟨.valid (.verifyEmail token), 200, confirmation⟩
  | .cleanup, "POST" => some ⟨.valid .cleanup, 200, removal⟩
  | _, _ => none

def detail (text : String) : Payload := .record [("detail", .text text)]

/-- The reply to an operation that failed.  Callers learn only of refusals. -/
def Reply.ofFailure : Failure → Reply
  | .refused refusal => .answered refusal.kind.status (detail refusal.message)
  | _ => .answered 500 .null

def Reply.ofOutcome (call : Call) : Except Failure Answer → Reply
  | .ok answer => .answered call.status (call.write answer)
  | .error failure => .ofFailure failure

/-- The reply to a request that nothing is performed for.  A request for the head alone gets
no body. -/
def Reply.unanswered (request : Request) (status : Nat) (text : String) : Reply :=
  .answered status (if request.method = "HEAD" then .null else detail text)

def respond (surroundings : Surroundings) (preset : Preset) (board : Board)
    (request : Request) : Step Reply :=
  match route? mostForwards request.address with
  | none => .answer board (.unanswered request 404 "Not Found")
  | some (endpoint, address) =>
      match call? preset { request with address := address } endpoint with
      | none => .answer board (.unanswered request 405 "Method Not Allowed")
      | some call =>
          match call.operation with
          | .faulty faults => .answer board (.invalid faults)
          | .valid operation =>
              let step := board.perform surroundings operation
              ⟨.ok (.ofOutcome call step.outcome), step.board, step.events, step.transitions,
                step.attempts⟩

end Rendezvous.Api
