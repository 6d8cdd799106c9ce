import Rendezvous.Board.Operation
import Rendezvous.Form.Exchange

/-!
# Answers as payloads
-/

namespace Rendezvous

def Answer.payload : Answer → Payload
  | .done => .null
  | .receipt value => Receipt.form.payload value
  | .schedule value => Schedule.form.payload value
  | .summary value => DaySummary.form.payload value
  | .summaries values => DaySummary.form.payloads values
  | .busyTimes values => BusyTime.form.payloads values
  | .recurrence value => Recurrence.form.payload value
  | .recurrences values => RecurrenceListing.form.payloads values
  | .exclusion value => Exclusion.form.payload value
  | .participant value =>
      .record (Fields.without (Participant.form.write value) ["created_at"])
  | .transition value => .optional Transition.form.payload value
  | .number value => .ofNat value
  | .instant value => .text value.iso

end Rendezvous
