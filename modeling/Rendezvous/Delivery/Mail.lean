import Rendezvous.Delivery.Header
import Rendezvous.Delivery.Message
import Rendezvous.Settings

/-!
# Mail sessions

A letter is handed over in a session: connect, secure the connection unless it is
secure from the start, log in if there is a name to log in with, send, and quit.  A
session that breaks off once the connection stands is quit as well.  So is one whose letter
has a header that cannot go out, which shows before anything is sent.
-/

namespace Rendezvous

structure LetterHead where
  subject : String
  sender : String
  address : String
deriving DecidableEq

def LetterHead.of (sender : String) (letter : Letter) : Except Failure LetterHead := do
  Header.check letter.subject
  Header.check sender
  Header.check letter.address
  pure ⟨← Header.received letter.subject, ← Header.received sender,
    ← Header.received letter.address⟩

inductive MailCall where
  | connect (secure : Bool) (host : String) (port : Int) (timeout : Double)
  | secure
  | logIn (user password : String)
  | send (sender address : String) (head : LetterHead) (body : String)
  | quit

/-- The steps at which a session can break off. -/
inductive MailStage where
  | connect
  | secure
  | logIn
  | send
deriving DecidableEq

def MailCall.stage? : MailCall → Option MailStage
  | .connect .. => some .connect
  | .secure => some .secure
  | .logIn .. => some .logIn
  | .send .. => some .send
  | .quit => none

/-- Why a session breaks off: the connection fails, or something that nobody expects. -/
inductive MailTrouble where
  | transport (reason : String)
  | other (failure : Failure)
deriving DecidableEq

structure MailFault where
  stage : MailStage
  trouble : MailTrouble
deriving DecidableEq

namespace MailSession

def opening (settings : Settings) (host : String) : List MailCall :=
  .connect settings.smtpUseSsl host settings.smtpPort settings.externalTimeout
    :: if settings.smtpUseTls && !settings.smtpUseSsl then [.secure] else []

def entry (settings : Settings) : List MailCall :=
  match settings.smtpUsername.filter (· ≠ "") with
  | some user => [.logIn user (settings.smtpPassword.getD "")]
  | none => []

/-- The steps up to the one that breaks off, or all of them. -/
def upTo (stage : MailStage) : List MailCall → List MailCall
  | [] => []
  | call :: rest => if call.stage? = some stage then [call] else call :: upTo stage rest

def trouble? (fault : Option MailFault) (calls : List MailCall) : Option MailFault :=
  fault.filter fun fault => calls.any fun call => call.stage? = some fault.stage

def failure (address : String) : MailTrouble → Failure
  | .transport reason => .undelivered (.mailFailed address reason)
  | .other failure => failure

def business (settings : Settings) (sender : String) (letter : Letter)
    (fault : Option MailFault) : List MailCall × Except Failure Unit :=
  let entry := entry settings
  match trouble? fault entry, LetterHead.of sender letter with
  | some fault, _ => (entry, .error (failure letter.address fault.trouble))
  | none, .error failure => (entry, .error failure)
  | none, .ok head =>
      let sending := [.send sender letter.address head letter.body]
      (entry ++ sending,
        match trouble? fault sending with
        | some fault => .error (failure letter.address fault.trouble)
        | none => .ok ())

def run (settings : Settings) (letter : Letter) (fault : Option MailFault) :
    List MailCall × Except Failure Unit :=
  match settings.smtpHost.filter (· ≠ ""), settings.smtpFrom.filter (· ≠ "") with
  | some host, some sender =>
      let opening := opening settings host
      match trouble? fault opening with
      | some fault => (upTo fault.stage opening, .error (failure letter.address fault.trouble))
      | none =>
          let (calls, outcome) := business settings sender letter fault
          (opening ++ calls ++ [.quit], outcome)
  | _, _ => ([], .error (.undelivered .mailNotConfigured))

end MailSession

end Rendezvous
