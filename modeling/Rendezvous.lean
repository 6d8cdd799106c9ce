import Rendezvous.Api
import Rendezvous.Bus
import Rendezvous.Delivery.Mail
import Rendezvous.Delivery.Webhook
import Rendezvous.Form.Catalogue
import Rendezvous.Form.Loose
import Rendezvous.Journal
import Rendezvous.Proofs.Occurrences
import Rendezvous.Proofs.Sorting
import Rendezvous.Proofs.Merge
import Rendezvous.Proofs.Names
import Rendezvous.Proofs.Decisions
import Rendezvous.Proofs.Changes
import Rendezvous.Proofs.Course
import Rendezvous.Proofs.Vetting
import Rendezvous.Proofs.Uniqueness
import Rendezvous.Proofs.Views
import Rendezvous.Proofs.Crossings
import Rendezvous.Proofs.Spacing
import Rendezvous.Proofs.Failures
import Rendezvous.Proofs.Indifference
import Rendezvous.Proofs.Masking
import Rendezvous.Proofs.Rounds
import Rendezvous.Proofs.Offers
import Rendezvous.Proofs.Doubles
import Rendezvous.Proofs.Fitting
import Rendezvous.Proofs.Escapes
import Rendezvous.Proofs.Confirmation
import Rendezvous.Proofs.Mailboxes
import Rendezvous.Proofs.Sweeps
import Rendezvous.Proofs.Tallies
import Rendezvous.Proofs.Civil
import Rendezvous.Proofs.Daily
import Rendezvous.Proofs.Rounding
import Rendezvous.Proofs.Intervals
import Rendezvous.Proofs.Clipping
import Rendezvous.Proofs.Keeping
import Rendezvous.Proofs.Sharing
import Rendezvous.Proofs.SpecialDays
import Rendezvous.Proofs.Excerpts
import Rendezvous.Proofs.Agreement
import Rendezvous.Proofs.Holdings
import Rendezvous.Proofs.Renaming
import Rendezvous.Proofs.Isolation
import Rendezvous.Proofs.Deeds
import Rendezvous.Proofs.Increments
import Rendezvous.Proofs.Dealings
import Rendezvous.Proofs.Exclusions
import Rendezvous.Proofs.Interchange
import Rendezvous.Proofs.Coverage
import Rendezvous.Proofs.Undoing
import Rendezvous.Proofs.Backlog
import Rendezvous.Proofs.Combining
import Rendezvous.Proofs.Addressees
import Rendezvous.Proofs.Dispatches
import Rendezvous.Proofs.Amendments
import Rendezvous.Proofs.Refitting
import Rendezvous.Proofs.Overlaps
import Rendezvous.Proofs.Broadcasts
import Rendezvous.Proofs.Pages
import Rendezvous.Proofs.Shelves
import Rendezvous.Proofs.TimeTexts
import Rendezvous.Proofs.DateTexts
