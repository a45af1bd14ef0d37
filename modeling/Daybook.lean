import Daybook.Database.Visit
import Daybook.Main
import Daybook.Wire.Reply
import Daybook.Proofs.Calendar.Fields
import Daybook.Proofs.Calendar.Reading
import Daybook.Proofs.Calendar.Order
import Daybook.Proofs.Text.Encoding
import Daybook.Proofs.Text.Lines
import Daybook.Proofs.Note.Recovery
import Daybook.Proofs.Disk.Files
import Daybook.Proofs.Text.Lower
import Daybook.Proofs.Note.Search
import Daybook.Proofs.Note.Log
import Daybook.Proofs.Note.Torn
import Daybook.Proofs.Database.Lasting
import Daybook.Proofs.Database.Counting
import Daybook.Proofs.Reminder.Row
import Daybook.Proofs.Daemon.Failure
import Daybook.Proofs.Daemon.Titles
import Daybook.Proofs.Disk.Paths
import Daybook.Proofs.Database.Standing
import Daybook.Proofs.Database.Using
import Daybook.Proofs.Database.Founding
import Daybook.Proofs.Store.Lasting
import Daybook.Proofs.Store.Holding
import Daybook.Proofs.Store.Opening
import Daybook.Proofs.Task.Ledger
import Daybook.Proofs.Numbering
import Daybook.Proofs.Reminder.Ledger
import Daybook.Proofs.Store.Session
import Daybook.Proofs.Store.Refinement
import Daybook.Proofs.Daemon.Serving
import Daybook.Proofs.Wire.Reply
import Daybook.Proofs.Daemon.Families
import Daybook.Proofs.Database.Sharing
import Daybook.Proofs.Daemon.Breaking
import Daybook.Proofs.Daemon.Endings
import Daybook.Proofs.Note.Growth
import Daybook.Proofs.Daemon.Growth
import Daybook.Proofs.Daemon.Reporting
import Daybook.Proofs.Except
import Daybook.Proofs.Listing
import Daybook.Proofs.Store.Listing
import Daybook.Proofs.Daemon.Listing
import Daybook.Proofs.Json.Canonical
import Daybook.Proofs.Json.Numerals
import Daybook.Proofs.Json.Steps
import Daybook.Proofs.Json.Stability
import Daybook.Proofs.Json.Letters
import Daybook.Proofs.Json.Spelling
import Daybook.Proofs.Wire.Request
import Daybook.Proofs.Wire.Relay
import Daybook.Proofs.Wire.Integers
import Daybook.Proofs.Daemon.Parameters
import Daybook.Proofs.Reminder.Trigger
import Daybook.Proofs.Reminder.Order
import Daybook.Proofs.Timekeeping
import Daybook.Proofs.Disk.Pruning
import Daybook.Proofs.Database.Pruning
import Daybook.Proofs.Store.Pruning
import Daybook.Proofs.Store.Damage
import Daybook.Proofs.Daemon.Damage
