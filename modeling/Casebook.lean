import Casebook.Archive
import Casebook.Arguments
import Casebook.ConfigFile
import Casebook.Directory.Run
import Casebook.Main
import Casebook.Reference.Printer
import Casebook.Source.Memory
import Casebook.Source.Script
import Casebook.Store.Settings
import Casebook.Proofs.Keys
import Casebook.Proofs.Codes
import Casebook.Proofs.Maps
import Casebook.Proofs.Postings
import Casebook.Proofs.Entries
import Casebook.Proofs.Lookup
import Casebook.Proofs.Coherence
import Casebook.Proofs.History
import Casebook.Proofs.Containment
import Casebook.Proofs.Batches
import Casebook.Proofs.Planning
import Casebook.Proofs.Resolution
import Casebook.Proofs.Taking
import Casebook.Proofs.Content
import Casebook.Proofs.Conjunction
import Casebook.Proofs.Rule
import Casebook.Proofs.Retry
import Casebook.Proofs.Transcript
import Casebook.Proofs.Course
import Casebook.Proofs.Books
import Casebook.Proofs.Enrolment
import Casebook.Proofs.Consumption
import Casebook.Proofs.Grammar
import Casebook.Proofs.Reading
import Casebook.Proofs.Refusals
import Casebook.Proofs.Descent
import Casebook.Proofs.Greedy
import Casebook.Proofs.Printing
import Casebook.Proofs.Signs
import Casebook.Proofs.Pinpointing
import Casebook.Proofs.Places
import Casebook.Proofs.Occurrences
import Casebook.Proofs.Placement
import Casebook.Proofs.Records
import Casebook.Proofs.Assembly
import Casebook.Proofs.Columns
import Casebook.Proofs.Formats
import Casebook.Proofs.Steps
import Casebook.Proofs.LastWins
import Casebook.Proofs.Selection
import Casebook.Proofs.CacheKeys
