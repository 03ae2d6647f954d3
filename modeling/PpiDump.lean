import PpiDump.Main
import PpiDump.Proofs.Acceptance
import PpiDump.Proofs.Echo
import PpiDump.Proofs.Prescription
import PpiDump.Proofs.Source
import PpiDump.Translator.Probe
import PpiDump.Proofs.RoundTrip
import PpiDump.Proofs.Refusal
import PpiDump.Proofs.Nesting
import PpiDump.Proofs.Traversal
import PpiDump.Proofs.Decoding
import PpiDump.Proofs.Pieces
import PpiDump.Proofs.Delivery
import PpiDump.Proofs.Deadline
import PpiDump.Proofs.Entries
import PpiDump.Proofs.Phases
import PpiDump.Proofs.Session
import PpiDump.Proofs.Rereading
import PpiDump.Proofs.Export
import PpiDump.Proofs.Quiet
import PpiDump.Proofs.Revision
import PpiDump.Proofs.Command
import PpiDump.Proofs.Scanning
import PpiDump.Proofs.Occurrences
import PpiDump.Proofs.Ancestry
import PpiDump.Proofs.Counting
import PpiDump.Proofs.Paths
