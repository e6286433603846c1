import Custody.Disk
import Custody.Main
import Custody.Session
import Custody.Steady
import Custody.Document.Json.Number
import Custody.Document.Json.Reader
import Custody.Proofs.Moment
import Custody.Proofs.Change
import Custody.Proofs.Past
import Custody.Proofs.Approval
import Custody.Proofs.Standing
import Custody.Proofs.Ownership
import Custody.Proofs.ChangeLog
import Custody.Proofs.Viewing
import Custody.Proofs.Composition
import Custody.Proofs.Scene
import Custody.Proofs.Following
import Custody.Proofs.Founding
import Custody.Proofs.Callbacks
import Custody.Proofs.Verdict
import Custody.Proofs.Provision
import Custody.Proofs.Renaming
import Custody.Proofs.Integrity
import Custody.Proofs.Completion
import Custody.Proofs.Atomicity
import Custody.Proofs.Device
import Custody.Proofs.Durability
import Custody.Proofs.Attempt
import Custody.Proofs.Steps
import Custody.Proofs.Hexadecimal
import Custody.Proofs.Rollout
import Custody.Proofs.Discretion
import Custody.Proofs.Attachment
import Custody.Proofs.JsonText
import Custody.Proofs.RoundTrip
import Custody.Proofs.Decision
import Custody.Proofs.Nesting
import Custody.Proofs.Stages
import Custody.Proofs.Independence
import Custody.Proofs.Bytes
import Custody.Proofs.Identifier
import Custody.Proofs.Tabulation
import Custody.Proofs.Lookup
import Custody.Proofs.Listing
