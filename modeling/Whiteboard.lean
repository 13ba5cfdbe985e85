import Whiteboard.Json.Numeral
import Whiteboard.Json.Spec
import Whiteboard.Session.Shared
import Whiteboard.Surface.Instant
import Whiteboard.Surface.Memory
import Whiteboard.Surface.Recorded
import Whiteboard.Surface.Scripted
import Whiteboard.Surface.Store
import Whiteboard.Proofs.Extension
import Whiteboard.Proofs.Calls
import Whiteboard.Proofs.Known
import Whiteboard.Proofs.Run
import Whiteboard.Proofs.Snapshots
import Whiteboard.Proofs.Ledger
import Whiteboard.Proofs.Memory
import Whiteboard.Proofs.Replay
import Whiteboard.Proofs.Streaming
import Whiteboard.Proofs.Divergence
import Whiteboard.Proofs.Drawable
import Whiteboard.Proofs.Transcript
import Whiteboard.Proofs.Pending
import Whiteboard.Proofs.Separators
import Whiteboard.Proofs.Tokens
import Whiteboard.Proofs.Configuration
import Whiteboard.Proofs.Literals
import Whiteboard.Proofs.Fields
import Whiteboard.Proofs.Statements
import Whiteboard.Proofs.RoundTrip
import Whiteboard.Proofs.Labels
import Whiteboard.Proofs.Ignored
import Whiteboard.Proofs.Growth
import Whiteboard.Proofs.Telling
import Whiteboard.Proofs.Resubmission
import Whiteboard.Proofs.Renaming
import Whiteboard.Proofs.Supply
import Whiteboard.Proofs.Twins
import Whiteboard.Proofs.Isolation
import Whiteboard.Proofs.Policies
import Whiteboard.Proofs.Closing
import Whiteboard.Proofs.Naming
import Whiteboard.Proofs.Division
import Whiteboard.Proofs.Occurrences
import Whiteboard.Proofs.Outcomes
import Whiteboard.Proofs.Arrangement
import Whiteboard.Proofs.Acceptance
import Whiteboard.Proofs.Integers
import Whiteboard.Proofs.Entries
import Whiteboard.Proofs.Commits
import Whiteboard.Proofs.Rounding
import Whiteboard.Proofs.Exchange
import Whiteboard.Proofs.References
import Whiteboard.Proofs.Difference
