import IdentityMap.Backoff.Basic
import IdentityMap.Document.Text
import IdentityMap.Registry
import IdentityMap.Records.Fields
import IdentityMap.Resource
import IdentityMap.Settings.Document
import IdentityMap.Store
import IdentityMap.Loop.Run
import IdentityMap.Source.File
import IdentityMap.Source.Memory
import IdentityMap.Proofs.Serving
import IdentityMap.Proofs.Loop.Turn
import IdentityMap.Proofs.Loop.Moves
import IdentityMap.Proofs.Loop.History
import IdentityMap.Proofs.Loop.Progress
import IdentityMap.Proofs.Source.Following
import IdentityMap.Proofs.Loop.GivingUp
import IdentityMap.Proofs.Loop.Stopping
import IdentityMap.Proofs.Handling
import IdentityMap.Proofs.Loop.Grammar
import IdentityMap.Proofs.Loop.Accounting
import IdentityMap.Proofs.Records.Faults
import IdentityMap.Proofs.Records.Independence
import IdentityMap.Proofs.Lookup
import IdentityMap.Proofs.Records.Decoding
import IdentityMap.Proofs.Sessions
import IdentityMap.Proofs.Source.Announcing
import IdentityMap.Proofs.Source.Routing
import IdentityMap.Proofs.Loop.Bare
import IdentityMap.Proofs.Loop.Refusal
import IdentityMap.Proofs.Loop.Health
import IdentityMap.Proofs.Loop.Watching
import IdentityMap.Proofs.Loop.Owner
import IdentityMap.Proofs.Loop.Past
import IdentityMap.Proofs.Loop.Restart
import IdentityMap.Proofs.Records.Acceptance
import IdentityMap.Proofs.Records.Strictness
import IdentityMap.Proofs.Loop.Containment
import IdentityMap.Proofs.Settings.Loading
import IdentityMap.Proofs.Source.Queueing
import IdentityMap.Proofs.Source.Documents
import IdentityMap.Proofs.Backoff.Growth
import IdentityMap.Proofs.Loop.Pacing
import IdentityMap.Proofs.Settings.Sections
import IdentityMap.Proofs.Filing
