import IntakeApi.Library.Program
import IntakeApi.Library.History
import IntakeApi.Library.Transaction
import IntakeApi.Library.Table
import IntakeApi.Library.Machine
import IntakeApi.Library.Service
import IntakeApi.Library.ServiceRules
import IntakeApi.Library.Bounds
import IntakeApi.Library.Replica
import IntakeApi.Library.Chunks
import IntakeApi.Library.Interleave
import IntakeApi.Library.Parties
import IntakeApi.Text
import IntakeApi.Hex
import IntakeApi.Contract
import IntakeApi.Context
import IntakeApi.Schema
import IntakeApi.Statements
import IntakeApi.Persistence
import IntakeApi.PersistenceRules
import IntakeApi.External
import IntakeApi.Admission
import IntakeApi.Authentication
import IntakeApi.Handlers
import IntakeApi.HandlerRules
import IntakeApi.World
import IntakeApi.Sample
import IntakeApi.Changes
import IntakeApi.Updates
import IntakeApi.Outbox
import IntakeApi.Mirror
import IntakeApi.Acknowledgement
import IntakeApi.Provenance
import IntakeApi.Replay
import IntakeApi.Durability
import IntakeApi.Gate
import IntakeApi.Ownership
import IntakeApi.Custody
import IntakeApi.Retry
import IntakeApi.Verification
import IntakeApi.References
import IntakeApi.Expiry
import IntakeApi.Signing
import IntakeApi.Clock
import IntakeApi.Turns
import IntakeApi.Lifecycle
import IntakeApi.Statuses
import IntakeApi.Streaming
import IntakeApi.Admittance
import IntakeApi.Decisions
import IntakeApi.Responses
import IntakeApi.Defences
import IntakeApi.Completions
import IntakeApi.Footprint
import IntakeApi.Independence
import IntakeApi.Convergence
import IntakeApi.Window
import IntakeApi.Alone
import IntakeApi.Stability
import IntakeApi.Termination
import IntakeApi.Formal
import IntakeApi.Refinement
import IntakeApi.UploadRefinement
import IntakeApi.Backoff
import IntakeApi.ContextRules
import IntakeApi.Settings
import IntakeApi.RequestPolicy
import IntakeApi.Library.Shell
import IntakeApi.Entrypoint
import IntakeApi.Library.Json
import IntakeApi.Digest
import IntakeApi.Library.Url
import IntakeApi.Endpoint
import IntakeApi.Library.SocketAddr
import IntakeApi.Configuration
import IntakeApi.Objects
import IntakeApi.Library.UrlText
import IntakeApi.Origins
import IntakeApi.Library.Host
import IntakeApi.Library.Uri
import IntakeApi.Cors
import IntakeApi.SignedUrl
import IntakeApi.Spelling
import IntakeApi.Library.Base64
import IntakeApi.Library.ShellWords
import IntakeApi.Library.Python
import IntakeApi.Library.UnicodeEscape
import IntakeApi.Library.EscapeTokens
import IntakeApi.Dotenv
import IntakeApi.Library.Bindings
import IntakeApi.DotenvRules
import IntakeApi.EnvRun
import IntakeApi.Modes
import IntakeApi.Reread
import IntakeApi.QuotedValues
import IntakeApi.Loaders
import IntakeApi.Deployment
import IntakeApi.Flags
import IntakeApi.Startup
