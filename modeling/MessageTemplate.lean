import MessageTemplate.Engine.Request
import MessageTemplate.Main
import MessageTemplate.Proofs.Lexing
import MessageTemplate.Proofs.Segmentation
import MessageTemplate.Proofs.Lowercase
import MessageTemplate.Proofs.Resolution
import MessageTemplate.Proofs.Agreement
import MessageTemplate.Proofs.Invocations
import MessageTemplate.Proofs.Concatenation
import MessageTemplate.Proofs.Registrations
import MessageTemplate.Proofs.Initialization
import MessageTemplate.Proofs.Reversion
import MessageTemplate.Proofs.Levels
import MessageTemplate.Proofs.Values
import MessageTemplate.Proofs.Interchange
import MessageTemplate.Proofs.Defaults
import MessageTemplate.Proofs.Pointing
import MessageTemplate.Proofs.Chronicle
import MessageTemplate.Proofs.Once
import MessageTemplate.Proofs.DefaultVerdicts
import MessageTemplate.Proofs.Lines
import MessageTemplate.Proofs.CheckedLines
import MessageTemplate.Proofs.Gradients
import MessageTemplate.Proofs.NamedCodes
import MessageTemplate.Proofs.Chains
import MessageTemplate.Proofs.Heights
import MessageTemplate.Proofs.Stability
import MessageTemplate.Proofs.Respelling
import MessageTemplate.Proofs.Addressing
import MessageTemplate.Proofs.Validation
import MessageTemplate.Proofs.Naming
import MessageTemplate.Proofs.Shares
import MessageTemplate.Proofs.Reached
import MessageTemplate.Proofs.BulkRegistration
import MessageTemplate.Proofs.Workload
import MessageTemplate.Proofs.Configuring
import MessageTemplate.Proofs.Presence
