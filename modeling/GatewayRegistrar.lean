import GatewayRegistrar.Main
import GatewayRegistrar.Proofs.Config.Interval
import GatewayRegistrar.Proofs.CommandLine.Interleaving
import GatewayRegistrar.Proofs.Cycle.Fate
import GatewayRegistrar.Proofs.Cycle.Offering
import GatewayRegistrar.Proofs.Cycle.Watching
import GatewayRegistrar.Proofs.Cycle.Nodes
import GatewayRegistrar.Proofs.Cycle.Independence
import GatewayRegistrar.Proofs.Cycle.Tags
import GatewayRegistrar.Proofs.Cycle.Log
import GatewayRegistrar.Proofs.Cycle.TagModes
import GatewayRegistrar.Proofs.Filter.Selection
import GatewayRegistrar.Proofs.Host.DryRun
import GatewayRegistrar.Proofs.Host.InUse
import GatewayRegistrar.Proofs.Host.Initialized
import GatewayRegistrar.Proofs.Host.Precedence
import GatewayRegistrar.Proofs.Pattern.Room
import GatewayRegistrar.Proofs.Registration.Body
import GatewayRegistrar.Proofs.Service.Naming
import GatewayRegistrar.Proofs.Pattern.Literal
import GatewayRegistrar.Proofs.Registration.Metadata
import GatewayRegistrar.Proofs.Config.Environment
import GatewayRegistrar.Proofs.Registration.Address
import GatewayRegistrar.Proofs.Template.Substitution
import GatewayRegistrar.Proofs.Config.Rules
import GatewayRegistrar.Proofs.CommandLine.Overriding
import GatewayRegistrar.Proofs.Service.Acceptance
import GatewayRegistrar.Proofs.Host.Resources
import GatewayRegistrar.Proofs.Config.Omission
import GatewayRegistrar.Proofs.Config.Revision
import GatewayRegistrar.Proofs.Text.Gaps
