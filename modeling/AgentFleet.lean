import AgentFleet.Main
import AgentFleet.Proofs.Inventory.RoundTrip
import AgentFleet.Proofs.Selection.Order
import AgentFleet.Proofs.Document.Equality
import AgentFleet.Proofs.Inventory.Alike
import AgentFleet.Proofs.Inventory.Renormalization
import AgentFleet.Proofs.Inventory.GroupLayouts
import AgentFleet.Proofs.Inventory.FlatLayouts
import AgentFleet.Proofs.Loading.Tools
import AgentFleet.Proofs.Loading.Identities
import AgentFleet.Proofs.Loading.Agreement
import AgentFleet.Proofs.Fleet.Dispatch
import AgentFleet.Proofs.Loading.Precedence
import AgentFleet.Proofs.Fleet.Rounds
import AgentFleet.Proofs.Fleet.Preparing
import AgentFleet.Proofs.Machine.Launch
import AgentFleet.Proofs.Transport.Commands
import AgentFleet.Proofs.Transport.Transfers
import AgentFleet.Proofs.Fleet.Errands
import AgentFleet.Proofs.Fleet.Addressing
import AgentFleet.Proofs.Inventory.KnownFields
import AgentFleet.Proofs.Inventory.Variables
import AgentFleet.Proofs.Inventory.GroupedHosts
import AgentFleet.Proofs.Inventory.TryOrder
import AgentFleet.Proofs.Selection.Spelling
import AgentFleet.Proofs.Selection.Repetition
import AgentFleet.Proofs.Text.Words
import AgentFleet.Proofs.Transport.Logins
import AgentFleet.Proofs.Transport.Quoting
import AgentFleet.Proofs.Transport.PodLines
import AgentFleet.Proofs.Settings.Fields
import AgentFleet.Proofs.CommandLine.Reports
import AgentFleet.Proofs.Settings.Lookup
