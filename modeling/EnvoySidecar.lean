import EnvoySidecar.Config.Fields
import EnvoySidecar.Main
import EnvoySidecar.Session
import EnvoySidecar.Proofs.Env.Store
import EnvoySidecar.Proofs.Env.Writes
import EnvoySidecar.Proofs.Env.Managed
import EnvoySidecar.Proofs.Env.Assembly
import EnvoySidecar.Proofs.Sidecar.Commands
import EnvoySidecar.Proofs.Sidecar.Container
import EnvoySidecar.Proofs.Manifest
import EnvoySidecar.Proofs.Session
import EnvoySidecar.Proofs.Sidecar.AdminPort
import EnvoySidecar.Proofs.Decimal.Rounding
import EnvoySidecar.Proofs.Decimal.Nearest
import EnvoySidecar.Proofs.Decimal.Value
import EnvoySidecar.Proofs.Quantity.Outcome
import EnvoySidecar.Proofs.Quantity.Grammar
import EnvoySidecar.Proofs.Quantity.Amount
import EnvoySidecar.Proofs.Quantity.Acceptance
import EnvoySidecar.Proofs.Quantity.Exponent
import EnvoySidecar.Proofs.Resources
import EnvoySidecar.Proofs.Container.Check
import EnvoySidecar.Proofs.Sidecar.Agreement
import EnvoySidecar.Proofs.CommandLine
import EnvoySidecar.Proofs.Decimal.Kept
import EnvoySidecar.Proofs.Quantity.Printed
import EnvoySidecar.Proofs.Yaml.Grammar
import EnvoySidecar.Proofs.Yaml.Layout
import EnvoySidecar.Proofs.Settings
import EnvoySidecar.Proofs.Console.Balance
import EnvoySidecar.Proofs.Console.Verbatim
import EnvoySidecar.Proofs.Rendering
import EnvoySidecar.Proofs.CommandLine.Exits
import EnvoySidecar.Proofs.CommandLine.Errors
import EnvoySidecar.Proofs.Env.Recovery
import EnvoySidecar.Proofs.Sidecar.Toggles
import EnvoySidecar.Proofs.Yaml.Printer
import EnvoySidecar.Proofs.CommandLine.Output
import EnvoySidecar.Proofs.Yaml.Reading.Cursor
import EnvoySidecar.Proofs.Yaml.Reading.Plain
import EnvoySidecar.Proofs.Yaml.Folding
import EnvoySidecar.Proofs.Yaml.Escaping
import EnvoySidecar.Proofs.Yaml.Tag
import EnvoySidecar.Proofs.Yaml.Scalars
import EnvoySidecar.Proofs.Yaml.Integers
import EnvoySidecar.Proofs.Yaml.Reading.Layout
import EnvoySidecar.Proofs.Yaml.Reading.Manifest
import EnvoySidecar.Proofs.Yaml.Reading.Nodes
import EnvoySidecar.Proofs.Yaml.Reading.Values
import EnvoySidecar.Proofs.Container.Shape
import EnvoySidecar.Proofs.Yaml.Reading.Recall
import EnvoySidecar.Proofs.Rendering.RoundTrip
import EnvoySidecar.Proofs.Decimal.Monotone
import EnvoySidecar.Proofs.Quantity.Order
import EnvoySidecar.Proofs.Env.Overwriting
import EnvoySidecar.Proofs.Env.Warnings
import EnvoySidecar.Proofs.Env.Offences
import EnvoySidecar.Proofs.Env.Rules
import EnvoySidecar.Proofs.Sidecar.Enabling
import EnvoySidecar.Proofs.Manifest.Paths
import EnvoySidecar.Proofs.Resources.ReadBack
import EnvoySidecar.Proofs.Schema.Outcome
import EnvoySidecar.Proofs.Container.Variables
import EnvoySidecar.Proofs.Container.Faithful
import EnvoySidecar.Proofs.Schema.Outline
import EnvoySidecar.Proofs.Config.Recheck
import EnvoySidecar.Log.Root
import EnvoySidecar.Proofs.CommandLine.Threshold
import EnvoySidecar.Proofs.Env.Assignments
import EnvoySidecar.Proofs.Sidecar.Tagging
import EnvoySidecar.Proofs.Template.Rendering
import EnvoySidecar.Proofs.Failure
