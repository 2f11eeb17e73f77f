import Clearance.Main
import Clearance.Logging
import Clearance.Fault.Fields
import Clearance.Trail.Connection
import Clearance.Proofs.Grants.Lookup
import Clearance.Proofs.Engine.Check
import Clearance.Proofs.Policy.FirstRule
import Clearance.Proofs.Engine.Evaluation
import Clearance.Proofs.Engine.Verdict
import Clearance.Proofs.Engine.Recording
import Clearance.Proofs.Engine.Interleaving
import Clearance.Proofs.Engine.Conservation
import Clearance.Proofs.Grants.History
import Clearance.Proofs.Engine.SessionRun
import Clearance.Proofs.Engine.Alike
import Clearance.Proofs.Engine.Completion
import Clearance.Proofs.Engine.Linearization
import Clearance.Proofs.Engine.Asking
import Clearance.Proofs.Decimal.Digits
import Clearance.Proofs.Decimal.Rounding
import Clearance.Proofs.Decimal.Shortest
import Clearance.Proofs.Json.Number
import Clearance.Proofs.Json.Text
import Clearance.Proofs.Json.RoundTrip
import Clearance.Proofs.Value.Plain
import Clearance.Proofs.Json.Data
import Clearance.Proofs.Time.Calendar
import Clearance.Proofs.Time.Text
import Clearance.Proofs.Text.Front
import Clearance.Proofs.Schema.Fields
import Clearance.Proofs.Schema.RoundTrip
import Clearance.Proofs.Schema.Validity
import Clearance.Proofs.Trail.Row
import Clearance.Proofs.Trail.Mirror
import Clearance.Proofs.Engine.Requests
import Clearance.Proofs.Engine.PlainRequests
import Clearance.Proofs.Engine.Mirroring
import Clearance.Proofs.Config.RoundTrip
import Clearance.Proofs.Engine.Sinks
import Clearance.Proofs.Engine.Readings
import Clearance.Proofs.Engine.WellFormed
import Clearance.Proofs.Engine.Transfer
import Clearance.Proofs.Engine.Noninterference
import Clearance.Proofs.Policy.Reads
import Clearance.Proofs.Grants.Effects
import Clearance.Proofs.Engine.Frame
import Clearance.Proofs.Engine.Rejection
import Clearance.Proofs.Regex.Faults
import Clearance.Proofs.Policy.Totality
import Clearance.Proofs.Policy.RuleOrder
import Clearance.Proofs.Policy.Windows
import Clearance.Proofs.Regex.Numbering
import Clearance.Proofs.Regex.Setting
import Clearance.Proofs.Regex.Pieces
import Clearance.Proofs.Regex.Expressions
import Clearance.Proofs.Regex.Joined
import Clearance.Proofs.Policy.Options
import Clearance.Proofs.Policy.Literals
import Clearance.Proofs.Grants.Revocation
import Clearance.Proofs.Grants.Standing
import Clearance.Proofs.Catalog.Registration
import Clearance.Proofs.Engine.Atomicity
import Clearance.Proofs.Engine.ScopeGrants
import Clearance.Proofs.Yaml.Faults
import Clearance.Proofs.Yaml.Scalars.Whole
import Clearance.Proofs.Yaml.Scalars.Real
import Clearance.Proofs.Yaml.Scalars
import Clearance.Proofs.Config.Refusals
import Clearance.Proofs.Schema.Nodes
import Clearance.Proofs.Schema.Spelling
import Clearance.Proofs.Json.Written
import Clearance.Proofs.Time.Zones
import Clearance.Proofs.Schema.Decisions
import Clearance.Proofs.Trail.Recall
import Clearance.Proofs.Trail.Queries
import Clearance.Proofs.Trail.Statistics
import Clearance.Proofs.Printed.Markup
import Clearance.Proofs.Confirmation.Prompt
import Clearance.Proofs.Confirmation.Service
import Clearance.Proofs.Report.Console
import Clearance.Proofs.Trail.Connection
import Clearance.Proofs.Trail.Failures
import Clearance.Proofs.Trail.Recording
import Clearance.Proofs.CommandLine.Check
import Clearance.Proofs.CommandLine.Pairs
import Clearance.Proofs.AuditLog.Retention
import Clearance.Proofs.Catalog.History
import Clearance.Proofs.Counts
import Clearance.Proofs.FirstPlaces
import Clearance.Proofs.Json.Grammar
import Clearance.Proofs.Report.Summary
import Clearance.Proofs.Report.Document
