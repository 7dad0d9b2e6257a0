import HttpResource.CommandLine
import HttpResource.Controller
import HttpResource.Definition
import HttpResource.Outgoing
import HttpResource.Cluster.Secret
import HttpResource.Cluster.Watch
import HttpResource.Main
import HttpResource.Proofs.Trace
import HttpResource.Proofs.Turn
import HttpResource.Proofs.Run
import HttpResource.Proofs.Transition
import HttpResource.Proofs.Probe
import HttpResource.Proofs.Accounting
import HttpResource.Proofs.Creation
import HttpResource.Proofs.RetryLimit
import HttpResource.Proofs.Pass
import HttpResource.Proofs.Delivery
import HttpResource.Proofs.Sustain
import HttpResource.Proofs.Plain
import HttpResource.Proofs.Finalize
import HttpResource.Proofs.Removal
import HttpResource.Proofs.Exhaustion
import HttpResource.Proofs.Confinement
import HttpResource.Proofs.References
import HttpResource.Proofs.Scope
import HttpResource.Proofs.Fields
import HttpResource.Proofs.Quoting
import HttpResource.Proofs.Document
import HttpResource.Proofs.Session
import HttpResource.Proofs.Lawful
import HttpResource.Proofs.RoundTrip
import HttpResource.Proofs.SharedFinalizers
import HttpResource.Proofs.Grammar
import HttpResource.Proofs.Spelling
import HttpResource.Proofs.Fragments
import HttpResource.Proofs.Aliases
import HttpResource.Proofs.Literal
import HttpResource.Proofs.Escape
import HttpResource.Proofs.EscapeRoundTrip
import HttpResource.Proofs.Merge
import HttpResource.Proofs.Reads
import HttpResource.Proofs.Overrides
import HttpResource.Proofs.HeaderNames
import HttpResource.Proofs.Insertion
import HttpResource.Proofs.Evaluation
import HttpResource.Proofs.Footprint
import HttpResource.Proofs.BarePath
import HttpResource.Proofs.Copies
import HttpResource.Proofs.Rewriting
import HttpResource.Proofs.DurationText
import HttpResource.Proofs.DurationValue
import HttpResource.Proofs.Rounding
import HttpResource.Proofs.Operands
import HttpResource.Proofs.Equality
import HttpResource.Proofs.ReadJson
import HttpResource.Proofs.SecretTokens
import HttpResource.Proofs.DurationOrder
import HttpResource.Proofs.WatchHistory
import HttpResource.Proofs.Rejection
import HttpResource.Proofs.Base64RoundTrip
import HttpResource.Proofs.ReceivedHeaders
