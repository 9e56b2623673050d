import ForeignCollections.Main
import ForeignCollections.Registry.Shared
import ForeignCollections.Ty.Declare
import ForeignCollections.Proofs.Cli.Convert
import ForeignCollections.Proofs.Config.Override
import ForeignCollections.Proofs.Config.Precedence
import ForeignCollections.Proofs.Config.Spellings
import ForeignCollections.Proofs.Entries
import ForeignCollections.Proofs.Json.WellFormed
import ForeignCollections.Proofs.Registry.Bases
import ForeignCollections.Proofs.Registry.Build
import ForeignCollections.Proofs.Registry.Candidates
import ForeignCollections.Proofs.Registry.Inheritance
import ForeignCollections.Proofs.Registry.Install
import ForeignCollections.Proofs.Registry.Naming
import ForeignCollections.Proofs.Registry.Order
import ForeignCollections.Proofs.Registry.Report
import ForeignCollections.Proofs.Registry.Shadowing
import ForeignCollections.Proofs.Registry.Shared
import ForeignCollections.Proofs.Results
import ForeignCollections.Proofs.RuleBook.Dispatch
import ForeignCollections.Proofs.RuleBook.History
import ForeignCollections.Proofs.RuleBook.Interference
import ForeignCollections.Proofs.RuleBook.Selection
import ForeignCollections.Proofs.Ty.Ancestors
import ForeignCollections.Proofs.Ty.Order
import ForeignCollections.Proofs.Ty.Reachability
import ForeignCollections.Proofs.Ty.Search
import ForeignCollections.Proofs.Value.Content
import ForeignCollections.Proofs.Value.Equality
import ForeignCollections.Proofs.Value.Json
import ForeignCollections.Proofs.Value.Mapping
import ForeignCollections.Proofs.Vavr.Canonical
import ForeignCollections.Proofs.Vavr.Contents
import ForeignCollections.Proofs.Vavr.Installed
import ForeignCollections.Proofs.Vavr.Instances
import ForeignCollections.Proofs.Vavr.Outcomes
import ForeignCollections.Proofs.Vavr.Precedence
import ForeignCollections.Proofs.Vavr.Projection
import ForeignCollections.Proofs.Vavr.RoundTrip
import ForeignCollections.Proofs.Vavr.Routes
import ForeignCollections.Proofs.Vavr.Shapes
