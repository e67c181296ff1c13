import EndpointScaffold.Main
import EndpointScaffold.Proofs.Plain.Printed
import EndpointScaffold.Proofs.Plain.Adjacency
import EndpointScaffold.Proofs.Plain.Phrase
import EndpointScaffold.Proofs.Plain.Reading
import EndpointScaffold.Proofs.Plain.Spelling
import EndpointScaffold.Proofs.Plain.TypeForm
import EndpointScaffold.Proofs.Plain.Call
import EndpointScaffold.Proofs.Plain.Segments
import EndpointScaffold.Proofs.Plain.Inner
import EndpointScaffold.Proofs.Plain.Header
import EndpointScaffold.Proofs.Plain.Method
import EndpointScaffold.Proofs.Plain.ClassForm
import EndpointScaffold.Proofs.Plain.FileForm
import EndpointScaffold.Proofs.Plain.Declared
import EndpointScaffold.Proofs.Fluent.Accumulation
import EndpointScaffold.Proofs.Fluent.Selection
import EndpointScaffold.Proofs.Fluent.Configuration
import EndpointScaffold.Proofs.Plain.Property
import EndpointScaffold.Proofs.Entity.Columns
import EndpointScaffold.Proofs.Entity.Declaration
import EndpointScaffold.Proofs.Project.Scan
import EndpointScaffold.Proofs.Entity.Merging
import EndpointScaffold.Proofs.Project.Configured
import EndpointScaffold.Proofs.Files.Walk
import EndpointScaffold.Proofs.Files.Listing
import EndpointScaffold.Proofs.Project.Tolerance
import EndpointScaffold.Proofs.Scaffold.Location
import EndpointScaffold.Proofs.Scaffold.Frame
import EndpointScaffold.Proofs.Scaffold.Prediction
import EndpointScaffold.Proofs.Scaffold.Repetition
import EndpointScaffold.Proofs.Scaffold.Protocol
import EndpointScaffold.Proofs.Scaffold.Independence
import EndpointScaffold.Proofs.Export.Replay
import EndpointScaffold.Proofs.Scaffold.Completion
import EndpointScaffold.Proofs.CommandLine.ExitCode
import EndpointScaffold.Proofs.Text.Classes
import EndpointScaffold.Proofs.Validation.Valid
import EndpointScaffold.Proofs.Feature.Distinct
import EndpointScaffold.Proofs.Scaffold.Collision
import EndpointScaffold.Proofs.Encoding.Formats
import EndpointScaffold.Proofs.Naming.PluralName
import EndpointScaffold.Proofs.Scaffold.Namespaces
import EndpointScaffold.Proofs.Scaffold.TypeNames
import EndpointScaffold.Proofs.Support.Members
import EndpointScaffold.Proofs.Encoding.Damage
import EndpointScaffold.Proofs.Validation.Accepted
import EndpointScaffold.Proofs.Support.OwnNames
import EndpointScaffold.Proofs.Support.UsedNamespaces
import EndpointScaffold.Proofs.Entity.Composition
import EndpointScaffold.Proofs.Fluent.Grammar
import EndpointScaffold.Proofs.Support.FieldRules
import EndpointScaffold.Proofs.Support.Keys
import EndpointScaffold.Proofs.Support.Lengths
import EndpointScaffold.Proofs.Project.Kept
import EndpointScaffold.Proofs.Files.NormalForm
import EndpointScaffold.Proofs.Export.Containment
import EndpointScaffold.Proofs.Export.Accounting
import EndpointScaffold.Proofs.Support.Isolation
import EndpointScaffold.Proofs.Config.Stable
import EndpointScaffold.Proofs.Naming.LastWord
import EndpointScaffold.Proofs.CSharp.Chains
import EndpointScaffold.Proofs.CSharp.Ownership
import EndpointScaffold.Proofs.Fluent.Overloads
