import ClientGen.Baseline.Emitter
import ClientGen.Baseline.OperationFile
import ClientGen.Build.Package
import ClientGen.Build.Fault
import ClientGen.Call.Arguments
import ClientGen.Call.Invoke
import ClientGen.Call.Pages
import ClientGen.Call.Transport
import ClientGen.Command.Arguments
import ClientGen.Command.Host
import ClientGen.Command.Invocation
import ClientGen.Command.Run
import ClientGen.Command.World
import ClientGen.Comparison.Differences
import ClientGen.Comparison.Validation
import ClientGen.Declarative.Emitter
import ClientGen.Declarative.OperationFile
import ClientGen.Dict
import ClientGen.Emission.Switches
import ClientGen.Imports
import ClientGen.Json.Basic
import ClientGen.Json.Printer
import ClientGen.Json.Reader
import ClientGen.Json.Token
import ClientGen.Main
import ClientGen.Number.Double
import ClientGen.Number.Shortest
import ClientGen.Plan.ClientClass
import ClientGen.Plan.ClientDefinitions
import ClientGen.Plan.Manifest
import ClientGen.Plan.OperationFile
import ClientGen.Plan.Operation
import ClientGen.Plan.Parameter
import ClientGen.Plan.Part
import ClientGen.Project.Inspection
import ClientGen.Record
import ClientGen.Recovery.Outcome
import ClientGen.Recovery.Run
import ClientGen.Recovery.Script
import ClientGen.Reference.Registry
import ClientGen.Service.Decode
import ClientGen.Service.Encode
import ClientGen.Service.Model
import ClientGen.Source.Render
import ClientGen.Source.Tree
import ClientGen.Text.Alphanumeric
import ClientGen.Text.Basic
import ClientGen.Text.Escaped
import ClientGen.Text.LetterCase
import ClientGen.Text.Words
import ClientGen.Yaml.Alias
import ClientGen.Yaml.Block
import ClientGen.Yaml.Cursor
import ClientGen.Yaml.Flow
import ClientGen.Yaml.Node
import ClientGen.Yaml.Printer
import ClientGen.Yaml.Resolution
import ClientGen.Yaml.Tag
import ClientGen.Yaml.Token
import ClientGen.Proofs.Build.Complete
import ClientGen.Proofs.Call.Pages
import ClientGen.Proofs.Call.Polling
import ClientGen.Proofs.Call.Template
import ClientGen.Proofs.Declarative.ClientClass
import ClientGen.Proofs.Declarative.ClientDefinitions
import ClientGen.Proofs.Declarative.OperationFile
import ClientGen.Proofs.Declarative.TypeCode
import ClientGen.Proofs.Dict
import ClientGen.Proofs.Emission.Agreement
import ClientGen.Proofs.Emission.Failure
import ClientGen.Proofs.Emission.Outline
import ClientGen.Proofs.Imports.Keys
import ClientGen.Proofs.Imports.Plan
import ClientGen.Proofs.Imports.Steps
import ClientGen.Proofs.Plan.Operation
import ClientGen.Proofs.Recovery.History
import ClientGen.Proofs.Recovery.Run
import ClientGen.Proofs.Result
import ClientGen.Proofs.Source.Clash
import ClientGen.Proofs.Source.Render
import ClientGen.Proofs.Source.Symbols
import ClientGen.Proofs.Text.Joined
import ClientGen.Proofs.Text.Percent
import ClientGen.Proofs.Text.Search
import ClientGen.Proofs.Call.Arguments
import ClientGen.Proofs.Call.Url
import ClientGen.Proofs.Call.PathArguments
import ClientGen.Proofs.Text.Words
import ClientGen.Proofs.Build.Paths
import ClientGen.Proofs.Service.RoundTrip
import ClientGen.Proofs.Comparison.Differences
import ClientGen.Proofs.Comparison.Validation
import ClientGen.Proofs.Comparison.Comments
import ClientGen.Proofs.Comparison.Outlines
import ClientGen.Proofs.Imports.Statements
import ClientGen.Proofs.Plan.Texts
import ClientGen.Proofs.Comparison.CodeLines
import ClientGen.Proofs.Comparison.Legible
import ClientGen.Proofs.Comparison.Agreement
import ClientGen.Proofs.Recovery.Likeness
import ClientGen.Proofs.Recovery.Calls
import ClientGen.Proofs.Recovery.Errors
import ClientGen.Proofs.Reference.Registry
import ClientGen.Proofs.Build.References
import ClientGen.Proofs.Json.Tokens
import ClientGen.Proofs.Json.Reader
import ClientGen.Proofs.Emission.Manifest
import ClientGen.Proofs.Plan.Faults
import ClientGen.Proofs.Comparison.Commented
import ClientGen.Proofs.Comparison.NormalForm
import ClientGen.Proofs.Source.Passages
import ClientGen.Proofs.Source.Resolution
import ClientGen.Proofs.Source.Permutation
import ClientGen.Proofs.Plan.Definitions
import ClientGen.Proofs.Source.Capture
import ClientGen.Proofs.Emission.Capture
import ClientGen.Proofs.Imports.Contains
import ClientGen.Proofs.Emission.Wording
import ClientGen.Proofs.Emission.Closed
import ClientGen.Proofs.Emission.Closure
import ClientGen.Proofs.Text.Casing
import ClientGen.Proofs.Plan.OptionsTypes
import ClientGen.Proofs.Emission.Interfaces
import ClientGen.Proofs.Imports.Order
import ClientGen.Proofs.Emission.ClassNames
import ClientGen.Proofs.Source.Locals
import ClientGen.Proofs.Baseline.Sections
import ClientGen.Proofs.Emission.Locals
import ClientGen.Proofs.Imports.Additions
import ClientGen.Proofs.Call.Sent
import ClientGen.Proofs.Call.Bodies
import ClientGen.Proofs.Text.Lines
import ClientGen.Proofs.Emission.Containment
import ClientGen.Proofs.Reference.Generation
import ClientGen.Proofs.Emission.Layers
import ClientGen.Proofs.Declarative.TypeReferences
import ClientGen.Proofs.Emission.Descriptions
import ClientGen.Proofs.Call.ResultPath
