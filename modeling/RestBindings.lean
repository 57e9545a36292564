import RestBindings.Text.Printable
import RestBindings.Text.Blank
import RestBindings.Text.Quoted
import RestBindings.Naming.Convention
import RestBindings.Decimal.Shortest
import RestBindings.Json.Fault
import RestBindings.Json.Reader.Text
import RestBindings.Json.Reader.Number
import RestBindings.Json.Reader.Record
import RestBindings.Registry.ClassSpec
import RestBindings.Registry.Error
import RestBindings.Registry.Lowering
import RestBindings.Registry.Opening
import RestBindings.Model.Description
import RestBindings.Code.Declaration
import RestBindings.Client.Path
import RestBindings.Client.Keys
import RestBindings.Client.Types
import RestBindings.Client.Angular.Session
import RestBindings.Client.Fetch.Request
import RestBindings.Client.Builtin
import RestBindings.Generation.Generator
import RestBindings.Main
import RestBindings.Proofs.Sequence
import RestBindings.Proofs.Fresh
import RestBindings.Proofs.Description
import RestBindings.Proofs.Description.Dependence
import RestBindings.Proofs.Text.Quoted
import RestBindings.Proofs.Text.Occurrence
import RestBindings.Proofs.Text.Split
import RestBindings.Proofs.Text.Letters
import RestBindings.Proofs.Code.Writing
import RestBindings.Proofs.Code.Form
import RestBindings.Proofs.Code.Comment
import RestBindings.Proofs.Client.Arguments
import RestBindings.Proofs.Client.Calls
import RestBindings.Proofs.Client.InstancePath
import RestBindings.Proofs.Client.Identifiers
import RestBindings.Proofs.Client.Rendering
import RestBindings.Proofs.Generation.Outcome
import RestBindings.Proofs.Registry.Lowering
import RestBindings.Proofs.Client.Aliases
import RestBindings.Proofs.Client.Identity
import RestBindings.Proofs.Client.Readings
import RestBindings.Proofs.Client.Keys
import RestBindings.Proofs.Generation.Agreement
import RestBindings.Proofs.Text.LetterCase
import RestBindings.Proofs.Naming.Words
import RestBindings.Proofs.Naming.Identifiers
import RestBindings.Proofs.Client.Forms
import RestBindings.Proofs.Client.Globals
import RestBindings.Proofs.Generation.Services
import RestBindings.Proofs.Generation.Trace
import RestBindings.Proofs.Generation.Diagnostics
import RestBindings.Proofs.Generation.Skipped
import RestBindings.Proofs.Generation.Documents
import RestBindings.Proofs.Generation.Later
import RestBindings.Proofs.Generation.Forms
import RestBindings.Proofs.Report.Agreement
import RestBindings.Proofs.Registry.Param
import RestBindings.Proofs.Report.Dump
import RestBindings.Proofs.Client.Path
import RestBindings.Proofs.Client.Forwarding
import RestBindings.Proofs.Client.Placeholders
import RestBindings.Proofs.Code.Declared
import RestBindings.Proofs.Generation.Declarations
import RestBindings.Proofs.Client.Signature
import RestBindings.Proofs.Code.Indentation
import RestBindings.Proofs.Generation.Urls
import RestBindings.Proofs.Registry.Building
import RestBindings.Proofs.Generation.Describing
import RestBindings.Proofs.Files.Writing
import RestBindings.Proofs.Report.Delivery
import RestBindings.Proofs.Generation.Layers
import RestBindings.Proofs.Client.Bindings
import RestBindings.Proofs.Model.History
import RestBindings.Proofs.Client.Literals
import RestBindings.Proofs.Registry.Span
import RestBindings.Proofs.Client.Arrays
