import Wiring.Assoc
import Wiring.Collection
import Wiring.Command
import Wiring.Command.Arguments
import Wiring.Container.Arguments
import Wiring.Container.Cache
import Wiring.Container.Calling
import Wiring.Container.Class
import Wiring.Container.Description
import Wiring.Container.Evaluation
import Wiring.Container.Failure
import Wiring.Container.Formation
import Wiring.Container.Hint
import Wiring.Container.Indexing
import Wiring.Container.Initialization
import Wiring.Container.Items
import Wiring.Container.Keeping
import Wiring.Container.Library
import Wiring.Container.Library.Members
import Wiring.Container.Library.Own
import Wiring.Container.Library.Standard
import Wiring.Container.Lineage
import Wiring.Container.Linking
import Wiring.Container.Meaning
import Wiring.Container.Method
import Wiring.Container.Operation
import Wiring.Container.Path
import Wiring.Container.Resolution
import Wiring.Container.Running
import Wiring.Container.Services
import Wiring.Container.Session
import Wiring.Container.Trial
import Wiring.Container.TypeExpr
import Wiring.Container.Value
import Wiring.Container.World
import Wiring.Conventions
import Wiring.Conventions.Ancestry
import Wiring.Conventions.Closure
import Wiring.Conventions.Link
import Wiring.Declaration
import Wiring.Diagnostic
import Wiring.Double
import Wiring.Double.Shortest
import Wiring.File.Path
import Wiring.File.System
import Wiring.File.Tree
import Wiring.Generation
import Wiring.Json
import Wiring.Json.Parser
import Wiring.Json.Printer
import Wiring.Log
import Wiring.Log.Call
import Wiring.Log.Line
import Wiring.Main
import Wiring.Named
import Wiring.Plan
import Wiring.Plan.Initializer
import Wiring.Plan.Interface
import Wiring.Plan.Keyword
import Wiring.Plan.Registration
import Wiring.Plan.Validation
import Wiring.Proofs.Container.Supply
import Wiring.Proofs.Container.Initialization
import Wiring.Proofs.Unit.Delivery
import Wiring.Record.Declaration
import Wiring.Record.Plan
import Wiring.Record.Reading
import Wiring.Record.Scalar
import Wiring.Record.Shorthand
import Wiring.Script.Expression
import Wiring.Script.Expression.Reading
import Wiring.Script.Literal
import Wiring.Script.Reading
import Wiring.Script.Statement.Reading
import Wiring.Script.Token
import Wiring.Settings
import Wiring.Settings.Environment
import Wiring.Settings.Fault
import Wiring.Settings.Lookup
import Wiring.Settings.Reading
import Wiring.Settings.Words
import Wiring.Sink.Directory
import Wiring.Sink.Memory
import Wiring.Text.Blank
import Wiring.Text.Case
import Wiring.Text.Digits
import Wiring.Text.Encoding
import Wiring.Text.Encoding.Chinese
import Wiring.Text.Encoding.Chinese.HongKong
import Wiring.Text.Encoding.Chinese.Table
import Wiring.Text.Encoding.Domain
import Wiring.Text.Encoding.Domain.Table
import Wiring.Text.Encoding.Grid
import Wiring.Text.Encoding.Japanese
import Wiring.Text.Encoding.Japanese.Extension
import Wiring.Text.Encoding.Japanese.Table
import Wiring.Text.Encoding.Korean
import Wiring.Text.Encoding.Korean.Table
import Wiring.Text.Encoding.MultiByte
import Wiring.Text.Encoding.Name
import Wiring.Text.Encoding.Punycode
import Wiring.Text.Encoding.Sextets
import Wiring.Text.Encoding.SingleByte
import Wiring.Text.Encoding.SingleByte.Table
import Wiring.Text.Escape
import Wiring.Text.Identifier
import Wiring.Text.Letter
import Wiring.Text.Normalization
import Wiring.Text.Normalization.Table
import Wiring.Text.Printable
import Wiring.Text.Quoted
import Wiring.Text.Split
import Wiring.Text.Template
import Wiring.Text.Template.Fault
import Wiring.Text.Template.Kind
import Wiring.Text.Template.Layout
import Wiring.Text.Template.Members
import Wiring.Text.Template.Number
import Wiring.Text.Template.Value
import Wiring.TypeRef
import Wiring.TypeRef.Argument
import Wiring.Unit.Import
import Wiring.Unit.Initializer
import Wiring.Unit.Interface
import Wiring.Unit.Registrations
import Wiring.Unit.Text
import Wiring.Proofs.Container.Completion
import Wiring.Proofs.Container.Kept
import Wiring.Proofs.Container.Growth
import Wiring.Proofs.Container.Lifetime
import Wiring.Proofs.Container.Requests
import Wiring.Proofs.Container.Recovery
import Wiring.Proofs.Container.Requirements
import Wiring.Proofs.Conventions.Circles
import Wiring.Proofs.Conventions.Closure
import Wiring.Proofs.Conventions.Links
import Wiring.Proofs.Plan.Drafting
import Wiring.Proofs.Plan.Drafts
import Wiring.Proofs.Plan.Surface
import Wiring.Proofs.Plan.Walks
import Wiring.Proofs.Plan.Redeclaration
import Wiring.Proofs.Plan.Steps
import Wiring.Proofs.Plan.Plain
import Wiring.Proofs.Plan.Order
import Wiring.Proofs.Plan.Services
import Wiring.Proofs.Plan.Scope
import Wiring.Proofs.Unit.Imports
import Wiring.Proofs.Unit.Closed
import Wiring.Proofs.Unit.Accounts
import Wiring.Proofs.Plan.Composition
import Wiring.Proofs.Plan.Locality
import Wiring.Proofs.Container.Closing
import Wiring.Proofs.Plan.Lookups
import Wiring.Proofs.Plan.Identities
import Wiring.Proofs.File.Tree
import Wiring.Proofs.Sink.Directory
import Wiring.Proofs.Sink.Memory
import Wiring.Proofs.Unit.Names
import Wiring.Proofs.Container.Scopes
import Wiring.Proofs.Container.Sharing
import Wiring.Proofs.Container.Descent
import Wiring.Proofs.Record.RoundTrip
import Wiring.Proofs.Record.Text
import Wiring.Proofs.Command.Endings
import Wiring.Proofs.Unit.Variables
import Wiring.Proofs.Unit.Hygiene
import Wiring.Proofs.Plan.Identifiers
import Wiring.Proofs.Plan.Derivation
import Wiring.Proofs.Plan.Parents
import Wiring.Proofs.Unit.Missing
import Wiring.Proofs.Signature
import Wiring.Proofs.Unit.Worklist
import Wiring.Proofs.Plan.Termination
import Wiring.Proofs.Container.Renewal
