import SdkForge.Naming
import SdkForge.Version
import SdkForge.Fragment
import SdkForge.Model.Walk
import SdkForge.Model.Envelope
import SdkForge.Model.Document
import SdkForge.Manifest.File
import SdkForge.Toml.Quoted
import SdkForge.Code.SourceFile
import SdkForge.Symbol
import SdkForge.Pattern
import SdkForge.Decorator.Builtin
import SdkForge.Pipeline
import SdkForge.Crate.Assembly
import SdkForge.Server.Builder
import SdkForge.Server.Bytes
import SdkForge.Server.DateTime
import SdkForge.Disk
import SdkForge.Command.Session
import SdkForge.Main
import SdkForge.Proofs.ShapeId
import SdkForge.Proofs.ShapeId.Grammar
import SdkForge.Proofs.ShapeId.Order
import SdkForge.Proofs.Text.Letter
import SdkForge.Proofs.Text.Word
import SdkForge.Proofs.Model.WellFormed
import SdkForge.Proofs.Model.Draft
import SdkForge.Proofs.Model.Staging
import SdkForge.Proofs.Model.Document
import SdkForge.Proofs.Model.Envelope
import SdkForge.Proofs.Model.Reserved
import SdkForge.Proofs.Model.Repeated
import SdkForge.Proofs.Model.Wrapped
import SdkForge.Proofs.Model.Closure
import SdkForge.Proofs.Model.MemberNames
import SdkForge.Proofs.Model.Preorder
import SdkForge.Proofs.Model.Operations
import SdkForge.Proofs.Symbol.Origin
import SdkForge.Proofs.Symbol.Defined
import SdkForge.Proofs.Symbol.Stage
import SdkForge.Proofs.Symbol.Chain
import SdkForge.Proofs.Decorator
import SdkForge.Proofs.Pipeline
import SdkForge.Proofs.Schedule
import SdkForge.Proofs.Crate.Definitions
import SdkForge.Proofs.Crate.Declarations
import SdkForge.Proofs.Crate.Mentions
import SdkForge.Proofs.Crate.Fields
import SdkForge.Proofs.Crate.StringEnum
import SdkForge.Proofs.Crate.FiniteSize
import SdkForge.Proofs.Crate.ErrorText
import SdkForge.Proofs.Crate.TypeNames
import SdkForge.Proofs.Crate.Equality
import SdkForge.Proofs.Crate.Collisions
import SdkForge.Proofs.Crate.Streams
import SdkForge.Proofs.Text.Split
import SdkForge.Proofs.Text.Line
import SdkForge.Proofs.Fragment
import SdkForge.Proofs.Code.Comment
import SdkForge.Proofs.Text.Quoted
import SdkForge.Proofs.Text.Case
import SdkForge.Proofs.Naming
import SdkForge.Proofs.Identifier
import SdkForge.Proofs.Server.Expression
import SdkForge.Proofs.Server.Matching
import SdkForge.Proofs.StableSort
import SdkForge.Proofs.Server.Dispatch
import SdkForge.Proofs.Server.Specificity
import SdkForge.Proofs.Server.Builder
import SdkForge.Proofs.Crate.Slots
import SdkForge.Proofs.Crate.Targets
import SdkForge.Proofs.Symbol.Metadata
import SdkForge.Proofs.Symbol.Wrapping
import SdkForge.Proofs.Symbol.Resolution
import SdkForge.Proofs.Symbol.Memo
import SdkForge.Proofs.Section
import SdkForge.Proofs.Composition
import SdkForge.Proofs.Lint
import SdkForge.Proofs.Crate.Rendering
import SdkForge.Proofs.Crate.BuilderNames
import SdkForge.Proofs.Command.Check
import SdkForge.Proofs.Crate.Patterns
import SdkForge.Proofs.Crate.MissingOperations
import SdkForge.Proofs.ObjectStore
import SdkForge.Proofs.Version
import SdkForge.Proofs.Server.DateTime
import SdkForge.Proofs.Manifest.Name
import SdkForge.Proofs.Toml.Draft
import SdkForge.Proofs.Toml.Reader
import SdkForge.Proofs.Toml.Layout
import SdkForge.Proofs.Manifest.Place
import SdkForge.Proofs.Manifest.Decorators
import SdkForge.Proofs.FileSet
import SdkForge.Proofs.Code.Emptiness
import SdkForge.Proofs.Text.Snake
import SdkForge.Proofs.Symbol.Termination
