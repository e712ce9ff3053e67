import SymbolIndex.Archive
import SymbolIndex.Bindings
import SymbolIndex.ClassFile.Parser
import SymbolIndex.ClassFile.Pool
import SymbolIndex.ClassFile.Reader
import SymbolIndex.ClassIndex
import SymbolIndex.ClassName
import SymbolIndex.Classpath.Basic
import SymbolIndex.Classpath.Builtin
import SymbolIndex.Classpath.Search
import SymbolIndex.Command.Arguments
import SymbolIndex.Command.Run
import SymbolIndex.Declaration
import SymbolIndex.Descriptor
import SymbolIndex.Files.Basic
import SymbolIndex.Files.Path
import SymbolIndex.Files.Snapshot
import SymbolIndex.Files.Zip
import SymbolIndex.Imports
import SymbolIndex.JavaType
import SymbolIndex.Jdk
import SymbolIndex.Json.Basic
import SymbolIndex.Json.Decode
import SymbolIndex.Main
import SymbolIndex.Occurrence.Basic
import SymbolIndex.Occurrence.Json
import SymbolIndex.Occurrence.Table
import SymbolIndex.Proofs.AddedSources
import SymbolIndex.Proofs.AnonymousClasses
import SymbolIndex.Proofs.ArchiveEntries
import SymbolIndex.Proofs.Attempts
import SymbolIndex.Proofs.Attribution
import SymbolIndex.Proofs.Balance
import SymbolIndex.Proofs.BlockStack
import SymbolIndex.Proofs.BulkOpening
import SymbolIndex.Proofs.Callers
import SymbolIndex.Proofs.ClassBodies
import SymbolIndex.Proofs.ClassFiles
import SymbolIndex.Proofs.ClassNames
import SymbolIndex.Proofs.ClassPaths
import SymbolIndex.Proofs.Comments.Reading
import SymbolIndex.Proofs.Comments.Steps
import SymbolIndex.Proofs.Comments.Tree
import SymbolIndex.Proofs.Comments.Walk
import SymbolIndex.Proofs.Declarations
import SymbolIndex.Proofs.Decoding
import SymbolIndex.Proofs.DescriptorOffsets
import SymbolIndex.Proofs.Descriptors
import SymbolIndex.Proofs.DocumentOrder
import SymbolIndex.Proofs.Enclosing
import SymbolIndex.Proofs.Filling
import SymbolIndex.Proofs.FirstFlaw
import SymbolIndex.Proofs.Grammar
import SymbolIndex.Proofs.ImportedNames
import SymbolIndex.Proofs.Independence
import SymbolIndex.Proofs.Inheritance
import SymbolIndex.Proofs.Inspection
import SymbolIndex.Proofs.Leavings
import SymbolIndex.Proofs.MemberSearch
import SymbolIndex.Proofs.Members
import SymbolIndex.Proofs.Nesting
import SymbolIndex.Proofs.Nodes
import SymbolIndex.Proofs.Order.Bodies
import SymbolIndex.Proofs.Order.Classless
import SymbolIndex.Proofs.Order.Collecting
import SymbolIndex.Proofs.Order.Exchange
import SymbolIndex.Proofs.Order.Members
import SymbolIndex.Proofs.Order.Moving
import SymbolIndex.Proofs.Order.Scopes
import SymbolIndex.Proofs.Order.Steps
import SymbolIndex.Proofs.Order.Walk
import SymbolIndex.Proofs.Origin
import SymbolIndex.Proofs.Outline
import SymbolIndex.Proofs.Places
import SymbolIndex.Proofs.Positions
import SymbolIndex.Proofs.QualifiedNames
import SymbolIndex.Proofs.Run.Basic
import SymbolIndex.Proofs.Run.Declaration
import SymbolIndex.Proofs.Run.Expression
import SymbolIndex.Proofs.Run.Walker
import SymbolIndex.Proofs.Schedules
import SymbolIndex.Proofs.Script
import SymbolIndex.Proofs.SharedInstallations
import SymbolIndex.Proofs.Signatures
import SymbolIndex.Proofs.SourceNames
import SymbolIndex.Proofs.SuperClasses
import SymbolIndex.Proofs.Table
import SymbolIndex.Proofs.Trace
import SymbolIndex.Proofs.Truncation
import SymbolIndex.Proofs.TypeTokens
import SymbolIndex.Proofs.Typing
import SymbolIndex.Proofs.Visibility
import SymbolIndex.Scope
import SymbolIndex.Settings.Basic
import SymbolIndex.SourceIndex
import SymbolIndex.Text.Alphabetic
import SymbolIndex.Text.Blank
import SymbolIndex.Text.Extender
import SymbolIndex.Text.Lossy
import SymbolIndex.Text.Numeric
import SymbolIndex.Text.Pieces
import SymbolIndex.Text.Quoted
import SymbolIndex.Text.Ranges
import SymbolIndex.Text.Unprintable
import SymbolIndex.Text.Word
import SymbolIndex.Toml.Lexeme
import SymbolIndex.Toml.Parser
import SymbolIndex.Toml.Table
import SymbolIndex.Tree.Cursor
import SymbolIndex.Tree.Flaw
import SymbolIndex.Tree.Node
import SymbolIndex.Tree.Source
import SymbolIndex.Tree.TypeText
import SymbolIndex.Walk.Body
import SymbolIndex.Walk.Declaration
import SymbolIndex.Walk.Expression
import SymbolIndex.Walk.Member
import SymbolIndex.Walk.Parameter
import SymbolIndex.Walk.State
import SymbolIndex.Walk.Statement
import SymbolIndex.Walk.TypeName
import SymbolIndex.Walk.Walker
import SymbolIndex.Workspace
