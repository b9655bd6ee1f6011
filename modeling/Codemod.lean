import Codemod.Class
import Codemod.Command.Arguments
import Codemod.Command.Help
import Codemod.Command.Listing
import Codemod.Command.Run
import Codemod.Config
import Codemod.Data.Forms
import Codemod.Data.Inline
import Codemod.Data.Json
import Codemod.Data.Toml
import Codemod.Data.Toml.Scalar
import Codemod.Data.Toml.Table
import Codemod.Data.Value
import Codemod.Decorator
import Codemod.Document
import Codemod.Error
import Codemod.Files.Glob
import Codemod.Files.System
import Codemod.Files.Tree
import Codemod.Grammar.Basic
import Codemod.Grammar.Class
import Codemod.Grammar.Expr
import Codemod.Grammar.Function
import Codemod.Grammar.Import
import Codemod.Grammar.Markup
import Codemod.Grammar.Module
import Codemod.Grammar.Pattern
import Codemod.Grammar.Statement
import Codemod.Grammar.Subscript
import Codemod.Grammar.Type
import Codemod.Imports.Edit
import Codemod.Imports.Find
import Codemod.Layout.Import
import Codemod.Layout.Module
import Codemod.Layout.Node
import Codemod.Layout.Page
import Codemod.Main
import Codemod.Path
import Codemod.Project
import Codemod.Proofs.Classes.Heads
import Codemod.Proofs.Classes.Views
import Codemod.Proofs.Command.CommandLine
import Codemod.Proofs.Command.Editing
import Codemod.Proofs.Config.Checks
import Codemod.Proofs.Config.Layers
import Codemod.Proofs.Data.Forms
import Codemod.Proofs.Data.Records
import Codemod.Proofs.Document.Generated
import Codemod.Proofs.Files.Glob
import Codemod.Proofs.Files.Lookup
import Codemod.Proofs.Files.Paths
import Codemod.Proofs.Files.Walk
import Codemod.Proofs.Grammar.Imports
import Codemod.Proofs.Imports.Actions
import Codemod.Proofs.Imports.AtMostTwo
import Codemod.Proofs.Imports.Clauses
import Codemod.Proofs.Imports.Commute
import Codemod.Proofs.Imports.Counts
import Codemod.Proofs.Imports.Effect
import Codemod.Proofs.Imports.Ensure
import Codemod.Proofs.Imports.Frame
import Codemod.Proofs.Imports.Grouping
import Codemod.Proofs.Imports.Interchange
import Codemod.Proofs.Imports.Locals
import Codemod.Proofs.Imports.Names
import Codemod.Proofs.Imports.Numbering
import Codemod.Proofs.Imports.Order
import Codemod.Proofs.Imports.Places
import Codemod.Proofs.Imports.Positions
import Codemod.Proofs.Imports.Prune
import Codemod.Proofs.Imports.PruneAgree
import Codemod.Proofs.Imports.References
import Codemod.Proofs.Imports.RemoveSplit
import Codemod.Proofs.Imports.RemoveTwice
import Codemod.Proofs.Imports.Status
import Codemod.Proofs.Imports.Undo
import Codemod.Proofs.Layout.Imports
import Codemod.Proofs.Project.Discovery
import Codemod.Proofs.Project.Loading
import Codemod.Proofs.Project.OrderedMap
import Codemod.Proofs.Source.Mentions
import Codemod.Proofs.Source.Tokens
import Codemod.Proofs.Text.Utf8
import Codemod.Source.Below
import Codemod.Source.Comment
import Codemod.Source.Cursor
import Codemod.Source.ImportClause
import Codemod.Source.Item
import Codemod.Source.Node
import Codemod.Source.Token
import Codemod.Text.Blank
import Codemod.Text.EscapedRanges
import Codemod.Text.Identifier
import Codemod.Text.IdentifierRanges
import Codemod.Text.Number
import Codemod.Text.Quoted
import Codemod.Text.StringLiteral
import Codemod.Text.Utf8
