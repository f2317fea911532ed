import Stocktake.Action.Basic
import Stocktake.Action.Parameter
import Stocktake.Action.Standard
import Stocktake.Bus
import Stocktake.Command.Arguments
import Stocktake.Command.Basic
import Stocktake.Command.Lines
import Stocktake.Command.Program
import Stocktake.Command.Usage
import Stocktake.Config.Basic
import Stocktake.Container.Basic
import Stocktake.Container.Input
import Stocktake.Container.Shape
import Stocktake.Container.Tree
import Stocktake.Dict
import Stocktake.Digest.Sha256
import Stocktake.Error
import Stocktake.Files
import Stocktake.Filter.Basic
import Stocktake.Filter.Error
import Stocktake.Filter.Factory
import Stocktake.Json.Basic
import Stocktake.Json.Reader
import Stocktake.Main
import Stocktake.Module.Basic
import Stocktake.Module.Filesystem
import Stocktake.Module.General
import Stocktake.Module.Packages
import Stocktake.Module.Recording
import Stocktake.Module.Rows
import Stocktake.Module.Standard
import Stocktake.Number.Binary64
import Stocktake.Number.Numeral
import Stocktake.Output.Lines
import Stocktake.Output.Paint
import Stocktake.Plugin.Loader
import Stocktake.Plugin.Manifest
import Stocktake.Proofs.Action.Accounting
import Stocktake.Proofs.Action.Fates
import Stocktake.Proofs.Action.Hiding
import Stocktake.Proofs.Action.ListValues
import Stocktake.Proofs.Action.TagEdits
import Stocktake.Proofs.Config.Overrides
import Stocktake.Proofs.Container.Addresses
import Stocktake.Proofs.Container.CarryOver
import Stocktake.Proofs.Container.Columns
import Stocktake.Proofs.Container.Expansion
import Stocktake.Proofs.Container.Freshness
import Stocktake.Proofs.Container.ListLaws
import Stocktake.Proofs.Container.Places
import Stocktake.Proofs.Container.Pruning
import Stocktake.Proofs.Container.RecordForm
import Stocktake.Proofs.Container.Shapes
import Stocktake.Proofs.Container.TreeLaws
import Stocktake.Proofs.Files.Walk
import Stocktake.Proofs.Filter.LiteralSearch
import Stocktake.Proofs.Filter.Templates
import Stocktake.Proofs.Module.Aggregation
import Stocktake.Proofs.Module.Catalog
import Stocktake.Proofs.Module.Endings
import Stocktake.Proofs.Module.FileLists
import Stocktake.Proofs.Module.FilesystemImport
import Stocktake.Proofs.Module.Grouping
import Stocktake.Proofs.Module.PackageImports
import Stocktake.Proofs.Module.PackageTags
import Stocktake.Proofs.Module.PathTrees
import Stocktake.Proofs.Module.PathViews
import Stocktake.Proofs.Module.ResourceTable
import Stocktake.Proofs.Module.RowRecords
import Stocktake.Proofs.Module.SelectionLists
import Stocktake.Proofs.Module.SelectionQueries
import Stocktake.Proofs.Module.TaggedResources
import Stocktake.Proofs.Number.Numerals
import Stocktake.Proofs.Output.Alignment
import Stocktake.Proofs.Plugin.Candidates
import Stocktake.Proofs.Plugin.Shadowing
import Stocktake.Proofs.Query.Faults
import Stocktake.Proofs.Query.Lookups
import Stocktake.Proofs.Query.Meaning
import Stocktake.Proofs.Query.Shown
import Stocktake.Proofs.Query.Success
import Stocktake.Proofs.Query.Wrapper
import Stocktake.Proofs.Record.Issue
import Stocktake.Proofs.Store.Runs
import Stocktake.Proofs.Text.Cuts
import Stocktake.Proofs.Text.FinalSigma
import Stocktake.Proofs.Text.Literals
import Stocktake.Proofs.Text.Quoting
import Stocktake.Proofs.Text.Replacing
import Stocktake.Proofs.World.Writes
import Stocktake.Query.Compile
import Stocktake.Record.Basic
import Stocktake.Regex.CategoryTable
import Stocktake.Regex.CharSet
import Stocktake.Regex.Expr
import Stocktake.Regex.FoldTable
import Stocktake.Regex.PropertyTable
import Stocktake.Regex.ScriptTable
import Stocktake.Regex.Size
import Stocktake.Regex.Syntax
import Stocktake.Session
import Stocktake.Shell.Arithmetic
import Stocktake.Shell.Format
import Stocktake.Shell.Reader
import Stocktake.Shell.Run
import Stocktake.Shell.Script
import Stocktake.Shell.Utility
import Stocktake.Store.Basic
import Stocktake.Store.Error
import Stocktake.Store.Setup
import Stocktake.Store.Vocabulary
import Stocktake.Tag
import Stocktake.Tag.Input
import Stocktake.Text.Blank
import Stocktake.Text.CaseTable
import Stocktake.Text.EscapedTable
import Stocktake.Text.Glob
import Stocktake.Text.Lowercase
import Stocktake.Text.Octets
import Stocktake.Text.Quoted
import Stocktake.Text.Split
import Stocktake.Toml.Lexeme
import Stocktake.Toml.Reader
import Stocktake.Toml.Table
import Stocktake.Toml.Value
import Stocktake.World
import Stocktake.Yaml.Cursor
import Stocktake.Yaml.Event
import Stocktake.Yaml.Scalar
import Stocktake.Yaml.Token
import Stocktake.Yaml.Value
import Stocktake.Proofs.Container.Walks
import Stocktake.Proofs.Output.Outlines
import Stocktake.Proofs.Action.PlainRecords
import Stocktake.Proofs.Action.Settings
import Stocktake.Proofs.Bus.Deliveries
