import MarkdownCanon.Address.Autolink
import MarkdownCanon.Address.CharacterReference
import MarkdownCanon.Address.EntityNames
import MarkdownCanon.Address.Url
import MarkdownCanon.CodeFormatter.Basic
import MarkdownCanon.CodeFormatter.Gofmt
import MarkdownCanon.CodeFormatter.Registry
import MarkdownCanon.CommandLine.Arguments
import MarkdownCanon.CommandLine.Declaration
import MarkdownCanon.CommandLine.Program
import MarkdownCanon.CommandLine.Session
import MarkdownCanon.CommandLine.Word
import MarkdownCanon.Diff.Console
import MarkdownCanon.Diff.Hunk
import MarkdownCanon.Diff.Match
import MarkdownCanon.Diff.Narrow
import MarkdownCanon.Diff.Segment
import MarkdownCanon.Diff.Unified
import MarkdownCanon.Document.Absence
import MarkdownCanon.Document.Blankness
import MarkdownCanon.Document.Build
import MarkdownCanon.Document.Node
import MarkdownCanon.FieldNames
import MarkdownCanon.Files.Discovery
import MarkdownCanon.Files.Disk
import MarkdownCanon.Files.OsError
import MarkdownCanon.Files.Path
import MarkdownCanon.Formatting.Delivery
import MarkdownCanon.Formatting.Failure
import MarkdownCanon.Formatting.Format
import MarkdownCanon.Journal
import MarkdownCanon.Log.Record
import MarkdownCanon.Log.Setup
import MarkdownCanon.Main
import MarkdownCanon.Markup.CodeSpan
import MarkdownCanon.Markup.Escape
import MarkdownCanon.Markup.LinkTail
import MarkdownCanon.Number.Double
import MarkdownCanon.Number.Shortest
import MarkdownCanon.Problem
import MarkdownCanon.Proofs.Balance
import MarkdownCanon.Proofs.Running
import MarkdownCanon.Proofs.Trees
import MarkdownCanon.Proofs.Writing
import MarkdownCanon.Reading.Document
import MarkdownCanon.Reading.Error
import MarkdownCanon.Reading.Input
import MarkdownCanon.Render.Block
import MarkdownCanon.Render.Document
import MarkdownCanon.Render.Failure
import MarkdownCanon.Render.Grid
import MarkdownCanon.Render.Indentation
import MarkdownCanon.Render.Inline
import MarkdownCanon.Render.ListLevel
import MarkdownCanon.Render.Monad
import MarkdownCanon.Render.State
import MarkdownCanon.Render.Table
import MarkdownCanon.Render.Walk
import MarkdownCanon.Render.Writer
import MarkdownCanon.Settings.Field
import MarkdownCanon.Settings.OptionError
import MarkdownCanon.Settings.Reader
import MarkdownCanon.Settings.Renderer
import MarkdownCanon.Text.Alphanumeric
import MarkdownCanon.Text.Blank
import MarkdownCanon.Text.Case
import MarkdownCanon.Text.CellWidth
import MarkdownCanon.Text.Cells
import MarkdownCanon.Text.CharRange
import MarkdownCanon.Text.Decimal
import MarkdownCanon.Text.Lines
import MarkdownCanon.Text.Literal
import MarkdownCanon.Text.Printable
import MarkdownCanon.Text.Run
import MarkdownCanon.Text.Spacing
import MarkdownCanon.Text.Utf8
import MarkdownCanon.Token.Basic
import MarkdownCanon.Token.Block
import MarkdownCanon.Token.Inline
import MarkdownCanon.Value
import MarkdownCanon.Version
import MarkdownCanon.Proofs.BalancedWalk
import MarkdownCanon.Proofs.Shape
import MarkdownCanon.Proofs.Acceptance
import MarkdownCanon.Proofs.Emission
import MarkdownCanon.Proofs.Leaves
import MarkdownCanon.Proofs.LineEnds
import MarkdownCanon.Proofs.Locality
import MarkdownCanon.Proofs.Layout
import MarkdownCanon.Proofs.ReadTrees
import MarkdownCanon.Proofs.Lockstep
import MarkdownCanon.Proofs.LockstepWalk
import MarkdownCanon.Proofs.Realignment
import MarkdownCanon.Proofs.IndentStyle
import MarkdownCanon.Proofs.Quoting
import MarkdownCanon.Proofs.Containers
import MarkdownCanon.Proofs.Margins
import MarkdownCanon.Proofs.FormattedTrees
import MarkdownCanon.Proofs.Preformatting
import MarkdownCanon.Proofs.Pairing
import MarkdownCanon.Proofs.Pipes
import MarkdownCanon.Proofs.TableReading
import MarkdownCanon.Proofs.LiteralText
import MarkdownCanon.Proofs.BlockOpeners
import MarkdownCanon.Proofs.FencedCode
import MarkdownCanon.Proofs.Delimiters
import MarkdownCanon.Proofs.Separation
import MarkdownCanon.Proofs.FileTree
import MarkdownCanon.Proofs.RunEffects
import MarkdownCanon.Proofs.InPlace
import MarkdownCanon.Proofs.Independence
import MarkdownCanon.Proofs.HeadingReading
import MarkdownCanon.Proofs.VoidSpans
import MarkdownCanon.Proofs.SpanReading
import MarkdownCanon.Proofs.UnderlinedHeadings
import MarkdownCanon.Proofs.BlankBlocks
import MarkdownCanon.Proofs.CutNumbers
import MarkdownCanon.Proofs.PrintedTree
import MarkdownCanon.Proofs.Underscores
import MarkdownCanon.Proofs.SingleSpaces
import MarkdownCanon.Proofs.ColumnWidths
import MarkdownCanon.Proofs.SearchOrder
import MarkdownCanon.Proofs.LongestMatch
import MarkdownCanon.Proofs.Differences
import MarkdownCanon.Proofs.LineRoles
import MarkdownCanon.Proofs.BlankLines
import MarkdownCanon.Proofs.TextCuts
import MarkdownCanon.Proofs.WriterRuns
import MarkdownCanon.Proofs.LinePrefixes
import MarkdownCanon.Proofs.NormalSpacing
