import Querymap.Declaration
import Querymap.FileType
import Querymap.Html.Tokenizer
import Querymap.Markup.Recorder
import Querymap.Merge
import Querymap.Pug.Attribute
import Querymap.Pug.Parser
import Querymap.Text.Identifier
import Querymap.Pug.Include
import Querymap.Pug.Mixin
import Querymap.Script.Tree
import Querymap.Script.Entity
import Querymap.Script.Literal
import Querymap.Script.Token
import Querymap.Script.Reader
import Querymap.Script.Binding
import Querymap.Script.Type
import Querymap.Script.Function
import Querymap.Script.Element
import Querymap.Script.Expression
import Querymap.Script.Parser
import Querymap.Script.Recovery
import Querymap.Script.Elements
import Querymap.Script.Calls
import Querymap.Cache
import Querymap.Disk.Edit
import Querymap.Scan
import Querymap.Config.File
import Querymap.Typings
import Querymap.CommandLine.Parser
import Querymap.CommandLine.Generate
import Querymap.CommandLine.Run
import Querymap.Main
import Querymap.Proofs.Dict
import Querymap.Proofs.Extraction
import Querymap.Proofs.Cache.Includers
import Querymap.Proofs.Markup.Forest
import Querymap.Proofs.Markup.Nested
import Querymap.Proofs.Merge
import Querymap.Proofs.Pug.AttributeLines
import Querymap.Proofs.Pug.Heads
import Querymap.Proofs.Pug.RoundTrip
import Querymap.Proofs.Script.Lowering
import Querymap.Proofs.Html.Nesting
import Querymap.Proofs.Script.Agreement
import Querymap.Proofs.Script.Recovery
import Querymap.Proofs.Pug.Indentation
import Querymap.Proofs.Declaration
import Querymap.Proofs.Pug.Expansion
import Querymap.Proofs.Pug.Relayout
import Querymap.Proofs.Attribution
import Querymap.Proofs.Cache.Requests
import Querymap.Proofs.CommandLine.Failures
import Querymap.Proofs.CommandLine.Separate
import Querymap.Proofs.Scan.Inputs
import Querymap.Proofs.Scan.Roots
import Querymap.Proofs.Pug.Return
import Querymap.Proofs.Cache.Tracked
import Querymap.Proofs.CommandLine.Tracking
import Querymap.Proofs.CommandLine.Repeated
import Querymap.Proofs.Pug.AttributeGaps
import Querymap.Proofs.Pug.BlockExpansion
import Querymap.Proofs.Pug.RawBodies
import Querymap.Proofs.Scan.Renamed
import Querymap.Proofs.Reordering
import Querymap.Proofs.Markup.Sequential
import Querymap.Proofs.Pug.Interpolations
import Querymap.Proofs.Pug.Statements
import Querymap.Proofs.Script.Attempts
import Querymap.Proofs.Element
import Querymap.Proofs.Pug.Checked.Lines
