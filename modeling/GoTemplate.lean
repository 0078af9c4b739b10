import GoTemplate.Command.Arguments
import GoTemplate.Command.Disk
import GoTemplate.Command.Host
import GoTemplate.Command.Report
import GoTemplate.Compile
import GoTemplate.Config
import GoTemplate.Declaration
import GoTemplate.Declaration.Scan
import GoTemplate.Declaration.Spec
import GoTemplate.Draft
import GoTemplate.Error
import GoTemplate.Fragment
import GoTemplate.Go.File
import GoTemplate.Go.Literal
import GoTemplate.Go.Scan
import GoTemplate.Import
import GoTemplate.Job
import GoTemplate.Json.Lexeme
import GoTemplate.Json.Reader
import GoTemplate.Json.Value
import GoTemplate.Main
import GoTemplate.Options
import GoTemplate.Path
import GoTemplate.Region
import GoTemplate.Size
import GoTemplate.Template.Document
import GoTemplate.Template.Node
import GoTemplate.Template.Reader
import GoTemplate.Template.Shape
import GoTemplate.Template.Summary
import GoTemplate.Text
import GoTemplate.Text.CharClass
import GoTemplate.Text.Letter
import GoTemplate.Text.Numeral
import GoTemplate.Text.Printable
import GoTemplate.Text.Quoted
import GoTemplate.Text.Upper
import GoTemplate.Toml.Limits
import GoTemplate.Toml.Quoted
import GoTemplate.Toml.Reader
import GoTemplate.Toml.Scalar
import GoTemplate.Toml.Value
import GoTemplate.Walk
import GoTemplate.Proofs.BlockGrammar
import GoTemplate.Proofs.ByteOrder
import GoTemplate.Proofs.ByteScan
import GoTemplate.Proofs.CoherentCuts
import GoTemplate.Proofs.Contexts
import GoTemplate.Proofs.ControlFree
import GoTemplate.Proofs.DeclarationBlock
import GoTemplate.Proofs.Declarations
import GoTemplate.Proofs.Entries
import GoTemplate.Proofs.EscapeImport
import GoTemplate.Proofs.EscapedPlaces
import GoTemplate.Proofs.ExactImports
import GoTemplate.Proofs.FirstNode
import GoTemplate.Proofs.Frames
import GoTemplate.Proofs.FunctionNames
import GoTemplate.Proofs.ImportPaths
import GoTemplate.Proofs.Imports
import GoTemplate.Proofs.Interpolations
import GoTemplate.Proofs.JsonText
import GoTemplate.Proofs.LayoutImports
import GoTemplate.Proofs.Leaves
import GoTemplate.Proofs.LineComposition
import GoTemplate.Proofs.Listings
import GoTemplate.Proofs.Literal
import GoTemplate.Proofs.LiteralValues
import GoTemplate.Proofs.Markers
import GoTemplate.Proofs.MarkupText
import GoTemplate.Proofs.NameLists
import GoTemplate.Proofs.ParamTypes
import GoTemplate.Proofs.QuotedLiterals
import GoTemplate.Proofs.RawLiterals
import GoTemplate.Proofs.RegionGrammar
import GoTemplate.Proofs.RegionStability
import GoTemplate.Proofs.Regions
import GoTemplate.Proofs.RequiredImports
import GoTemplate.Proofs.RoundTrip
import GoTemplate.Proofs.Runs
import GoTemplate.Proofs.SectionGrammar
import GoTemplate.Proofs.SectionText
import GoTemplate.Proofs.SingleReading
import GoTemplate.Proofs.SourceLiterals
import GoTemplate.Proofs.Spans
import GoTemplate.Proofs.SpecShapes
import GoTemplate.Proofs.Specs
import GoTemplate.Proofs.Statements
import GoTemplate.Proofs.StrayMarkup
import GoTemplate.Proofs.TemplateNames
import GoTemplate.Proofs.TextCuts
import GoTemplate.Proofs.TokenRuns
import GoTemplate.Proofs.Unescaped
