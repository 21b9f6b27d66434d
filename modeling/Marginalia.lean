import Marginalia.Delivery
import Marginalia.Directive.Basic
import Marginalia.Directive.Dump
import Marginalia.Files.Fault
import Marginalia.Files.Path
import Marginalia.Files.Tree
import Marginalia.Filter
import Marginalia.Invocation
import Marginalia.Json.Reader
import Marginalia.Json.Token
import Marginalia.Json.Writer
import Marginalia.Notice
import Marginalia.Number.Arithmetic
import Marginalia.Number.Binary64
import Marginalia.Number.Digits
import Marginalia.Number.Shortest
import Marginalia.Program.Delivery
import Marginalia.Program.Evaluation
import Marginalia.Program.Fault
import Marginalia.Program.Line
import Marginalia.Program.Literal
import Marginalia.Program.Machine
import Marginalia.Program.Operation
import Marginalia.Program.Reader
import Marginalia.Program.Reader.DebugCall
import Marginalia.Program.Reader.Expr
import Marginalia.Program.Standard
import Marginalia.Program.Syntax
import Marginalia.Program.SyntaxFault
import Marginalia.Program.Token
import Marginalia.Proofs.Delivery
import Marginalia.Proofs.Delivery.Containment
import Marginalia.Proofs.Delivery.Session
import Marginalia.Proofs.Delivery.Table
import Marginalia.Proofs.Delivery.Trace
import Marginalia.Proofs.Directive.Dump
import Marginalia.Proofs.Directive.Grammar
import Marginalia.Proofs.Directive.Parts
import Marginalia.Proofs.Directive.Sigils
import Marginalia.Proofs.Fault
import Marginalia.Proofs.Files.Creation
import Marginalia.Proofs.Files.Growth
import Marginalia.Proofs.Files.Tree
import Marginalia.Proofs.Filter
import Marginalia.Proofs.Invocation
import Marginalia.Proofs.Json.LineEnds
import Marginalia.Proofs.Json.RoundTrip
import Marginalia.Proofs.Json.Scalar
import Marginalia.Proofs.Json.Scan
import Marginalia.Proofs.Json.Soundness
import Marginalia.Proofs.Json.Writer
import Marginalia.Proofs.Program.Bracketed
import Marginalia.Proofs.Program.Call
import Marginalia.Proofs.Program.Code
import Marginalia.Proofs.Program.Expression
import Marginalia.Proofs.Program.Gathering
import Marginalia.Proofs.Program.Invocation
import Marginalia.Proofs.Program.Lexing
import Marginalia.Proofs.Program.Library
import Marginalia.Proofs.Program.Literal
import Marginalia.Proofs.Program.Nesting
import Marginalia.Proofs.Program.Reach
import Marginalia.Proofs.Program.Reader.Consumption
import Marginalia.Proofs.Program.Reader.Extension
import Marginalia.Proofs.Program.Said
import Marginalia.Proofs.Program.Spelling
import Marginalia.Proofs.Program.Token
import Marginalia.Proofs.Remark.Basic
import Marginalia.Proofs.Remark.Direct
import Marginalia.Proofs.Remark.Items
import Marginalia.Proofs.Remark.Lines
import Marginalia.Proofs.Remark.Lockstep
import Marginalia.Proofs.Remark.Meaning
import Marginalia.Proofs.Remark.Programs
import Marginalia.Proofs.Remark.Simulation
import Marginalia.Proofs.Remark.Source
import Marginalia.Proofs.Remark.Trace
import Marginalia.Proofs.Remark.Transparency
import Marginalia.Proofs.Render.Cause
import Marginalia.Proofs.Render.Choice
import Marginalia.Proofs.Render.Literal
import Marginalia.Proofs.Render.Selection
import Marginalia.Proofs.Rewrite.Composition
import Marginalia.Proofs.Rewrite.LineByLine
import Marginalia.Proofs.Rewrite.Liveness
import Marginalia.Proofs.Rewrite.Piece
import Marginalia.Proofs.Settings.DataModel
import Marginalia.Proofs.Settings.Entries
import Marginalia.Proofs.Settings.Faults
import Marginalia.Proofs.Settings.FixedPoint
import Marginalia.Proofs.Settings.FormatName
import Marginalia.Proofs.Settings.Override
import Marginalia.Proofs.Settings.Reading
import Marginalia.Proofs.Settings.Sources
import Marginalia.Proofs.Text.Ends
import Marginalia.Proofs.Text.LowerCase
import Marginalia.Proofs.Text.Normal
import Marginalia.Proofs.Text.Quoted
import Marginalia.Proofs.Text.RawLines
import Marginalia.Proofs.Text.Segments
import Marginalia.Proofs.Text.Utf8
import Marginalia.Proofs.Text.Words
import Marginalia.Proofs.Value.Parts
import Marginalia.Proofs.Value.Reach
import Marginalia.Proofs.Yaml.Flat
import Marginalia.Proofs.Yaml.Folding
import Marginalia.Proofs.Yaml.Quoted
import Marginalia.Proofs.Yaml.Scalar
import Marginalia.Render.Fault
import Marginalia.Render.Format
import Marginalia.Render.Layout
import Marginalia.Render.Shape
import Marginalia.Rewrite
import Marginalia.Run
import Marginalia.Settings.Config
import Marginalia.Settings.Fault
import Marginalia.Settings.Resolve
import Marginalia.Settings.Source
import Marginalia.Text.Base64
import Marginalia.Text.Basic
import Marginalia.Text.Blank
import Marginalia.Text.CharClass
import Marginalia.Text.CharName
import Marginalia.Text.CharName.Alias
import Marginalia.Text.CharName.Part1
import Marginalia.Text.CharName.Part2
import Marginalia.Text.CharName.Part3
import Marginalia.Text.CharName.Part4
import Marginalia.Text.CharName.Part5
import Marginalia.Text.CodePage.Basic
import Marginalia.Text.CodePage.Dos
import Marginalia.Text.CodePage.Iso
import Marginalia.Text.CodePage.Mainframe
import Marginalia.Text.CodePage.Other
import Marginalia.Text.CodePage.Windows
import Marginalia.Text.Cut
import Marginalia.Text.Encoding
import Marginalia.Text.LowerCase
import Marginalia.Text.NameChar
import Marginalia.Text.Normal
import Marginalia.Text.Normal.Marks
import Marginalia.Text.Normal.Variants
import Marginalia.Text.Printable
import Marginalia.Text.Quoted
import Marginalia.Text.Utf8
import Marginalia.Text.Word
import Marginalia.Trace
import Marginalia.Value.Basic
import Marginalia.Value.Settled
import Marginalia.Value.Store
import Marginalia.Yaml.Implicit
import Marginalia.Yaml.Node
import Marginalia.Yaml.Scalar
import Marginalia.Yaml.Writer
