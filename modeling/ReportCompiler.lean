import ReportCompiler.Cell.Address
import ReportCompiler.Cell.Value
import ReportCompiler.Decimal.Text
import ReportCompiler.Formula.Operator
import ReportCompiler.Formula.Parser
import ReportCompiler.Formula.Quoted
import ReportCompiler.Formula.Reading
import ReportCompiler.Formula.Scanner
import ReportCompiler.Main
import ReportCompiler.Proofs.Formula.RoundTrip
import ReportCompiler.Proofs.Session.Exactness
import ReportCompiler.Proofs.Session.Order
import ReportCompiler.Proofs.Target.Render
import ReportCompiler.Text.Letter
import ReportCompiler.Text.Lowercase
import ReportCompiler.Workbook.Reference
import ReportCompiler.Proofs.Workbook.Titles
import ReportCompiler.Proofs.Session.Agreement
import ReportCompiler.Proofs.Session.Trouble
import ReportCompiler.Proofs.Session.Cycles
import ReportCompiler.Proofs.Session.Nesting
import ReportCompiler.Proofs.Session.Rest
import ReportCompiler.Proofs.Formula.Blanks
import ReportCompiler.Proofs.Formula.Grammar
import ReportCompiler.Proofs.Formula.Soundness
import ReportCompiler.Proofs.Formula.Completeness
import ReportCompiler.Proofs.Formula.Groups
import ReportCompiler.Proofs.Formula.Lossless
import ReportCompiler.Proofs.Formula.Resolver
import ReportCompiler.Proofs.Text.Controls
import ReportCompiler.Proofs.Target.Denotation
import ReportCompiler.Proofs.Workbook.Frame
import ReportCompiler.Proofs.Session.Lockstep
import ReportCompiler.Proofs.Program.Reads
import ReportCompiler.Proofs.Target.OneLine
import ReportCompiler.Proofs.Program.Lines
import ReportCompiler.Proofs.Cell.Coordinates
import ReportCompiler.Proofs.Text.Lowercase
import ReportCompiler.Proofs.Workbook.Names
import ReportCompiler.Proofs.Workbook.Spelling
import ReportCompiler.Proofs.Program.Expansion
import ReportCompiler.Proofs.Target.Scope
import ReportCompiler.Proofs.Target.Calls
import ReportCompiler.Proofs.Program.Accessor
import ReportCompiler.Proofs.Cell.NormalForm
import ReportCompiler.Proofs.Workbook.Chains
import ReportCompiler.Proofs.Workbook.Ranges
import ReportCompiler.Proofs.Session.Blame
import ReportCompiler.Proofs.Workbook.Merges
import ReportCompiler.Proofs.Layout.Check
import ReportCompiler.Proofs.Program.Overrides
import ReportCompiler.Proofs.Session.Course
import ReportCompiler.Proofs.Program.Requests
import ReportCompiler.Proofs.Program.Warnings
import ReportCompiler.Proofs.Program.Limits
import ReportCompiler.Proofs.Program.Opening
import ReportCompiler.Proofs.Workbook.Listing
import ReportCompiler.Proofs.Workbook.Lookup
import ReportCompiler.Proofs.Command.Printed
import ReportCompiler.Proofs.Document.Leaves
import ReportCompiler.Proofs.Formula.Numbers
import ReportCompiler.Proofs.Formula.Cursor
import ReportCompiler.Proofs.Document.Literals
import ReportCompiler.Proofs.Package.Dialect
import ReportCompiler.Proofs.Package.Grids
import ReportCompiler.Proofs.Package.Loading
