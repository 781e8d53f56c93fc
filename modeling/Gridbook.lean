import Gridbook.Address
import Gridbook.Cell
import Gridbook.CommandLine.Arguments
import Gridbook.CommandLine.Run
import Gridbook.Document
import Gridbook.Export.Csv
import Gridbook.Export.Markdown
import Gridbook.Export.Table
import Gridbook.Extent
import Gridbook.Files
import Gridbook.Formula.Basic
import Gridbook.Formula.Evaluation
import Gridbook.Formula.Outcome
import Gridbook.Formula.Parser
import Gridbook.Grid
import Gridbook.Layout
import Gridbook.Number.Decimal
import Gridbook.Number.Display
import Gridbook.Number.Double
import Gridbook.Number.Reading
import Gridbook.Number.Shortest
import Gridbook.Power
import Gridbook.Session
import Gridbook.Settings.Basic
import Gridbook.Settings.Loading
import Gridbook.Settings.Parser
import Gridbook.Settings.Scalar
import Gridbook.Sheet
import Gridbook.Snapshot.Failure
import Gridbook.Snapshot.Quoted
import Gridbook.Snapshot.Reader
import Gridbook.Snapshot.Writer
import Gridbook.Text.Blank
import Gridbook.Text.CaseContext
import Gridbook.Text.CaseTable
import Gridbook.Text.Lines
import Gridbook.Text.Lower
import Gridbook.Text.Numeral
import Gridbook.Text.Scan
import Gridbook.Text.Utf8
import Gridbook.Workbook
import Gridbook.Main
import Gridbook.Proofs.Number.Nearest
import Gridbook.Proofs.Number.RoundTrip
import Gridbook.Proofs.Grid.Contents
import Gridbook.Proofs.Workbook.Classification
import Gridbook.Proofs.Workbook.Operations
import Gridbook.Proofs.Workbook.Addition
import Gridbook.Proofs.Snapshot.Accepted
import Gridbook.Proofs.Workbook.View
import Gridbook.Proofs.Snapshot.Lines
import Gridbook.Proofs.Snapshot.RoundTrip
import Gridbook.Proofs.Session.Effects
import Gridbook.Proofs.Session.Reachable
import Gridbook.Proofs.Session.Reopening
import Gridbook.Proofs.Session.History
import Gridbook.Proofs.Formula.Written
import Gridbook.Proofs.Formula.PointLists
import Gridbook.Proofs.Formula.Reading
import Gridbook.Proofs.Formula.Rectangle
import Gridbook.Proofs.Formula.Agreement
import Gridbook.Proofs.Formula.Dependence
import Gridbook.Proofs.Session.Modified
import Gridbook.Proofs.Formula.Spacing
import Gridbook.Proofs.Export.Bounds
import Gridbook.Proofs.Export.CsvReading
import Gridbook.Proofs.Export.TableShape
import Gridbook.Proofs.Session.Saving
import Gridbook.Proofs.Workbook.Naming
import Gridbook.Proofs.CommandLine.Composition
import Gridbook.Proofs.CommandLine.Course
import Gridbook.Proofs.CommandLine.Cutting
import Gridbook.Proofs.CommandLine.Spelling
import Gridbook.Proofs.CommandLine.Confinement
import Gridbook.Proofs.CommandLine.Completion
import Gridbook.Proofs.Workbook.Independence
import Gridbook.Proofs.Formula.SheetNames
import Gridbook.Proofs.Formula.Truncation
import Gridbook.Proofs.Session.BreakingOff
import Gridbook.Proofs.Formula.Corners
import Gridbook.Proofs.Snapshot.Blocks
import Gridbook.Proofs.Snapshot.Meaning
import Gridbook.Proofs.Snapshot.Rearranged
import Gridbook.Proofs.Snapshot.FirstRefusal
import Gridbook.Proofs.Snapshot.Elements
import Gridbook.Proofs.Session.Preview
import Gridbook.Proofs.Snapshot.SameElements
import Gridbook.Proofs.Grid.BoundedMap
import Gridbook.Proofs.Workbook.Extents
import Gridbook.Proofs.Export.TightBounds
import Gridbook.Proofs.Settings.Usable
import Gridbook.Proofs.Text.SpacedAddresses
import Gridbook.Proofs.Snapshot.QuotedText
import Gridbook.Proofs.Number.Accuracy
