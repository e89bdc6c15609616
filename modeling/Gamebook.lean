import Gamebook.Api.Endpoint
import Gamebook.Api.Message
import Gamebook.Api.Target
import Gamebook.Cell.Action
import Gamebook.Cell.Mechanic
import Gamebook.Cell.Requirement
import Gamebook.Cell.Spawn
import Gamebook.Cell.Token
import Gamebook.Check.Diagnostic
import Gamebook.Check.Graph
import Gamebook.Check.Issue
import Gamebook.Check.References
import Gamebook.Check.Report
import Gamebook.Check.Verdict
import Gamebook.Clock
import Gamebook.Command.Build
import Gamebook.Command.Client
import Gamebook.Command.Lenient
import Gamebook.Command.Lint
import Gamebook.Command.Option
import Gamebook.Desk.Basic
import Gamebook.Desk.Build
import Gamebook.Desk.Bundle
import Gamebook.Desk.Draft
import Gamebook.Desk.Load
import Gamebook.Desk.Save
import Gamebook.Dice
import Gamebook.Entries
import Gamebook.Json.Basic
import Gamebook.Json.Reader
import Gamebook.Json.Writer
import Gamebook.Main
import Gamebook.Number.Basic
import Gamebook.Number.Decimal
import Gamebook.Number.Double
import Gamebook.Number.Shortest
import Gamebook.Package.Assets
import Gamebook.Package.Base64
import Gamebook.Package.Manifest
import Gamebook.Package.Sanitize
import Gamebook.Play.Visibility
import Gamebook.Scalar
import Gamebook.Schema.Entity
import Gamebook.Schema.Problem
import Gamebook.Schema.Reader
import Gamebook.Schema.Story
import Gamebook.Story.Arg
import Gamebook.Story.Artifacts
import Gamebook.Story.Basic
import Gamebook.Story.Collection
import Gamebook.Story.Same
import Gamebook.Story.Warning
import Gamebook.Table.Compile
import Gamebook.Table.Csv
import Gamebook.Table.Duplicates
import Gamebook.Table.Row
import Gamebook.Table.Rows
import Gamebook.Text.Blank
import Gamebook.Text.Digit
import Gamebook.Text.Display
import Gamebook.Text.Encoding
import Gamebook.Text.Fold
import Gamebook.Text.Percent
import Gamebook.Text.Printable
import Gamebook.Text.Split
import Gamebook.Text.Units
import Gamebook.Text.Word
import Gamebook.Workspace.Basic
import Gamebook.Workspace.Path
import Gamebook.Workspace.Storage
import Gamebook.Proofs.Rounding
import Gamebook.Proofs.Numeral
import Gamebook.Proofs.NumberCell
import Gamebook.Proofs.TokenRoundTrip
import Gamebook.Proofs.Columns
import Gamebook.Proofs.RowRoundTrip
import Gamebook.Proofs.TableText
import Gamebook.Proofs.TokenFaults
import Gamebook.Proofs.Compilation
import Gamebook.Proofs.CompiledRows
import Gamebook.Proofs.CompiledStory
import Gamebook.Proofs.TableFiles
import Gamebook.Proofs.SchemaRoundTrip
import Gamebook.Proofs.Services
import Gamebook.Proofs.LoadSave
import Gamebook.Proofs.Violations
import Gamebook.Proofs.SameStories
import Gamebook.Proofs.Tidied
import Gamebook.Proofs.SaveLoad
import Gamebook.Proofs.Edges
import Gamebook.Proofs.Play
import Gamebook.Proofs.Places
import Gamebook.Proofs.FileChanges
import Gamebook.Proofs.WrittenTogether
import Gamebook.Proofs.SavedWhole
import Gamebook.Proofs.WrittenRows
import Gamebook.Proofs.ImportedTexts
import Gamebook.Proofs.CellRoundTrip
import Gamebook.Proofs.RowAccount
import Gamebook.Proofs.RowOrder
import Gamebook.Proofs.OneVerdict
import Gamebook.Proofs.Requests
import Gamebook.Proofs.ImportedPackages
import Gamebook.Proofs.ExportedPackages
import Gamebook.Proofs.KeptBackups
import Gamebook.Proofs.JsonText
import Gamebook.Proofs.KeptDraft
import Gamebook.Proofs.GraphWarnings
import Gamebook.Proofs.LocalChecks
import Gamebook.Proofs.ChoiceGroups
import Gamebook.Proofs.WholeArtifacts
import Gamebook.Proofs.SegmentReading
import Gamebook.Proofs.Respacing
import Gamebook.Proofs.TableEdits
import Gamebook.Proofs.NumberLine
import Gamebook.Proofs.VisibleChoices
import Gamebook.Proofs.DiceText
import Gamebook.Proofs.DiceRolls
import Gamebook.Proofs.FiledDiagnostics
import Gamebook.Proofs.Regex
import Gamebook.Proofs.PayloadSearch
import Gamebook.Proofs.DeletedText
import Gamebook.Proofs.CleanedPlaces
import Gamebook.Proofs.AssetChecks
import Gamebook.Proofs.NearestDouble
import Gamebook.Proofs.HeldNumbers
import Gamebook.Proofs.ReportTable
import Gamebook.Proofs.LintReports
