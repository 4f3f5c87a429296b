import Polyschema.Builder.Call
import Polyschema.Builder.Column
import Polyschema.Builder.Entity
import Polyschema.Builder.Relationship
import Polyschema.Builder.Script
import Polyschema.Calendar.Date
import Polyschema.Calendar.Epoch
import Polyschema.Calendar.Iso
import Polyschema.Calendar.Timestamp
import Polyschema.Check.Batch
import Polyschema.Check.Cycle
import Polyschema.Check.Entity
import Polyschema.Check.Finding
import Polyschema.CommandLine.Options
import Polyschema.CommandLine.Run
import Polyschema.Compile.Batch
import Polyschema.Compile.Entity
import Polyschema.Compile.Report
import Polyschema.Defect
import Polyschema.Diagnostic
import Polyschema.Dialect
import Polyschema.Document.Build
import Polyschema.Document.Draft
import Polyschema.Document.File
import Polyschema.Emit.Convex
import Polyschema.Emit.Default
import Polyschema.Emit.Drizzle
import Polyschema.Emit.Emission
import Polyschema.Emit.Import
import Polyschema.Emit.Loss
import Polyschema.Emit.Prisma
import Polyschema.Emit.Relationship
import Polyschema.Emit.Schema
import Polyschema.Emit.Sql
import Polyschema.Emit.Tool
import Polyschema.Entries
import Polyschema.Event
import Polyschema.Fault
import Polyschema.Files.Folder
import Polyschema.Files.Path
import Polyschema.Intake.Arguments
import Polyschema.Intake.Column
import Polyschema.Intake.Entity
import Polyschema.Intake.Part
import Polyschema.Intake.Reading
import Polyschema.Intake.Relationship
import Polyschema.Kind.Basic
import Polyschema.Kind.Codec
import Polyschema.Kind.Fragment
import Polyschema.Kind.Make
import Polyschema.Main
import Polyschema.Migration
import Polyschema.Noted
import Polyschema.Number.Binary64
import Polyschema.Number.Decimal
import Polyschema.Number.Read
import Polyschema.Number.Round
import Polyschema.Number.Shortest
import Polyschema.Proofs.Check
import Polyschema.Proofs.Codec
import Polyschema.Proofs.Compile
import Polyschema.Proofs.DecimalText
import Polyschema.Proofs.Default
import Polyschema.Proofs.Digits
import Polyschema.Proofs.Document
import Polyschema.Proofs.Iso
import Polyschema.Proofs.JsonText
import Polyschema.Proofs.Linkage
import Polyschema.Proofs.Literal
import Polyschema.Proofs.Migration
import Polyschema.Proofs.Noted
import Polyschema.Proofs.Table
import Polyschema.Schema.Column
import Polyschema.Schema.Config
import Polyschema.Schema.Entity
import Polyschema.Schema.Keyed
import Polyschema.Schema.Relationship
import Polyschema.Schema.Table
import Polyschema.Text.Case
import Polyschema.Text.Cut
import Polyschema.Text.Lines
import Polyschema.Text.Name
import Polyschema.Text.Printable
import Polyschema.Text.Quoted
import Polyschema.Text.Ranges
import Polyschema.Text.Sorted
import Polyschema.Text.Word
import Polyschema.Value.Basic
import Polyschema.Value.Binary
import Polyschema.Value.Equal
import Polyschema.Value.Json
import Polyschema.Value.JsonReader
import Polyschema.Value.Literal
import Polyschema.Value.Tagged
import Polyschema.Value.Text
import Polyschema.Yaml.Cursor
import Polyschema.Yaml.Node
import Polyschema.Yaml.Plain
import Polyschema.Yaml.Read
import Polyschema.Yaml.Scalar
import Polyschema.Yaml.Token
import Polyschema.Proofs.RoundTrip
import Polyschema.Proofs.Created
import Polyschema.Proofs.ForeignKey
import Polyschema.Proofs.Cycle
import Polyschema.Proofs.Index
import Polyschema.Proofs.Report
import Polyschema.Proofs.Plan
import Polyschema.Proofs.Run
import Polyschema.Proofs.Stop
import Polyschema.Proofs.Warning
import Polyschema.Proofs.Statement
import Polyschema.Proofs.Remark
import Polyschema.Proofs.Uncommented
import Polyschema.Proofs.FreeText
import Polyschema.Proofs.Reorder
import Polyschema.Proofs.Linked
import Polyschema.Proofs.LiteralRead
import Polyschema.Proofs.JsonEqual
import Polyschema.Proofs.StoredForm
import Polyschema.Proofs.Denotation
import Polyschema.Proofs.Scan
import Polyschema.Proofs.ScanLiteral
import Polyschema.Proofs.Imports
import Polyschema.Proofs.Chain
import Polyschema.Proofs.Nullable
import Polyschema.Proofs.WrittenKey
import Polyschema.Proofs.Magnitude
import Polyschema.Proofs.JunctionTable
import Polyschema.Proofs.Log
import Polyschema.Proofs.ShortestDigits
import Polyschema.Proofs.FloatText
import Polyschema.Proofs.NumberDefault
import Polyschema.Proofs.Nearest
import Polyschema.Proofs.JsonNumber
import Polyschema.Proofs.JsonDocument
import Polyschema.Proofs.KeyOrder
import Polyschema.Proofs.Identifier
import Polyschema.Proofs.ScriptLiteral
import Polyschema.Proofs.RejectedDefault
import Polyschema.Proofs.BareType
import Polyschema.Proofs.CamelCase
import Polyschema.Proofs.ExportName
import Polyschema.Proofs.ConvexLoss
import Polyschema.Proofs.IndexLoss
import Polyschema.Proofs.ConvexMember
import Polyschema.Proofs.DocumentFault
import Polyschema.Proofs.MethodCall
import Polyschema.Proofs.Edit
import Polyschema.Proofs.Built
import Polyschema.Proofs.WholeFloat
import Polyschema.Proofs.BackslashLiteral
import Polyschema.Proofs.WordPattern
