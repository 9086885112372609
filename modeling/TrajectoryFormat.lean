import TrajectoryFormat.Text.Blank
import TrajectoryFormat.Text.Casing
import TrajectoryFormat.Text.Cut
import TrajectoryFormat.Text.WordChar
import TrajectoryFormat.Decimal.Notation
import TrajectoryFormat.Statistics.Report
import TrajectoryFormat.Description.LogicalLine
import TrajectoryFormat.Vocabulary.OutputShape
import TrajectoryFormat.Vocabulary.CoordinateSystem
import TrajectoryFormat.Description.Token
import TrajectoryFormat.Text.Pattern
import TrajectoryFormat.Date.Pattern
import TrajectoryFormat.Date.Reader
import TrajectoryFormat.Description.Compile
import TrajectoryFormat.Delta
import TrajectoryFormat.Number
import TrajectoryFormat.Json
import TrajectoryFormat.Description.Document
import TrajectoryFormat.Record.Segment
import TrajectoryFormat.Record.Transformer
import TrajectoryFormat.Record.Session
import TrajectoryFormat.Load.Loader
import TrajectoryFormat.Load.Memory
import TrajectoryFormat.Load.Directory
import TrajectoryFormat.Command.Answer
import TrajectoryFormat.Main
import TrajectoryFormat.Proofs.ColumnDrift
import TrajectoryFormat.Proofs.TimeRepair
import TrajectoryFormat.Proofs.CanonicalLine
import TrajectoryFormat.Proofs.LoadAccounts
import TrajectoryFormat.Proofs.RunAnswers
import TrajectoryFormat.Proofs.AcceptedLines
import TrajectoryFormat.Proofs.FormatOfLines
import TrajectoryFormat.Proofs.PatternLanguage
import TrajectoryFormat.Proofs.ArrayForm
import TrajectoryFormat.Proofs.CompiledModel
import TrajectoryFormat.Proofs.CompilationGate
import TrajectoryFormat.Proofs.Pieces
import TrajectoryFormat.Proofs.WrittenDescription
import TrajectoryFormat.Proofs.WrittenParts
import TrajectoryFormat.Proofs.LineLists
import TrajectoryFormat.Proofs.WrittenLines
import TrajectoryFormat.Proofs.WrittenFormat
import TrajectoryFormat.Proofs.TextWords
import TrajectoryFormat.Proofs.OpenArrays
import TrajectoryFormat.Proofs.BondedLines
import TrajectoryFormat.Proofs.LogicalLines
import TrajectoryFormat.Proofs.ClosedPatterns
import TrajectoryFormat.Proofs.Layout
import TrajectoryFormat.Proofs.LineFields
import TrajectoryFormat.Proofs.DescribedLines
import TrajectoryFormat.Proofs.UnambiguousLines
import TrajectoryFormat.Proofs.SeparatedValues
import TrajectoryFormat.Proofs.GeneratedIds
import TrajectoryFormat.Proofs.RecordErrors
import TrajectoryFormat.Proofs.GuardedReads
import TrajectoryFormat.Proofs.GuardedRecord
import TrajectoryFormat.Proofs.AcceptedLists
import TrajectoryFormat.Proofs.InvertedIntervals
import TrajectoryFormat.Proofs.DelimiterWords
import TrajectoryFormat.Proofs.IgnoredLines
import TrajectoryFormat.Proofs.SettingOrder
import TrajectoryFormat.Proofs.ShapeSelection
import TrajectoryFormat.Proofs.Statistics.TwoPass
import TrajectoryFormat.Statistics.Call
import TrajectoryFormat.Proofs.ItemsInTurn
import TrajectoryFormat.Proofs.RecordGroups
import TrajectoryFormat.Proofs.DescriptionCharacters
import TrajectoryFormat.Proofs.DescribedBonds
import TrajectoryFormat.Proofs.CopiedValues
import TrajectoryFormat.Proofs.WrittenBonds
import TrajectoryFormat.Proofs.Statistics.AcceptedSamples
import TrajectoryFormat.Proofs.ValuesInTurn
import TrajectoryFormat.Proofs.ArrayTriples
import TrajectoryFormat.Proofs.PlainArrays
import TrajectoryFormat.Proofs.ArrayGrammar
import TrajectoryFormat.Proofs.PatternParts
import TrajectoryFormat.Proofs.PatternTranslation
import TrajectoryFormat.Proofs.CalendarDays
import TrajectoryFormat.Proofs.DateReading
import TrajectoryFormat.Proofs.DateInstants
import TrajectoryFormat.Proofs.DateLines
import TrajectoryFormat.Proofs.Decimal.Exact
import TrajectoryFormat.Proofs.DecimalDeltas
import TrajectoryFormat.Proofs.WordDeltas
import TrajectoryFormat.Proofs.RepeatedNames
import TrajectoryFormat.Proofs.HollowRecords
import TrajectoryFormat.Proofs.WholePieces
import TrajectoryFormat.Proofs.WholeDocuments
