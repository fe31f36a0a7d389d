import Shapefile.Storage.Window
import Shapefile.Storage.Staging
import Shapefile.Decimal.Shortest
import Shapefile.Decimal.Fixed
import Shapefile.Decimal.Reading
import Shapefile.Calendar.Date
import Shapefile.Text.Utf8
import Shapefile.Host
import Shapefile.Text.MultiByte
import Shapefile.Text.SampleSets
import Shapefile.Text.Label
import Shapefile.Row
import Shapefile.Projection
import Shapefile.Shape.Header
import Shapefile.Shape.Record.Format
import Shapefile.Shape.Reader
import Shapefile.Shape.File
import Shapefile.Shape.Index
import Shapefile.Table.HeaderFormat
import Shapefile.Table.Reader
import Shapefile.Table.Writer
import Shapefile.Table.File
import Shapefile.Dataset.Writing
import Shapefile.Dataset.Scan
import Shapefile.Proofs.Storage.ReadOperation
import Shapefile.Proofs.Storage.WindowView
import Shapefile.Proofs.Storage.ReadingBack
import Shapefile.Proofs.Storage.StagingContent
import Shapefile.Proofs.Shape.RecordLength
import Shapefile.Proofs.Geometry.RingPlane
import Shapefile.Proofs.Shape.RecordCounts
import Shapefile.Proofs.Shape.PayloadRoundTrip
import Shapefile.Proofs.Shape.PolygonReading
import Shapefile.Proofs.Shape.RecordRoundTrip
import Shapefile.Proofs.Shape.HeaderRoundTrip
import Shapefile.Proofs.Shape.RecordLayout
import Shapefile.Proofs.Shape.StoredWords
import Shapefile.Proofs.Shape.WriterRun
import Shapefile.Proofs.Shape.RecordReading
import Shapefile.Proofs.Shape.IndexReading
import Shapefile.Proofs.Shape.WrittenFiles
import Shapefile.Proofs.Table.Layout
import Shapefile.Proofs.Table.CellWidth
import Shapefile.Proofs.Table.HeaderReading
import Shapefile.Proofs.Table.RowReading
import Shapefile.Proofs.Table.WrittenTable
import Shapefile.Proofs.Dataset.Insert
import Shapefile.Proofs.Running
import Shapefile.Proofs.Lists
import Shapefile.Proofs.Storage.ByteLayout
import Shapefile.Proofs.Storage.FileContent
import Shapefile.Proofs.Dataset.Lockstep
import Shapefile.Proofs.Dataset.Stage
import Shapefile.Proofs.Dataset.WritersOnDisk
import Shapefile.Proofs.Storage.FolderFiles
import Shapefile.Proofs.Storage.PathNames
import Shapefile.Proofs.Dataset.WrittenDataset
import Shapefile.Proofs.Dataset.Creation
import Shapefile.Proofs.Dataset.OpenedDataset
import Shapefile.Proofs.Dataset.RoundTrip
import Shapefile.Proofs.Storage.WriteOperation
import Shapefile.Proofs.Shape.IndexHistory
import Shapefile.Proofs.Dataset.CreationSteps
import Shapefile.Proofs.Dataset.RefusedCreation
import Shapefile.Proofs.Storage.SuccessfulReads
import Shapefile.Proofs.Table.EditedHeader
import Shapefile.Proofs.Table.RowRefusal
import Shapefile.Proofs.Table.TakenHeader
import Shapefile.Proofs.Dataset.CreatedFiles
import Shapefile.Proofs.Dataset.NamedPage
import Shapefile.Proofs.Dataset.ResolvedPage
import Shapefile.Proofs.Shape.SingleShell
import Shapefile.Proofs.Shape.PolygonRereading
import Shapefile.Proofs.Dataset.RandomAccess
import Shapefile.Proofs.Dataset.LifeCycle
import Shapefile.Proofs.Geometry.NumericOrder
import Shapefile.Proofs.Shape.ConservedRings
import Shapefile.Proofs.Shape.SmallestShell
import Shapefile.Proofs.Shape.ElevationRange
import Shapefile.Proofs.Shape.MultiPartDecoding
import Shapefile.Proofs.Geometry.BoundingBox
import Shapefile.Proofs.Shape.RunningBounds
import Shapefile.Proofs.Table.CellText
import Shapefile.Proofs.Decimal.IntegerText
import Shapefile.Proofs.Calendar.CompactDate
import Shapefile.Proofs.Table.RecordCells
import Shapefile.Proofs.Decimal.NumeralForm
import Shapefile.Proofs.Table.KeptValues
import Shapefile.Proofs.Table.NumberCells
import Shapefile.Proofs.Table.IntegerColumns
import Shapefile.Proofs.Table.StoredLengths
import Shapefile.Proofs.Text.CharacterSizes
import Shapefile.Proofs.Text.Utf8RoundTrip
import Shapefile.Proofs.Text.CodePages
import Shapefile.Proofs.Table.EditRun
import Shapefile.Proofs.Table.ColumnNames
import Shapefile.Proofs.Table.CellAccess
import Shapefile.Proofs.Dataset.OpenReaders
import Shapefile.Proofs.Dataset.FieldAccess
import Shapefile.Proofs.Shape.HeaderAcceptance
import Shapefile.Proofs.Table.TextCutting
import Shapefile.Proofs.Storage.RangesRead
import Shapefile.Proofs.Text.BlankPadding
import Shapefile.Proofs.Text.SampleSets
import Shapefile.Proofs.Table.TextColumns
import Shapefile.Proofs.Dataset.RecordBounds
import Shapefile.Proofs.Dataset.RowColumns
import Shapefile.Proofs.Storage.CompanionSearch
import Shapefile.Proofs.Projection.AuthorityClauses
import Shapefile.Proofs.Dataset.ScanRun
import Shapefile.Proofs.Geometry.RingStart
