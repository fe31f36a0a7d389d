import Shapefile.Proofs.Dataset.OpenReaders
import Shapefile.Proofs.Dataset.RoundTrip
import Shapefile.Proofs.Dataset.RowColumns
import Shapefile.Proofs.Shape.IndexHistory
import Shapefile.Proofs.Table.CellAccess

/-! Columns and rows of a dataset on any files. A row takes one lookup in the
index, one geometry and one record; a column takes the geometry or the bytes
of one field. Once a row was read, its index entry is the one that is kept, so
each column shows what the row has there. -/
namespace Shapefile

/-- A lookup that succeeded is answered again from the entry that it kept. -/
theorem ShapeIndex.byteOffset_again {index next : ShapeIndex} {channel : Bytes}
    {record offset : Nat} (hFound : index.byteOffset channel record = (.ok offset, next)) :
    next.byteOffset channel record = (.ok offset, next) := by
  rcases hLookUp : index.lookUp channel record with ⟨_ | _, last⟩
  · simp only [byteOffset, ShapeIndex.offset, hLookUp] at hFound
    cases hFound
  · simp only [byteOffset, ShapeIndex.offset, hLookUp, Prod.mk.injEq] at hFound
    obtain ⟨hOffset, rfl⟩ := hFound
    have hKept : last.entry.index = some record := by
      have hEntry : index.found channel record =
          .ok (last.entry.offset, last.entry.contentLength) := by
        rw [found, hLookUp]
        rfl
      have hLast := index_of_found hEntry
      rw [hLookUp] at hLast
      rw [hLast]
    simp only [byteOffset, ShapeIndex.offset, lookUp_kept hKept, hOffset]

/-- A row that can be read has a value for each field, and its cells can be
read one by one. -/
theorem TableReader.OpenOn.cellAt_of_rowAt [Host] {r : TableReader} {channel : Bytes}
    {forced : Option Text.CodePage} (hOpen : r.OpenOn channel forced) {row : Nat}
    {values : List Value} (hRow : rowAt channel forced row = .ok values) :
    row < r.header.recordCount ∧ values.length = r.header.fieldCount ∧
      ∀ (column : Nat) value, values[column]? = some value →
        cellAt channel forced row column = .ok value := by
  rw [rowAt, hOpen.header_eq] at hRow
  have hRead : (r.header.readRow row).onBytes channel {} = (.ok values, _) := Prod.ext hRow rfl
  refine ⟨(TableHeader.onBytes_readRow_ok hRead).1, TableHeader.length_of_readRow hRead, ?_⟩
  intro column value hValue
  rw [cellAt, hOpen.header_eq]
  exact TableHeader.onBytes_readCell hRead hValue {}

namespace DatasetReader

variable {r : DatasetReader} {disk : Disk}

/-- The reader found this row: its index entry is kept, and shape file and
table have the geometry and the attributes there. -/
structure HoldsRow [Host] (r : DatasetReader) (disk : Disk) (row : Nat) (geometry : Option Geometry)
    (attributes : List Value) : Prop where
  shapes : r.shapes.OpenOn (disk.content r.shapesFile)
  geometry : ∃ offset, r.index.byteOffset (disk.content r.indexFile) row = (.ok offset, r.index) ∧
    ShapeReader.recordAt (disk.content r.shapesFile) offset = .ok geometry
  attributes : ∃ forced, r.table.reader.OpenOn (disk.content r.table.file) forced ∧
    TableReader.rowAt (disk.content r.table.file) forced row = .ok attributes

/-- A geometry that was found is found again, by the entry that is kept. -/
theorem OpenOn.geometry_ok (hOpen : r.OpenOn disk) {row : Nat} {geometry : Option Geometry}
    {later : DatasetReader} (hOk : r.geometry disk row = (.ok geometry, later)) : ∃ offset,
      later.index.byteOffset (disk.content later.indexFile) row = (.ok offset, later.index) ∧
      ShapeReader.recordAt (disk.content later.shapesFile) offset = .ok geometry := by
  rw [DatasetReader.geometry] at hOk
  split at hOk
  next => cases hOk
  next offset index hFound =>
    obtain ⟨hGeometry, rfl⟩ := Prod.mk.inj hOk
    refine ⟨offset, ShapeIndex.byteOffset_again hFound, ?_⟩
    rw [← (hOpen.shapes.geometryAt offset).1]
    exact mapError_ok hGeometry

section HoldsRow

variable {row : Nat} {geometry : Option Geometry} {attributes : List Value}

/-- The geometry is found again, and the row stays found. -/
theorem HoldsRow.readGeometry [Host] (hHolds : r.HoldsRow disk row geometry attributes) :
    (r.geometry disk row).1 = .ok geometry ∧
      (r.geometry disk row).2.HoldsRow disk row geometry attributes := by
  obtain ⟨offset, hFound, hRecord⟩ := hHolds.geometry
  obtain ⟨hGeometry, hShapes⟩ := hHolds.shapes.geometryAt offset
  rw [DatasetReader.geometry, hFound]
  simp only [hGeometry, hRecord]
  exact ⟨rfl, hShapes, ⟨offset, hFound, hRecord⟩, hHolds.attributes⟩

/-- An attribute of the row is found on its own, and the row stays found. -/
theorem HoldsRow.readCell [Host] (hHolds : r.HoldsRow disk row geometry attributes) (column : Nat) :
    (∀ value, attributes[column]? = some value →
      (r.table.cell disk row column).1 = .ok value) ∧
      ({ r with table := (r.table.cell disk row column).2 } : DatasetReader).HoldsRow disk row
        geometry attributes := by
  obtain ⟨forced, hTable, hRow⟩ := hHolds.attributes
  obtain ⟨hCell, hNext⟩ := hTable.cell row column
  obtain ⟨_, _, hValues⟩ := hTable.cellAt_of_rowAt hRow
  exact ⟨fun value hValue => hCell.trans (hValues column value hValue), hHolds.shapes,
    hHolds.geometry, forced, hNext, hRow⟩

end HoldsRow

end DatasetReader

namespace Dataset

/-! ### One row and its columns -/

section HoldsRow

variable {d : Dataset} {r : DatasetReader} {disk : Disk} {row : Nat}
  {geometry : Option Geometry} {attributes : List Value}

/-- A row that was found is one of those counted, and the dataset has a column
more than it has attributes. -/
theorem counts_of_holdsRow [Host] (hState : d.state = .reading r)
    (hHolds : r.HoldsRow disk row geometry attributes) :
    row < d.rowCount ∧ d.fieldCount = attributes.length + 1 := by
  obtain ⟨forced, hTable, hRow⟩ := hHolds.attributes
  obtain ⟨hCounted, hLength, _⟩ := hTable.cellAt_of_rowAt hRow
  rw [rowCount, fieldCount, tableHeader?, hState]
  exact ⟨hCounted, congrArg (· + 1) hLength.symm⟩

/-- What is known once a row was read: where its parts were found, and that it
is put together from them. -/
theorem row_ok [Host] (hState : d.state = .reading r) (hOpen : r.OpenOn disk) {values : List Value}
    {next : Dataset} (hRow : runOn (Dataset.row disk row) d = (.ok values, next)) :
    ∃ later geometry attributes, next.state = .reading later ∧
      later.HoldsRow disk row geometry attributes ∧ next.geometryIndex ≤ attributes.length ∧
      values = Row.splice (stamped next.srid geometry) attributes next.geometryIndex := by
  obtain ⟨index, _, hCheck, hRow⟩ := runOn_bind_ok hRow
  obtain ⟨rfl, rfl, hIndex⟩ := checkRow_ok hState hCheck
  obtain ⟨value, middle, hGeometry, hRow⟩ := runOn_bind_ok hRow
  rw [runOn_readGeometry hState] at hGeometry
  obtain ⟨hValue, rfl⟩ := Prod.mk.inj hGeometry
  obtain ⟨attributes, last, hAttributes, hRow⟩ := runOn_bind_ok hRow
  rw [runOn_readAttributes rfl] at hAttributes
  obtain ⟨hTaken, rfl⟩ := Prod.mk.inj hAttributes
  obtain ⟨hSpliced, rfl⟩ := Prod.mk.inj hRow
  obtain ⟨geometry, hFound, rfl⟩ := map_eq_ok hValue
  have hMiddle := hOpen.geometry row
  obtain ⟨forced, hTable⟩ := hMiddle.table
  obtain ⟨hAnswer, hNext⟩ := hTable.row row
  have hAt := hAnswer.symm.trans (mapError_ok hTaken)
  have hKept := hOpen.geometry_ok (Prod.ext hFound rfl)
  obtain ⟨_, hLength, _⟩ := hTable.cellAt_of_rowAt hAt
  refine ⟨_, geometry, attributes, rfl, ⟨hMiddle.shapes, hKept, forced, hNext, hAt⟩, ?_,
    (Except.ok.inj hSpliced).symm⟩
  rw [r.table_geometry] at hLength
  rw [fieldCount, tableHeader?, hState] at hIndex
  simp only [← hLength] at hIndex
  exact Nat.le_of_lt_succ hIndex

/-- A column of a row that was found is what the row has there. -/
theorem field_of_holdsRow [Host] (hState : d.state = .reading r)
    (hHolds : r.HoldsRow disk row geometry attributes)
    (hIndex : d.geometryIndex ≤ attributes.length) (column : Nat) :
    ∃ later, later.HoldsRow disk row geometry attributes ∧
      runOn (field disk row column) d =
        (match (Row.splice (stamped d.srid geometry) attributes d.geometryIndex)[column]? with
          | some value => .ok value
          | none => .error (.state (.columnOutOfRange column (attributes.length + 1))),
          { d with state := .reading later }) := by
  obtain ⟨hCounted, hColumns⟩ := counts_of_holdsRow hState hHolds
  have hChecked : runOn (checkRow row) d = (.ok d.geometryIndex, d) := by
    rw [runOn_checkRow hState, if_neg (Nat.not_le_of_lt hCounted), if_neg (by omega)]
  rw [field, runOn_bind, hChecked, Row.getElem?_splice _ hIndex]
  simp only [runOn_bind, runOn_get]
  by_cases hOutside : d.fieldCount ≤ column
  · have hBehind : Row.attributeColumn? column d.geometryIndex = some (column - 1) := by
      rw [Row.attributeColumn?, if_neg (by omega), if_neg (by omega)]
    rw [if_pos hOutside, hBehind]
    refine ⟨r, hHolds, ?_⟩
    simp only [List.getElem?_eq_none (show attributes.length ≤ column - 1 by omega), ← hState,
      ← hColumns]
    rfl
  · rw [if_neg hOutside]
    cases hColumn : Row.attributeColumn? column d.geometryIndex with
    | none =>
        obtain ⟨hGeometry, hLater⟩ := hHolds.readGeometry
        refine ⟨_, hLater, ?_⟩
        simp only [runOn_readGeometry hState, hGeometry]
        rfl
    | some other =>
        obtain ⟨hCell, hLater⟩ := hHolds.readCell other
        refine ⟨_, hLater, ?_⟩
        have hThere : other < attributes.length := by
          rw [Row.attributeColumn?] at hColumn
          split_ifs at hColumn
          all_goals
            cases hColumn
            omega
        simp only [runOn_readAttribute hState, List.getElem?_eq_getElem hThere,
          hCell _ (List.getElem?_eq_getElem hThere)]
        rfl

/-- A dataset after some columns of a row were asked for, there or not. -/
def afterFields [Host] (d : Dataset) (disk : Disk) (row : Nat) (columns : List Nat) : Dataset :=
  columns.foldl (fun d column => (runOn (field disk row column) d).2) d

/-- Asking for columns, there or not, leaves the row found. -/
theorem afterFields_of_holdsRow [Host] (hState : d.state = .reading r)
    (hHolds : r.HoldsRow disk row geometry attributes)
    (hIndex : d.geometryIndex ≤ attributes.length) (columns : List Nat) :
    ∃ later, later.HoldsRow disk row geometry attributes ∧
      d.afterFields disk row columns = { d with state := .reading later } := by
  induction columns generalizing d r with
  | nil => exact ⟨r, hHolds, by rw [← hState]; rfl⟩
  | cons column columns ih =>
      obtain ⟨later, hLater, hField⟩ := field_of_holdsRow hState hHolds hIndex column
      have hNext : d.afterFields disk row (column :: columns) =
          (({ d with state := .reading later } : Dataset).afterFields disk row columns) := by
        rw [afterFields, List.foldl_cons, hField]
        rfl
      rw [hNext]
      exact ih rfl hLater hIndex

end HoldsRow

/-! ### The agreement -/

/-- Single columns agree with whole rows. On any files that can be opened,
after any calls, none of which changes a file, a row that is answered has a
value for each column of the dataset, and asked for next, in any order and any
number of times, each column is answered with that very value, and a column
behind the last one is refused. -/
theorem field_agrees_with_row [Host] {d opened : Dataset} {disk : Disk} {path : Path}
    {label : Option String} (hOpen : d.openForReading disk path label = .ok opened)
    (calls : List Call) :
    (opened.run disk calls).2.2 = disk ∧ ∀ row values next,
      runOn (Dataset.row disk row) (opened.run disk calls).2.1 = (.ok values, next) →
      values.length = next.fieldCount ∧ ∀ columns column,
        (runOn (field disk row column) (next.afterFields disk row columns)).1 =
          match values[column]? with
          | some value => .ok value
          | none => .error (.state (.columnOutOfRange column next.fieldCount)) := by
  obtain ⟨hDisk, hEither⟩ := run_of_standsFor (.inl (standsFor_of_openForReading hOpen)) calls
  refine ⟨hDisk, fun row values next hRow => ?_⟩
  rcases hEither with ⟨r, hState, hStands⟩ | hClosed
  · obtain ⟨found, geometry, attributes, hFound, hHolds, hIndex, rfl⟩ := row_ok hState hStands hRow
    have hColumns := (counts_of_holdsRow hFound hHolds).2
    refine ⟨?_, fun columns column => ?_⟩
    · rw [hColumns, Row.splice, List.length_insertIdx_of_le_length hIndex]
    · obtain ⟨later, hLater, hAfter⟩ := afterFields_of_holdsRow hFound hHolds hIndex columns
      have hReading : (next.afterFields disk row columns).state = .reading later := by rw [hAfter]
      have hSame : (next.afterFields disk row columns).geometryIndex = next.geometryIndex ∧
          (next.afterFields disk row columns).srid = next.srid := by
        rw [hAfter]
        exact ⟨rfl, rfl⟩
      obtain ⟨_, _, hField⟩ := field_of_holdsRow hReading hLater (hSame.1 ▸ hIndex) column
      rw [hField, hSame.1, hSame.2, hColumns]
  · have hOther : ∀ r, (opened.run disk calls).2.1.state ≠ .reading r := by
      intro r hReading
      rw [hReading] at hClosed
      cases hClosed
    rw [Dataset.row, runOn_of_checkRow hOther] at hRow
    cases hRow

/-- A town without a geometry and one at some point, with an index that ends
between the words of its second entry. -/
def cutFolder [Host] : Disk :=
  let shapes := RecordFormat.shapesFile ⟨.point, .plane⟩
    [none, some { shape := .point ⟨absent, absent, absent⟩ }]
  let index := (ShapeHeader.of (.record ⟨.point, .plane⟩) 58 .zero).bytes ++
    ByteOrder.big.int32 50 ++ ByteOrder.big.int32 2 ++ ByteOrder.big.int32 56
  let table := { townsHeader with recordCount := 2 }.fileOf
    [0x20 :: Field.ascii "Rome".toList, 0x20 :: Field.ascii "Oslo".toList]
  ⟨[(["towns.shp"], .file 0), (["towns.shx"], .file 1), (["towns.dbf"], .file 2)],
    #[shapes.toArray, index.toArray, table.toArray]⟩

/-- Two rows asked for, of which the second one cannot be found, and another
column for the geometry. -/
def cutCalls : List Call := [.row 0, .row 1, .setGeometryIndex 1]

/-- The lookup that failed has left its offset in the kept entry, so the first
town now stands where the second one does; its columns show the same. -/
theorem field_agrees_with_row_cut : ∃ opened next,
    ({} : Dataset).openForReading cutFolder townsPath none = .ok opened ∧
    runOn (Dataset.row cutFolder 0) (opened.run cutFolder cutCalls).2.1 =
      (.ok [.varchar "Rome", .geometry { shape := .point ⟨absent, absent, absent⟩ }], next) ∧
    next.fieldCount = 2 ∧
    (runOn (field cutFolder 0 1) (next.afterFields cutFolder 0 [2, 0])).1 =
      .ok (.geometry { shape := .point ⟨absent, absent, absent⟩ }) ∧
    (runOn (field cutFolder 0 0) (next.afterFields cutFolder 0 [1])).1 = .ok (.varchar "Rome") ∧
    (runOn (field cutFolder 0 2) (next.afterFields cutFolder 0 [])).1 =
      .error (.state (.columnOutOfRange 2 2)) := by
  have hAnswer : (({} : Dataset).openForReading cutFolder townsPath none).map (fun opened =>
      (runOn (Dataset.row cutFolder 0) (opened.run cutFolder cutCalls).2.1).1) =
      .ok (.ok [.varchar "Rome", .geometry { shape := .point ⟨absent, absent, absent⟩ }]) := by
    decide +kernel
  obtain ⟨opened, hOpen, hFirst⟩ := map_eq_ok hAnswer
  rcases hRow : runOn (Dataset.row cutFolder 0) (opened.run cutFolder cutCalls).2.1 with
    ⟨result, next⟩
  rw [hRow] at hFirst
  subst hFirst
  obtain ⟨_, hAgrees⟩ := field_agrees_with_row hOpen cutCalls
  obtain ⟨hLength, hColumns⟩ := hAgrees 0 _ next hRow
  have hTwo : next.fieldCount = 2 := hLength.symm
  refine ⟨opened, next, hOpen, hRow, hTwo, hColumns _ 1, hColumns _ 0, ?_⟩
  rw [hColumns, hTwo]
  rfl

end Dataset

end Shapefile
