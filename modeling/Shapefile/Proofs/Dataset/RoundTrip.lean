import Shapefile.Proofs.Dataset.Creation
import Shapefile.Proofs.Dataset.OpenedDataset

/-! The whole way of a dataset: created in an empty folder, given rows of which
some are refused, closed, and opened again. Every accepted row comes back under
its number, in any order of questions, unless it stands behind a geometry of
2 ^ 31 bytes or more, and nothing of the refused ones does. -/
namespace Shapefile

namespace Dataset

/-- A row that was read stands column by column for one that was inserted: at
the geometry's column, what reading gives on the bytes of the geometry, with
no spatial reference; at every other column, what the field of this attribute
reads on the bytes that it is encoded in. -/
structure Rebuilt [Host] (f : RecordFormat) (h : TableHeader) (index : Nat)
    (values row : List Value) : Prop where
  length_eq : row.length = values.length
  geometry : ∃ g back, values[index]? = some (.geometry g) ∧
    f.readPayload g = .ok (some back) ∧ row[index]? = some (.geometry { back with srid := 0 })
  others : ∀ column value, column ≠ index → values[column]? = some value →
    ∃ field back, h.fields[if column < index then column else column - 1]? = some field ∧
      field.readBack h.codePage value = .ok back ∧ row[column]? = some back

/-- The two halves read back make up the row. -/
theorem rebuilt_splice [Host] {f : RecordFormat} {h : TableHeader} {index : Nat}
    (stored : StoredRow f h index) {back : Geometry} {backs : List Value}
    (hBack : f.readPayload stored.geometry = .ok (some back))
    (hBacks : h.readBackRow stored.attributes = .ok backs) :
    Rebuilt f h index stored.values
      (Row.splice (.geometry { back with srid := 0 }) backs index) := by
  obtain ⟨value, hValue, hParts⟩ := Option.map_eq_some_iff.mp stored.split_eq
  obtain ⟨hGeometry, hAttributes⟩ := Prod.mk.inj hParts
  rw [hGeometry] at hValue
  have hInside : index < stored.values.length := (List.getElem?_eq_some_iff.mp hValue).1
  have hTotal : stored.values.length = h.fields.length + 1 := stored.length_eq
  have hCount : stored.attributes.length = h.fields.length := by
    rw [← hAttributes, List.length_eraseIdx_of_lt hInside, hTotal]
    rfl
  obtain ⟨hLength, hEach⟩ := mapM_eq_ok hBacks
  rw [List.length_zip, hCount, Nat.min_self] at hLength
  refine ⟨?_, ⟨stored.geometry, back, hValue, hBack, ?_⟩, ?_⟩
  · rw [Row.splice, List.length_insertIdx_of_le_length (by omega)]
    omega
  · rw [Row.splice, List.getElem?_insertIdx_self, if_pos (by omega)]
  · intro column other hColumn hOther
    have hColumnInside := (List.getElem?_eq_some_iff.mp hOther).1
    generalize hPlace : (if column < index then column else column - 1) = place
    have hAttribute : stored.attributes[place]? = some other := by
      rw [← hAttributes, ← hPlace, ← hOther]
      split
      next hBefore => exact List.getElem?_eraseIdx_of_lt hBefore
      next hBehind =>
        rw [List.getElem?_eraseIdx_of_ge (by omega), Nat.sub_add_cancel (by omega)]
    have hPlaceInside : place < h.fields.length := by
      rw [← hCount]
      exact (List.getElem?_eq_some_iff.mp hAttribute).1
    have hField := List.getElem?_eq_getElem hPlaceInside
    obtain ⟨result, hResult, hRow⟩ := hEach place (h.fields[place], other) (by
      rw [List.getElem?_zip_eq_some]
      exact ⟨hField, hAttribute⟩)
    refine ⟨h.fields[place], result, hField, hResult, ?_⟩
    rw [Row.splice, ← hRow, ← hPlace]
    split
    next hBefore => exact List.getElem?_insertIdx_of_lt hBefore
    next hBehind => exact List.getElem?_insertIdx_of_gt (by omega)

/-- Closing completes the files of a dataset that is being written. -/
theorem Writes.close {d : Dataset} {w : DatasetWriter} {index : Nat} (hWrites : d.Writes w index)
    (disk : Disk) : runOn d.close disk = (.ok { d with state := .closed }, w.close disk) := by
  rw [Dataset.close, hWrites.state_eq]
  rfl

/-- A row before this one has a geometry of 2 ^ 31 bytes or more. -/
def Hidden (f : RecordFormat) (index : Nat) (accepted : List (List Value)) (i : Nat) : Prop :=
  ∃ values ∈ accepted.take i, ∃ g, values[index]? = some (.geometry g) ∧
    2 ^ 31 ≤ 2 * f.recordWords (some g)

/-- What hides a row is a stored geometry that is not narrow. -/
theorem hidden_iff [Host] {f : RecordFormat} {h : TableHeader} {index : Nat}
    (rows : List (StoredRow f h index)) (i : Nat) :
    Hidden f index (rows.map StoredRow.values) i ↔ ¬StoredRow.NarrowBefore rows i := by
  have hGeometry (row : StoredRow f h index) :
      row.values[index]? = some (.geometry row.geometry) := by
    obtain ⟨value, hValue, hParts⟩ := Option.map_eq_some_iff.mp row.split_eq
    rw [hValue, (Prod.mk.inj hParts).1]
  rw [StoredRow.NarrowBefore, StoredRow.geometries, ← List.map_take, List.forall_mem_map, Hidden,
    ← List.map_take]
  push Not
  constructor
  · rintro ⟨_, hMember, g, hFound, hWide⟩
    obtain ⟨row, hRow, rfl⟩ := List.mem_map.mp hMember
    rw [hGeometry row] at hFound
    cases hFound
    exact ⟨row, hRow, Nat.not_lt_of_le hWide⟩
  · rintro ⟨row, hRow, hWide⟩
    exact ⟨_, List.mem_map_of_mem hRow, row.geometry, hGeometry row, Nat.le_of_not_lt hWide⟩

/-- The rows of a dataset survive being written, closed, opened and read. The
dataset is created in an empty folder, with a header built column by column
that counts `n` rows; any rows are inserted, of which exactly `n` are accepted,
and the shape file stays under 2 ^ 31 words; the dataset is closed, and opened
again with the same column for the geometry, all with windows and staging areas
of any sizes. Then it counts `n` rows, and after any requests for rows, there or
not, the row of a number below `n` is the accepted row of this number rebuilt
column by column, and no other row is there. A row behind a geometry of 2 ^ 31
bytes or more is lost: the index has a negative offset for it. -/
theorem rows_round_trip_unless_hidden [Host] {disk : Disk} {path : Path}
    {before folder : List String}
    {stem : String} (hEmpty : disk.Site path before folder stem []) {h : TableHeader}
    (hBuilt : h.Built) (hHeader : h.headerLength ≤ 65535) (hRecord : h.recordLength ≤ 65535)
    (f : RecordFormat) {index : Nat} (hIndex : index ≤ h.fieldCount) {n : Nat}
    (hCount : n < 2 ^ 31) (writing reading : DatasetOptions)
    (hForced : reading.forcedCodePage = none) :
    ∃ created first,
      runOn (({ options := writing, geometryIndex := index } : Dataset).create path (.record f)
        { h with recordCount := n }) disk = (.ok created, first) ∧
      ∀ inputs accepted written second,
        created.insertAll first inputs = (accepted, written, second) → accepted.length = n →
        (∀ w, written.state = .writing w → w.shapes.writer.shapes.written < 2 ^ 32) →
        ∃ closed last opened, runOn written.close second = (.ok closed, last) ∧
          ({ options := reading, geometryIndex := index } : Dataset).openForReading last path none =
            .ok opened ∧
          opened.rowCount = n ∧
          ∀ requests i,
            let answer := (runOn (row last i) (opened.afterRows last requests)).1
            (n ≤ i → answer = .error (.rowOutOfRange i n)) ∧
            ∀ values, accepted[i]? = some values →
              (¬Hidden f index accepted i →
                ∃ rebuilt, answer = .ok rebuilt ∧ Rebuilt f h index values rebuilt) ∧
              (Hidden f index accepted i → ∃ words : Int32, words < 0 ∧
                answer = .error (.shape (.malformed (.negativeOffset i words)))) := by
  obtain ⟨hLaid, hPage⟩ := hBuilt.laid
  let header : TableHeader := { h with recordCount := n }
  have hHeaderLaid : header.Laid :=
    ⟨hLaid.fields, hLaid.offsets, hLaid.headerLength_eq, hLaid.recordLength_eq⟩
  have hHeaderPage : header.codePage = .standard := hPage
  let new : Dataset := { options := writing, geometryIndex := index }
  have hUnopened : new.state = .unopened := rfl
  obtain ⟨created, w, first, hCreate, hWrites, hNone, hSite⟩ :=
    create_holds hEmpty hUnopened f hHeaderPage
  refine ⟨created, first, hCreate, ?_⟩
  intro inputs accepted written second hInserted hAccepted hSize
  obtain ⟨rows, last, hRows, hLastWrites, hLast, hFiles, hChanged⟩ :=
    hWrites.insertAll hNone inputs
  rw [hInserted, List.nil_append] at hLast
  rw [hInserted] at hRows hLastWrites hChanged
  have hRows : accepted = rows.map StoredRow.values := hRows
  have hLength : rows.length = n := by
    rw [← hAccepted, hRows, List.length_map]
  obtain ⟨hShapesFile, hIndexFile, hTableFile, hClosing⟩ := hLast.close
  have hClosedSite := (hSite.of_entries hChanged.entries_eq).of_entries hClosing.entries_eq
  rw [← hFiles] at hClosedSite
  have hReadable : StoredRow.Readable rows := by
    refine ⟨hHeaderLaid, hHeaderPage, hLength.symm, ?_, ?_, ?_, hIndex, ?_⟩
    · rw [hLength]
      exact hCount
    · exact Nat.lt_succ_of_le hHeader
    · exact Nat.lt_succ_of_le hRecord
    · have hWords := hSize last hLastWrites.state_eq
      rw [hLast.shapes.holds.written_eq] at hWords
      omega
  let fresh : Dataset := { options := reading, geometryIndex := index }
  obtain ⟨opened, hOpened, hReads, hOpenedCount⟩ :=
    openForReading_reads hClosedSite hShapesFile hIndexFile hTableFile hReadable
      (d := fresh) rfl hForced rfl rfl
  refine ⟨_, _, opened, hLastWrites.close second, hOpened, hOpenedCount.trans hLength, ?_⟩
  intro requests i
  have hAsked := hReads.afterRows hReadable requests
  refine ⟨fun hOutside => ?_, fun values hValues => ?_⟩
  · rw [hAsked.row_outside hReadable (hLength.symm ▸ hOutside), hLength]
  · rw [hRows, List.getElem?_map] at hValues
    obtain ⟨stored, hStored, rfl⟩ := Option.map_eq_some_iff.mp hValues
    rw [hRows, hidden_iff, not_not]
    refine ⟨fun hNarrow => ?_, fun hWide => ?_⟩
    · obtain ⟨back, backs, _, hBack, hBacks, hAnswer, _⟩ :=
        hAsked.row_eq hReadable hStored hNarrow
      refine ⟨_, congrArg Prod.fst hAnswer, ?_⟩
      have hRebuilt := rebuilt_splice stored hBack hBacks
      exact ⟨hRebuilt.length_eq, hRebuilt.geometry, hRebuilt.others⟩
    · obtain ⟨_, hAnswer, _⟩ := hAsked.row_hidden hReadable hStored hWide
      exact ⟨_, hReadable.storedOffset_neg hWide, congrArg Prod.fst hAnswer⟩

/-- A table of towns with a name of four letters. -/
def townsHeader : TableHeader :=
  ((TableHeader.new .epoch).addColumn "name" 'C' 4 0).toOption.getD (.new .epoch)

theorem townsHeader_built : townsHeader.Built := by
  have hAdd : (TableHeader.new .epoch).addColumn "name" 'C' 4 0 = .ok townsHeader := rfl
  exact .add (.new .epoch) hAdd

def townsPath : Path := ⟨"towns.shp"⟩

theorem townsPath_site : ({} : Disk).Site townsPath [] [] "towns" [] :=
  ⟨⟨by decide +kernel, by decide, by decide⟩, by decide, by decide, rfl, rfl, fun _ => rfl⟩

/-- A town, and three rows that are refused: one without a geometry, one that
is too short, and one with a geometry of another kind. -/
def townRows : List (List Value) :=
  [[.geometry { shape := .point ⟨absent, absent, absent⟩ }, .varchar "Rome"],
    [.null, .varchar "Oslo"], [.varchar "Bonn"],
    [.geometry { shape := .lineString [] }, .varchar "Bern"]]

/-- The towns that a dataset accepts once it is created, and how long the shape
file is then. -/
def insertTowns [Host] : Except DatasetError Dataset × Disk → List (List Value) × Option Nat
  | (.error _, _) => ([], none)
  | (.ok created, first) =>
    let (accepted, written, _) := created.insertAll first townRows
    match written.state with
    | .writing w => (accepted, some w.shapes.writer.shapes.written)
    | _ => (accepted, none)

theorem rows_round_trip_unless_hidden_towns :
    ∃ created first written second closed last opened,
      runOn (({} : Dataset).create townsPath (.record ⟨.point, .plane⟩)
        { townsHeader with recordCount := 1 }) {} = (.ok created, first) ∧
      created.insertAll first townRows = (townRows.take 1, written, second) ∧
      runOn written.close second = (.ok closed, last) ∧
      ({} : Dataset).openForReading last townsPath none = .ok opened ∧ opened.rowCount = 1 ∧
      ∃ rebuilt, (runOn (row last 0) (opened.afterRows last [1, 0])).1 = .ok rebuilt ∧
        Rebuilt ⟨.point, .plane⟩ townsHeader 0
          [.geometry { shape := .point ⟨absent, absent, absent⟩ }, .varchar "Rome"] rebuilt := by
  have hTowns : insertTowns (runOn (({} : Dataset).create townsPath (.record ⟨.point, .plane⟩)
      { townsHeader with recordCount := 1 }) {}) = (townRows.take 1, some 128) := by
    decide +kernel
  obtain ⟨created, first, hCreate, hRest⟩ :=
    rows_round_trip_unless_hidden townsPath_site townsHeader_built (by decide) (by decide)
      ⟨.point, .plane⟩ (Nat.zero_le _) (by decide : 1 < 2 ^ 31) {} {} rfl
  have hCreate' : runOn (({} : Dataset).create townsPath (.record ⟨.point, .plane⟩)
      { townsHeader with recordCount := 1 }) {} = (.ok created, first) := hCreate
  rcases hInserted : created.insertAll first townRows with ⟨accepted, written, second⟩
  rw [hCreate', insertTowns, hInserted] at hTowns
  have hAccepted : accepted = townRows.take 1 := by
    dsimp only at hTowns
    split at hTowns
    · exact congrArg Prod.fst hTowns
    · exact congrArg Prod.fst hTowns
  have hSize : ∀ w, written.state = .writing w → w.shapes.writer.shapes.written < 2 ^ 32 := by
    intro w hState
    dsimp only at hTowns
    rw [hState] at hTowns
    rw [Option.some.inj (congrArg Prod.snd hTowns)]
    decide
  subst hAccepted
  obtain ⟨closed, last, opened, hClosed, hOpened, hRowCount, hRows⟩ :=
    hRest townRows _ written second hInserted rfl hSize
  refine ⟨created, first, written, second, closed, last, opened, hCreate', hInserted, hClosed,
    hOpened, hRowCount, ((hRows [1, 0] 0).2 _ rfl).1 ?_⟩
  rintro ⟨_, hMember, _⟩
  cases hMember

/-- A town that is stored with a set of points. -/
def townWith [Host] (points : Geometry) (name : String) {record : List UInt8}
    (hTakes : ∃ length, RecordFormat.length ⟨.multiPoint, .plane⟩ points = .ok length)
    (hName : townsHeader.encodeRow [.varchar name] = .ok record) :
    StoredRow ⟨.multiPoint, .plane⟩ { townsHeader with recordCount := 2 } 0 where
  values := [.geometry points, .varchar name]
  geometry := points
  attributes := [.varchar name]
  record := record
  length_eq := rfl
  split_eq := rfl
  takes := hTakes
  encode_eq := hName

/-- Two towns, the first with 2 ^ 27 points and the second with none. -/
def largeTowns [Host] :
    List (StoredRow ⟨.multiPoint, .plane⟩ { townsHeader with recordCount := 2 } 0) :=
  [townWith RecordFormat.manyPoints "Rome" ⟨_, RecordFormat.length_manyPoints⟩ rfl,
    townWith { shape := .multiPoint [] } "Oslo" ⟨_, rfl⟩ rfl]

/-- Both towns are accepted, in a shape file of less than 2 ^ 31 words. The
second one cannot be read. -/
theorem row_behind_many_points_lost :
    ∃ created first written second closed last opened,
      runOn (({} : Dataset).create townsPath (.record ⟨.multiPoint, .plane⟩)
        { townsHeader with recordCount := 2 }) {} = (.ok created, first) ∧
      created.insertAll first (largeTowns.map StoredRow.values) =
        (largeTowns.map StoredRow.values, written, second) ∧
      (∀ w, written.state = .writing w → w.shapes.writer.shapes.written < 2 ^ 32) ∧
      runOn written.close second = (.ok closed, last) ∧
      ({} : Dataset).openForReading last townsPath none = .ok opened ∧ opened.rowCount = 2 ∧
      ∃ words : Int32, words < 0 ∧ (runOn (row last 1) opened).1 =
        .error (.shape (.malformed (.negativeOffset 1 words))) := by
  let f : RecordFormat := ⟨.multiPoint, .plane⟩
  obtain ⟨_, hStart, _, hWide, _⟩ := RecordFormat.stored_of_length RecordFormat.length_manyPoints
  have hWords : f.wordOffset (StoredRow.geometries largeTowns) < 2 ^ 31 := by
    have hRows : StoredRow.geometries largeTowns =
        [some RecordFormat.manyPoints] ++ [some { shape := .multiPoint [] }] := rfl
    have hNoPoints : f.recordWords (some { shape := .multiPoint [] }) = 20 := by decide
    rw [hRows, RecordFormat.wordOffset_concat, hNoPoints, hStart]
    decide
  obtain ⟨created, first, hCreate, hRest⟩ := rows_round_trip_unless_hidden townsPath_site
    townsHeader_built (by decide) (by decide) f (Nat.zero_le _) (by decide : 2 < 2 ^ 31) {} {} rfl
  obtain ⟨created', w, first', hCreate', hWrites, hNone, _⟩ :=
    create_holds townsPath_site (d := {}) rfl f (h := { townsHeader with recordCount := 2 }) rfl
  have hSame := hCreate.symm.trans hCreate'
  obtain ⟨rfl, rfl⟩ : created = created' ∧ first = first' := by simpa using hSame
  obtain ⟨hAccepted, next, hLastWrites, hLast⟩ := hWrites.insertAll_stored hNone largeTowns
  rcases hInserted : created.insertAll first (largeTowns.map StoredRow.values) with
    ⟨accepted, written, second⟩
  rw [hInserted] at hAccepted hLastWrites hLast
  cases hAccepted
  have hSize : ∀ w, written.state = .writing w → w.shapes.writer.shapes.written < 2 ^ 32 := by
    intro other hState
    rw [hLastWrites.state_eq] at hState
    cases hState
    rw [hLast.shapes.holds.written_eq]
    exact Nat.mul_lt_mul_of_pos_left hWords (by decide)
  obtain ⟨closed, last, opened, hClosed, hOpened, hRowCount, hRows⟩ :=
    hRest _ _ written second hInserted rfl hSize
  refine ⟨created, first, written, second, closed, last, opened, hCreate, hInserted, hSize, hClosed,
    hOpened, hRowCount, ((hRows [] 1).2 _ rfl).2 ?_⟩
  exact ⟨_, List.mem_cons_self, RecordFormat.manyPoints, rfl, Nat.le_of_not_lt hWide⟩

end Dataset

end Shapefile
