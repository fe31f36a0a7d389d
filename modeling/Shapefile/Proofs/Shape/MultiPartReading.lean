import Shapefile.Proofs.Shape.MultiPartBytes

/-! Reading a record of parts from bytes of which nothing is known. Each step
gives what the bytes say at its place, or it fails for the reason for which
they are no record. -/
namespace Shapefile

namespace Block

open Reading

variable {d : Bytes} {position : Nat}

theorem onBytes_readCount (field : CountField) :
    (readCount field).onBytes d ⟨position, .little⟩ =
      if position + 4 ≤ d.size then
        if d.wordAt position < 0 then
          (.error (.malformed (.negativeCount field (d.wordAt position))), ⟨position + 4, .little⟩)
        else (.ok (d.wordAt position).toInt.toNat, ⟨position + 4, .little⟩)
      else (.error (.storage (.pastEnd position 4 d.size)), ⟨position, .little⟩) := by
  have hProgram : readCount field = Reading.int32.bind fun n =>
      if n < 0 then .fail (.malformed (.negativeCount field n)) else .done n.toInt.toNat := rfl
  rw [hProgram, onBytes_bind, onBytes_int32]
  by_cases hThere : position + 4 ≤ d.size
  · simp only [if_pos hThere]
    by_cases hNegative : d.wordAt position < 0
    · simp only [if_pos hNegative]
      rfl
    · simp only [if_neg hNegative]
      rfl
  · simp only [if_neg hThere]
    rfl

theorem onBytes_readCount_of_nonneg (field : CountField)
    (hInside : position + 4 ≤ d.size) (hNonneg : 0 ≤ (d.wordAt position).toInt) :
    (readCount field).onBytes d ⟨position, .little⟩ =
      (.ok (d.wordAt position).toInt.toNat, ⟨position + 4, .little⟩) := by
  have hNot : ¬d.wordAt position < 0 := by
    rw [Int32.lt_iff_toInt_lt]
    exact Int.not_lt.mpr hNonneg
  rw [onBytes_readCount, if_pos hInside, if_neg hNot]

theorem onBytes_readCount_of_negative (field : CountField)
    (hInside : position + 4 ≤ d.size) (hNegative : (d.wordAt position).toInt < 0) :
    ∃ fault last, (readCount field).onBytes d ⟨position, .little⟩ =
      (.error (.malformed fault), last) := by
  have hLess : d.wordAt position < 0 := by
    rw [Int32.lt_iff_toInt_lt]
    exact hNegative
  rw [onBytes_readCount, if_pos hInside, if_pos hLess]
  exact ⟨_, _, rfl⟩

theorem onBytes_readCount_of_past (field : CountField)
    (hPast : ¬position + 4 ≤ d.size) :
    ∃ cause last, (readCount field).onBytes d ⟨position, .little⟩ =
      (.error (.storage cause), last) := by
  rw [onBytes_readCount, if_neg hPast]
  exact ⟨_, _, rfl⟩

theorem onBytes_ensureFits (item : RecordItem) (count size : Nat) (cursor : Cursor) :
    (ensureFits item count size).onBytes d cursor =
      if d.size - cursor.position < count * size then
        (.error (.malformed (.itemsPastEnd item count (count * size) (d.size - cursor.position))),
          cursor)
      else (.ok (), cursor) := by
  simp only [ensureFits, Reading.remaining, bind_eq, Reading.bind, onBytes]
  split
  · rfl
  · rfl

theorem onBytes_ensureFits_of_fits (item : RecordItem) {count size : Nat}
    (hFits : position + count * size ≤ d.size) (order : ByteOrder) :
    (ensureFits item count size).onBytes d ⟨position, order⟩ = (.ok (), ⟨position, order⟩) := by
  rw [onBytes_ensureFits, if_neg]
  change ¬d.size - position < count * size
  omega

theorem onBytes_ensureFits_of_past (item : RecordItem) {count size : Nat}
    (hInside : position ≤ d.size) (hPast : d.size < position + count * size)
    (order : ByteOrder) :
    ∃ fault, (ensureFits item count size).onBytes d ⟨position, order⟩ =
      (.error (.malformed fault), ⟨position, order⟩) := by
  rw [onBytes_ensureFits, if_pos]
  · exact ⟨_, rfl⟩
  · change d.size - position < count * size
    omega

end Block

namespace MultiPart

open Reading

variable {f : RecordFormat} {d : Bytes}

/-! ### The part table -/

theorem onBytes_readStarts (hTable : 40 + 4 * (partCount d).toNat ≤ d.size)
    (hStarts : ∀ start ∈ starts d, 0 ≤ start) :
    (Reading.replicate (partCount d).toNat (Block.readCount .partOffset)).onBytes d ⟨40, .little⟩ =
      (.ok ((starts d).map Int.toNat), ⟨positionsOffset d, .little⟩) := by
  rw [replicate_eq_mapM, starts, List.map_map]
  refine onBytes_mapM_range fun i hBelow => ?_
  have hInside : 40 + 4 * i + 4 ≤ d.size := by omega
  have hNonneg : 0 ≤ (d.wordAt (40 + 4 * i)).toInt :=
    hStarts _ (List.mem_map.mpr ⟨i, List.mem_range.mpr hBelow, rfl⟩)
  exact Block.onBytes_readCount_of_nonneg .partOffset hInside hNonneg

theorem onBytes_readStarts_error (hTable : 40 + 4 * (partCount d).toNat ≤ d.size)
    (hNegative : ∃ start ∈ starts d, start < 0) :
    ∃ fault last, (Reading.replicate (partCount d).toNat
      (Block.readCount .partOffset)).onBytes d ⟨40, .little⟩ =
        (.error (.malformed fault), last) := by
  have hRun : ∃ e last, ((List.range (partCount d).toNat).mapM fun _ =>
      Block.readCount .partOffset).onBytes d ⟨40, .little⟩ = (.error e, last) ∧
        ∃ fault, e = .malformed fault := by
    refine onBytes_mapM_range_error 4 (fun i => 0 ≤ (d.wordAt (40 + 4 * i)).toInt)
      (fun e => ∃ fault, e = ShapeError.malformed fault) (fun i hBelow hNonneg => ?_)
      (fun i hBelow hBad => ?_) ?_
    · have hInside : 40 + 4 * i + 4 ≤ d.size := by omega
      exact ⟨_, Block.onBytes_readCount_of_nonneg .partOffset hInside hNonneg⟩
    · have hInside : 40 + 4 * i + 4 ≤ d.size := by omega
      obtain ⟨fault, last, hRead⟩ :=
        Block.onBytes_readCount_of_negative .partOffset hInside (Int.not_le.mp hBad)
      exact ⟨_, last, hRead, fault, rfl⟩
    · obtain ⟨start, hStart, hBelow⟩ := hNegative
      obtain ⟨i, hIndex, rfl⟩ := List.mem_map.mp hStart
      exact ⟨i, List.mem_range.mp hIndex, Int.not_le.mpr hBelow⟩
  obtain ⟨e, last, hRun, fault, rfl⟩ := hRun
  refine ⟨fault, last, ?_⟩
  rw [replicate_eq_mapM]
  exact hRun

theorem readParts_eq (parts points : Nat) :
    Block.readParts parts points = (Block.ensureFits .parts parts 4).bind fun _ =>
      (Reading.replicate parts (Block.readCount .partOffset)).bind fun starts =>
        Reading.ofExcept (Block.partRanges points starts) := rfl

theorem HoldsTable.onBytes_readParts (h : HoldsTable d) :
    (Block.readParts (partCount d).toNat (pointCount d).toNat).onBytes d ⟨40, .little⟩ =
      (.ok (ranges d), ⟨positionsOffset d, .little⟩) := by
  have hParts := h.partCount_nonneg
  have hInside := h.table_inside
  have hFits : 40 + (partCount d).toNat * 4 ≤ d.size := by omega
  have hStarts := onBytes_readStarts (by omega) h.starts_nonneg
  have hOrdered := (ordered_iff h.pointCount_nonneg h.starts_nonneg).mpr h.ordered
  rw [readParts_eq, onBytes_bind_of_ok (Block.onBytes_ensureFits_of_fits .parts hFits _),
    onBytes_bind_of_ok hStarts, Block.partRanges_of_ordered hOrdered]
  rfl

/-- Behind two counts, whatever keeps the table from making sense is found. -/
theorem onBytes_readParts_error (hThere : 40 ≤ d.size) (hParts : 0 ≤ partCount d)
    (hPoints : 0 ≤ pointCount d) (hNot : ¬HoldsTable d) :
    ∃ fault last, (Block.readParts (partCount d).toNat (pointCount d).toNat).onBytes d
      ⟨40, .little⟩ = (.error (.malformed fault), last) := by
  rw [readParts_eq]
  by_cases hFits : 40 + (partCount d).toNat * 4 ≤ d.size
  case neg =>
    obtain ⟨fault, hPast⟩ :=
      Block.onBytes_ensureFits_of_past .parts hThere (Nat.not_le.mp hFits) .little
    exact ⟨fault, _, onBytes_bind_of_error hPast _⟩
  rw [onBytes_bind_of_ok (Block.onBytes_ensureFits_of_fits .parts hFits _)]
  by_cases hStarts : ∀ start ∈ starts d, 0 ≤ start
  case neg =>
    push Not at hStarts
    obtain ⟨fault, last, hNegative⟩ := onBytes_readStarts_error (by omega) hStarts
    exact ⟨fault, last, onBytes_bind_of_error hNegative _⟩
  have hUnordered : ¬Block.Ordered (pointCount d).toNat ((starts d).map Int.toNat) := by
    rw [ordered_iff hPoints hStarts]
    exact fun hOrdered => hNot ⟨hThere, hParts, hPoints, by omega, hStarts, hOrdered⟩
  obtain ⟨fault, hRefused⟩ := Block.partRanges_of_not_ordered hUnordered
  rw [onBytes_bind_of_ok (onBytes_readStarts (by omega) hStarts), hRefused]
  exact ⟨fault, _, rfl⟩

/-! ### The coordinates -/

theorem onBytes_readPosition {position : Nat} (hInside : position + 16 ≤ d.size) :
    Block.readPosition.onBytes d ⟨position, .little⟩ =
      (.ok { x := d.doubleAt position, y := d.doubleAt (position + 8) },
        ⟨position + 16, .little⟩) := by
  have hProgram : Block.readPosition = Reading.float64.bind fun x =>
      Reading.float64.bind fun y => .done { x, y } := rfl
  have hX : (Reading.float64 : Reading ShapeError Float).onBytes d ⟨position, .little⟩ =
      (.ok (d.doubleAt position), ⟨position + 8, .little⟩) := by
    rw [onBytes_float64, if_pos (by omega)]
  have hY : (Reading.float64 : Reading ShapeError Float).onBytes d ⟨position + 8, .little⟩ =
      (.ok (d.doubleAt (position + 8)), ⟨position + 16, .little⟩) := by
    rw [onBytes_float64, if_pos (by omega)]
  rw [hProgram, onBytes_bind_of_ok hX, onBytes_bind_of_ok hY]
  rfl

theorem readPositions_eq (points : Nat) :
    Block.readPositions points = (Block.ensureFits .points points 16).bind fun _ =>
      Reading.replicate points Block.readPosition := rfl

theorem HoldsPositions.onBytes_readPositions (h : HoldsPositions d) :
    (Block.readPositions (pointCount d).toNat).onBytes d ⟨positionsOffset d, .little⟩ =
      (.ok ((List.range (pointCount d).toNat).map (positionAt d)),
        ⟨positionsOffset d + 16 * (pointCount d).toNat, .little⟩) := by
  have hParts := h.partCount_nonneg
  have hPoints := h.pointCount_nonneg
  have hInside := h.positions_inside
  have hFits : positionsOffset d + (pointCount d).toNat * 16 ≤ d.size := by
    rw [positionsOffset]
    omega
  rw [readPositions_eq, onBytes_bind_of_ok (Block.onBytes_ensureFits_of_fits .points hFits _),
    replicate_eq_mapM]
  exact onBytes_mapM_range fun i hBelow => onBytes_readPosition (by omega)

theorem HoldsTable.onBytes_readPositions_error (h : HoldsTable d) (hNot : ¬HoldsPositions d) :
    ∃ fault last, (Block.readPositions (pointCount d).toNat).onBytes d
      ⟨positionsOffset d, .little⟩ = (.error (.malformed fault), last) := by
  have hParts := h.partCount_nonneg
  have hPoints := h.pointCount_nonneg
  have hTable := h.table_inside
  have hInside : positionsOffset d ≤ d.size := by
    rw [positionsOffset]
    omega
  have hPast : d.size < positionsOffset d + (pointCount d).toNat * 16 := by
    by_contra hFits
    rw [positionsOffset] at hFits
    exact hNot ⟨h, by omega⟩
  obtain ⟨fault, hRefused⟩ := Block.onBytes_ensureFits_of_past .points hInside hPast .little
  rw [readPositions_eq]
  exact ⟨fault, _, onBytes_bind_of_error hRefused _⟩

/-- One position with its elevation. -/
def readElevation (c : Coordinate) : Reading ShapeError Coordinate :=
  Reading.float64.bind fun z => .done { c with z }

theorem onBytes_readElevation {position : Nat} (c : Coordinate) :
    (readElevation c).onBytes d ⟨position, .little⟩ =
      if position + 8 ≤ d.size then
        (.ok { c with z := d.doubleAt position }, ⟨position + 8, .little⟩)
      else (.error (.storage (.pastEnd position 8 d.size)), ⟨position, .little⟩) := by
  rw [readElevation, onBytes_bind, onBytes_float64]
  by_cases hInside : position + 8 ≤ d.size
  · simp only [if_pos hInside]
    rfl
  · simp only [if_neg hInside]
    rfl

/-- The elevations of all positions are read behind their range. -/
theorem onBytes_readElevations_eq :
    (Block.readElevations ((List.range (pointCount d).toNat).map (positionAt d))).onBytes d
        ⟨positionsOffset d + 16 * (pointCount d).toNat, .little⟩ =
      ((List.range (pointCount d).toNat).mapM fun i => readElevation (positionAt d i)).onBytes d
        ⟨elevationsOffset d, .little⟩ := by
  have hProgram (cs : List Coordinate) : Block.readElevations cs =
      (Reading.skip 16).bind fun _ => cs.mapM readElevation := rfl
  rw [hProgram, onBytes_bind_of_ok (onBytes_skip 16), List.mapM_map]
  rfl

theorem onBytes_readElevations
    (hInside : (pointCount d).toNat = 0 ∨
      elevationsOffset d + 8 * (pointCount d).toNat ≤ d.size) :
    (Block.readElevations ((List.range (pointCount d).toNat).map (positionAt d))).onBytes d
        ⟨positionsOffset d + 16 * (pointCount d).toNat, .little⟩ =
      (.ok ((List.range (pointCount d).toNat).map fun i =>
          { positionAt d i with z := d.doubleAt (elevationsOffset d + 8 * i) }),
        ⟨elevationsOffset d + 8 * (pointCount d).toNat, .little⟩) := by
  rw [onBytes_readElevations_eq]
  refine onBytes_mapM_range fun i hBelow => ?_
  rw [onBytes_readElevation, if_pos (by omega)]

theorem onBytes_readElevations_error (hPoints : (pointCount d).toNat ≠ 0)
    (hCut : d.size < elevationsOffset d + 8 * (pointCount d).toNat) :
    ∃ cause last,
      (Block.readElevations ((List.range (pointCount d).toNat).map (positionAt d))).onBytes d
        ⟨positionsOffset d + 16 * (pointCount d).toNat, .little⟩ =
          (.error (.storage cause), last) := by
  have hRun : ∃ e last, ((List.range (pointCount d).toNat).mapM fun i =>
      readElevation (positionAt d i)).onBytes d ⟨elevationsOffset d, .little⟩ =
        (.error e, last) ∧ ∃ cause, e = .storage cause := by
    refine onBytes_mapM_range_error 8 (fun i => elevationsOffset d + 8 * i + 8 ≤ d.size)
      (fun e => ∃ cause, e = ShapeError.storage cause) (fun i _ hInside => ?_)
      (fun i _ hPast => ?_) ⟨(pointCount d).toNat - 1, Nat.pred_lt hPoints, by omega⟩
    · rw [onBytes_readElevation, if_pos hInside]
      exact ⟨_, rfl⟩
    · rw [onBytes_readElevation, if_neg hPast]
      exact ⟨_, _, rfl, _, rfl⟩
  obtain ⟨e, last, hRun, cause, rfl⟩ := hRun
  rw [onBytes_readElevations_eq]
  exact ⟨cause, last, hRun⟩

/-! ### The record -/

theorem readCoordinates_eq (f : RecordFormat) (points : Nat) :
    Block.readCoordinates f points = (Block.readPositions points).bind fun plane =>
      (if f.hasElevation then Block.readElevations plane else .done plane).bind fun cs =>
        (if f.hasMeasure then Reading.skip (16 + 8 * points) else .done ()).bind fun _ =>
          .done cs := by
  rcases f with ⟨family, _ | _ | _⟩
  · rfl
  · rfl
  · rfl

/-- Passing over the measures never fails, whether they are there or not. -/
theorem onBytes_passMeasures (f : RecordFormat) (points : Nat) (cs : List Coordinate)
    (cursor : Cursor) :
    ∃ last, ((if f.hasMeasure then Reading.skip (16 + 8 * points) else .done ()).bind fun _ =>
      (.done cs : Reading ShapeError (List Coordinate))).onBytes d cursor = (.ok cs, last) := by
  split
  · exact ⟨_, rfl⟩
  · exact ⟨_, rfl⟩

theorem Decodes.onBytes_readCoordinates (h : Decodes f d) :
    ∃ last, (Block.readCoordinates f (pointCount d).toNat).onBytes d
      ⟨positionsOffset d, .little⟩ = (.ok (coordinates f d), last) := by
  rw [readCoordinates_eq, onBytes_bind_of_ok h.toHoldsPositions.onBytes_readPositions]
  by_cases hElevation : f.hasElevation
  · have hParts := h.partCount_nonneg
    have hPoints := h.pointCount_nonneg
    have hInside : (pointCount d).toNat = 0 ∨
        elevationsOffset d + 8 * (pointCount d).toNat ≤ d.size := by
      rw [elevationsOffset, positionsOffset]
      rcases h.elevations_inside hElevation with hNone | hInside
      · exact Or.inl (by omega)
      · exact Or.inr (by omega)
    have hAll : coordinates f d = (List.range (pointCount d).toNat).map fun i =>
        { positionAt d i with z := d.doubleAt (elevationsOffset d + 8 * i) } :=
      List.map_congr_left fun i _ => if_pos hElevation
    rw [if_pos hElevation, onBytes_bind_of_ok (onBytes_readElevations hInside), hAll]
    exact onBytes_passMeasures f _ _ _
  · have hAll : coordinates f d = (List.range (pointCount d).toNat).map (positionAt d) :=
      List.map_congr_left fun i _ => if_neg hElevation
    rw [if_neg hElevation, hAll]
    exact onBytes_passMeasures f _ _ _

/-- Behind all positions, only missing elevations can keep the rest from being read. -/
theorem HoldsPositions.onBytes_readCoordinates_error (h : HoldsPositions d)
    (hNot : ¬Decodes f d) :
    Truncated f d ∧ ∃ cause last, (Block.readCoordinates f (pointCount d).toNat).onBytes d
      ⟨positionsOffset d, .little⟩ = (.error (.storage cause), last) := by
  have hCut : f.hasElevation ∧ pointCount d ≠ 0 ∧
      d.size < 40 + 4 * partCount d + 16 * pointCount d + (16 + 8 * pointCount d) := by
    by_contra hInside
    refine hNot ⟨h, fun hElevation => ?_⟩
    by_contra hOutside
    exact hInside ⟨hElevation, by omega, by omega⟩
  obtain ⟨hElevation, hSome, hCut⟩ := hCut
  refine ⟨.elevations h hElevation hSome hCut, ?_⟩
  have hParts := h.partCount_nonneg
  have hPoints := h.pointCount_nonneg
  have hPast : d.size < elevationsOffset d + 8 * (pointCount d).toNat := by
    rw [elevationsOffset, positionsOffset]
    omega
  obtain ⟨cause, last, hRun⟩ := onBytes_readElevations_error (by omega) hPast
  rw [readCoordinates_eq, onBytes_bind_of_ok h.onBytes_readPositions, if_pos hElevation]
  exact ⟨cause, last, onBytes_bind_of_error hRun _⟩

theorem HoldsTable.onBytes_readCoordinates_error (h : HoldsTable d) (hNot : ¬HoldsPositions d) :
    ∃ fault last, (Block.readCoordinates f (pointCount d).toNat).onBytes d
      ⟨positionsOffset d, .little⟩ = (.error (.malformed fault), last) := by
  obtain ⟨fault, last, hRun⟩ := h.onBytes_readPositions_error hNot
  rw [readCoordinates_eq]
  exact ⟨fault, last, onBytes_bind_of_error hRun _⟩

/-- A program that starts with both counts goes on with them, or one of them
is negative or cut. -/
theorem readCounts_cases {α : Type} (f : RecordFormat) (field : CountField) (d : Bytes)
    (next : Nat → Nat → Reading ShapeError α) :
    let run := ((Reading.skip 32).bind fun _ => (Block.readCount field).bind fun parts =>
      (Block.readCount .points).bind fun points => next parts points).onBytes d ⟨0, .little⟩
    (40 ≤ d.size ∧ 0 ≤ partCount d ∧ 0 ≤ pointCount d ∧
        run = (next (partCount d).toNat (pointCount d).toNat).onBytes d ⟨40, .little⟩) ∨
      (Malformed d ∧ ∃ fault last, run = (.error (.malformed fault), last)) ∨
      (Truncated f d ∧ ∃ cause last, run = (.error (.storage cause), last)) := by
  intro run
  have hRun : run = ((Block.readCount field).bind fun parts =>
      (Block.readCount .points).bind fun points => next parts points).onBytes d
        ⟨32, .little⟩ := rfl
  rw [hRun]
  by_cases hThere : 36 ≤ d.size
  case neg =>
    have hPast : ¬32 + 4 ≤ d.size := hThere
    obtain ⟨cause, last, hCut⟩ := Block.onBytes_readCount_of_past field hPast
    exact Or.inr (Or.inr ⟨.partCount (by omega), cause, last, onBytes_bind_of_error hCut _⟩)
  by_cases hParts : 0 ≤ partCount d
  case neg =>
    obtain ⟨fault, last, hNegative⟩ :=
      Block.onBytes_readCount_of_negative field hThere (Int.not_le.mp hParts)
    exact Or.inr (Or.inl ⟨.negativeParts hThere (Int.not_le.mp hParts), fault, last,
      onBytes_bind_of_error hNegative _⟩)
  rw [onBytes_bind_of_ok (Block.onBytes_readCount_of_nonneg field hThere hParts)]
  by_cases hBoth : 40 ≤ d.size
  case neg =>
    have hPast : ¬36 + 4 ≤ d.size := hBoth
    obtain ⟨cause, last, hCut⟩ := Block.onBytes_readCount_of_past .points hPast
    exact Or.inr (Or.inr ⟨.pointCount hThere (by omega) hParts, cause, last,
      onBytes_bind_of_error hCut _⟩)
  by_cases hPoints : 0 ≤ pointCount d
  case neg =>
    obtain ⟨fault, last, hNegative⟩ :=
      Block.onBytes_readCount_of_negative .points hBoth (Int.not_le.mp hPoints)
    exact Or.inr (Or.inl ⟨.negativePoints hBoth hParts (Int.not_le.mp hPoints), fault, last,
      onBytes_bind_of_error hNegative _⟩)
  exact Or.inl ⟨hBoth, hParts, hPoints,
    onBytes_bind_of_ok (Block.onBytes_readCount_of_nonneg .points hBoth hPoints) _⟩

theorem readMultiPart_eq (f : RecordFormat) (field : CountField) :
    Block.readMultiPart f field = (Reading.skip 32).bind fun _ =>
      (Block.readCount field).bind fun parts => (Block.readCount .points).bind fun points =>
        (Block.readParts parts points).bind fun ranges =>
          (Block.readCoordinates f points).bind fun cs => .done (ranges.map (Block.slice cs)) := rfl

/-- What reading the parts of a record gives, whatever the bytes are. -/
theorem readMultiPart_cases (f : RecordFormat) (field : CountField) (d : Bytes) :
    let result := ((Block.readMultiPart f field).onBytes d ⟨0, .little⟩).1
    (Decodes f d ∧ result = .ok (parts f d)) ∨
      (Malformed d ∧ ∃ fault, result = .error (.malformed fault)) ∨
      (Truncated f d ∧ ∃ cause, result = .error (.storage cause)) := by
  rw [readMultiPart_eq]
  rcases readCounts_cases f field d _ with ⟨hThere, hParts, hPoints, hRun⟩ |
    ⟨hMalformed, fault, last, hRun⟩ | ⟨hTruncated, cause, last, hRun⟩
  case inr.inl => exact Or.inr (Or.inl ⟨hMalformed, fault, congrArg Prod.fst hRun⟩)
  case inr.inr => exact Or.inr (Or.inr ⟨hTruncated, cause, congrArg Prod.fst hRun⟩)
  rw [hRun]
  by_cases hTable : HoldsTable d
  case neg =>
    have hNot : ¬HoldsPositions d := fun h => hTable h.toHoldsTable
    obtain ⟨fault, last, hError⟩ := onBytes_readParts_error hThere hParts hPoints hTable
    rw [onBytes_bind_of_error hError]
    exact Or.inr (Or.inl ⟨malformed_of_not_holdsPositions hThere hParts hNot, fault, rfl⟩)
  rw [onBytes_bind_of_ok hTable.onBytes_readParts]
  by_cases hPositions : HoldsPositions d
  case neg =>
    obtain ⟨fault, last, hError⟩ := hTable.onBytes_readCoordinates_error (f := f) hPositions
    rw [onBytes_bind_of_error hError]
    exact Or.inr (Or.inl ⟨malformed_of_not_holdsPositions hThere hParts hPositions, fault, rfl⟩)
  by_cases hDecodes : Decodes f d
  case neg =>
    obtain ⟨hTruncated, cause, last, hError⟩ :=
      hPositions.onBytes_readCoordinates_error hDecodes
    rw [onBytes_bind_of_error hError]
    exact Or.inr (Or.inr ⟨hTruncated, cause, rfl⟩)
  obtain ⟨last, hOk⟩ := hDecodes.onBytes_readCoordinates
  rw [onBytes_bind_of_ok hOk]
  exact Or.inl ⟨hDecodes, rfl⟩

end MultiPart

end Shapefile
