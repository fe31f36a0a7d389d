import Shapefile.Proofs.Shape.RecordRoundTrip
import Shapefile.Proofs.Storage.StagingContent
import Shapefile.Proofs.Storage.WindowView

/-! Length, writer and reader of a payload agree. The length is known exactly
when the payload can be written, and the reader takes exactly what the writer
gave, whatever stands around it. -/
namespace Shapefile.RecordFormat

open Reading

/-- A payload is read as this shape, without a spatial reference. It may
stand anywhere in a channel, and the window on the channel may be of any size.
The cursor stops right behind the payload. -/
def GivesBack (f : RecordFormat) (payload : List UInt8) (shape : Shape) : Prop :=
  ∀ (before after : List UInt8) (capacity : Nat) (recordType : ShapeType), recordType ≠ .null →
    let channel : Bytes := (before ++ payload ++ after).toArray
    let opened : Window :=
      { Window.onChannel channel capacity with cursor := ⟨before.length, .little⟩ }
    ∃ last, opened.run channel (f.read recordType) = (.ok (some { shape, srid := 0 }), last) ∧
      last.cursor = ⟨before.length + payload.length, .little⟩

theorem givesBack_of_reads {f : RecordFormat} {payload : List UInt8} {shape : Shape}
    (hReads : Reads f.readShape .little payload .little shape) : f.GivesBack payload shape := by
  intro before after capacity recordType hType channel opened
  have hProgram : f.read recordType = f.readShape.bind fun shape => .done (some { shape }) := by
    cases recordType with
    | null => exact absurd rfl hType
    | record _ => rfl
    | multiPatch => rfl
  have hRead : Reads (f.read recordType) .little (payload ++ []) .little
      (some { shape, srid := 0 }) := by
    rw [hProgram]
    exact hReads.bind (Reads.done .little _)
  rw [List.append_nil] at hRead
  have hPlace : channel.HasAt before.length payload := Bytes.HasAt.of_toList before after rfl
  have hViews : opened.Views channel := (Window.views_onChannel channel capacity).withCursor _
  obtain ⟨last, hRun, hCursor, _⟩ := hViews.run_ok (hRead channel before.length hPlace)
  exact ⟨last, hRun, hCursor⟩

/-- A coordinate as the records of a format hold it. An elevation that is
missing becomes zero, and a format without elevations drops the one there is. -/
def held (f : RecordFormat) (c : Coordinate) : Coordinate :=
  match f.dimensions with
  | .plane | .measured => ⟨c.x, c.y, absent⟩
  | .elevated => ⟨c.x, c.y, if c.z.isNaN then 0 else c.z⟩

theorem keep_eq_held (f : RecordFormat) : f.keep = f.held := by
  rcases f with ⟨family, _ | _ | _⟩
  · rfl
  · rfl
  · rfl

theorem line_eq (part : List Coordinate) :
    line part = if part.length = 1 then part ++ part else part := by
  match part with
  | [] => rfl
  | [c] => rfl
  | first :: second :: rest => simp [line]

/-- What the families without rings give back, in terms of the geometry. -/
theorem readBack_eq {f : RecordFormat} {g : Geometry} {puts : List (List UInt8)}
    (hPuts : f.puts g = .ok puts) :
    (f.family = .point → ∃ c, g.shape = .point c ∧ f.readBack g.shape = .point (f.held c)) ∧
      (f.family = .multiPoint →
        f.readBack g.shape = .multiPoint (g.coordinates.map f.held)) ∧
      (f.family = .polyLine →
        f.readBack g.shape = .multiLineString (g.shape.parts.map fun part =>
          (if part.length = 1 then part ++ part else part).map f.held)) := by
  rw [Geometry.coordinates, ← Shape.flatten_parts]
  rcases puts_cases hPuts with ⟨hFamily, c, hShape, _⟩ | ⟨hFamily, cs, hSet, _⟩ |
    ⟨hFamily, lines, hLines, _⟩ | ⟨hFamily, _⟩
  · simp only [readBack, hFamily, hShape, keep_eq_held]
    simp
  · simp only [readBack, hFamily, hSet, keep_eq_held, parts_of_pointSet? hSet]
    simp
  · have hLine (part : List Coordinate) : line (part.map f.held) =
        (if part.length = 1 then part ++ part else part).map f.held := by
      rw [line_eq, List.length_map]
      split
      · exact List.map_append.symm
      · rfl
    simp only [readBack, hFamily, hLines, keep_eq_held, parts_of_lines? hLines, hLine]
    simp
  · simp [hFamily]

/-- The three ways to go over a record agree for every format and every
geometry whose points and parts can be counted. There is a length exactly when
there are bytes to write. The writer then adds as many bytes as the length
says beyond the shape type, in whole words. The reader gives back a point as
it is held, a point set as the points in order, and lines as their parts in
order, where a part of one point has it twice and a part may be empty. -/
theorem payload_round_trip (f : RecordFormat) {g : Geometry} (hCounts : g.Countable) :
    ((∃ length, f.length g = .ok length) ↔ ∃ puts, f.puts g = .ok puts) ∧
      ∀ puts, f.puts g = .ok puts →
        f.length g = .ok (puts.flatten.length + 4) ∧
        (puts.flatten.length + 4) % 4 = 0 ∧
        (∀ s : Staging, (s.putAll puts).content.toList = s.content.toList ++ puts.flatten ∧
          (s.putAll puts).written = s.written + puts.flatten.length) ∧
        (f.family = .point →
          ∃ c, g.shape = .point c ∧ f.GivesBack puts.flatten (.point (f.held c))) ∧
        (f.family = .multiPoint →
          f.GivesBack puts.flatten (.multiPoint (g.coordinates.map f.held))) ∧
        (f.family = .polyLine →
          f.GivesBack puts.flatten (.multiLineString (g.shape.parts.map fun part =>
            (if part.length = 1 then part ++ part else part).map f.held))) := by
  have hLength {puts : List (List UInt8)} (hPuts : f.puts g = .ok puts) :
      f.length g = .ok (puts.flatten.length + 4) := by
    rw [length_eq_puts, hPuts, Nat.add_comm]
    rfl
  refine ⟨⟨?_, ?_⟩, ?_⟩
  · rintro ⟨length, hTaken⟩
    obtain ⟨puts, hPuts, _⟩ := puts_of_length hTaken
    exact ⟨puts, hPuts⟩
  · rintro ⟨puts, hPuts⟩
    exact ⟨_, hLength hPuts⟩
  · intro puts hPuts
    have hBack : f.GivesBack puts.flatten (f.readBack g.shape) :=
      givesBack_of_reads (reads_readShape hPuts hCounts)
    obtain ⟨hPoint, hSet, hLines⟩ := readBack_eq hPuts
    refine ⟨hLength hPuts, length_mod_four (hLength hPuts), ?_, ?_, ?_, ?_⟩
    · intro s
      exact ⟨s.putAll_content puts, s.putAll_written puts⟩
    · intro hFamily
      obtain ⟨c, hShape, hHeld⟩ := hPoint hFamily
      exact ⟨c, hShape, hHeld ▸ hBack⟩
    · intro hFamily
      exact hSet hFamily ▸ hBack
    · intro hFamily
      exact hLines hFamily ▸ hBack

/-- A line of one vertex that has no elevation, and a line without any. -/
def loneVertex : Geometry where
  shape := .multiLineString [[{ x := 1, y := 2 }], []]
  srid := 4326

/-- The vertex is doubled and put at elevation zero; the empty line stays. -/
theorem payload_round_trip_lone_vertex :
    loneVertex.Countable ∧ ∃ puts, RecordFormat.puts ⟨.polyLine, .elevated⟩ loneVertex = .ok puts ∧
      puts.flatten.length = 112 ∧
      GivesBack ⟨.polyLine, .elevated⟩ puts.flatten
        (.multiLineString [[⟨1, 2, 0⟩, ⟨1, 2, 0⟩], []]) := by
  have hCounts : loneVertex.Countable := ⟨by decide, by decide⟩
  obtain ⟨_, hPuts⟩ := payload_round_trip ⟨.polyLine, .elevated⟩ hCounts
  obtain ⟨hLength, _, _, _, _, hBack⟩ := hPuts _ rfl
  have hZero : held ⟨.polyLine, .elevated⟩ { x := 1, y := 2 } = ⟨1, 2, 0⟩ := by decide +kernel
  refine ⟨hCounts, _, rfl, ?_, ?_⟩
  · have hValue : length ⟨.polyLine, .elevated⟩ loneVertex = .ok 116 := rfl
    rw [hValue] at hLength
    have hBytes := Except.ok.inj hLength
    omega
  · rw [← hZero]
    exact hBack rfl

end Shapefile.RecordFormat
