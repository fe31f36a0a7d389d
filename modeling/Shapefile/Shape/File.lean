import Shapefile.Shape.Writer

/-!
A shape file and its index on a disk, open for writing. What their writer has staged is not in the
files yet.
-/

namespace Shapefile

/-- The files of shapes and index that are being written. -/
structure WritingShapes where
  shapesFile : OpenFile
  indexFile : OpenFile
  writer : ShapeWriter
deriving DecidableEq

namespace WritingShapes

/-- Move what the writer has sent into the files. -/
def settle (s : WritingShapes) (disk : Disk) : WritingShapes × Disk :=
  let (shapeChunks, shapes) := s.writer.shapes.collect
  let (indexChunks, index) := s.writer.index.collect
  let (shapesFile, disk) := s.shapesFile.append disk shapeChunks
  let (indexFile, disk) := s.indexFile.append disk indexChunks
  ({ shapesFile, indexFile, writer := { s.writer with shapes, index } }, disk)

/-- Add a record. What was added before an error stays. -/
def write (s : WritingShapes) (disk : Disk) (g : Geometry) :
    Except ShapeError Unit × WritingShapes × Disk :=
  let (written, writer) := s.writer.write g
  (written, { s with writer }.settle disk)

/-- Finish both files; their headers are written again over their starts. -/
def close (s : WritingShapes) (disk : Disk) : Disk :=
  let closed := s.writer.close
  let (_, disk) := s.shapesFile.append disk closed.shapes.sent
  let (_, disk) := s.indexFile.append disk closed.index.sent
  let disk := disk.write s.shapesFile.id 0 closed.shapesHeader.bytes.toArray
  disk.write s.indexFile.id 0 closed.indexHeader.bytes.toArray

end WritingShapes

end Shapefile
