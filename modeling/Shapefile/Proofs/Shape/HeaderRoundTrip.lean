import Shapefile.Shape.Header
import Shapefile.Proofs.Storage.ReadingBack

/-! A shape header of the current version is read back as it was written. -/
namespace Shapefile

/-- The number of a shape type stands for no other type. -/
theorem ShapeType.ofId?_id (t : ShapeType) : ofId? (Int32.ofNat t.id) = some t := by
  rcases t with _ | ⟨_ | _ | _ | _, _ | _ | _⟩ | _
  all_goals decide

namespace ShapeHeader

open Reading

theorem length_bytes (h : ShapeHeader) : h.bytes.length = size := by
  simp [bytes, puts, boundsPuts, size]

/-- The fields of a header in the order of the file. -/
private theorem bytes_eq (h : ShapeHeader) :
    h.bytes = ByteOrder.big.int32 magicNumber ++
      ((List.replicate 5 (ByteOrder.big.int32 0)).flatten ++
        (ByteOrder.big.int32 h.fileLength ++ (ByteOrder.little.int32 h.version ++
          (ByteOrder.little.int32 (Int32.ofNat h.shapeType.id) ++
            (ByteOrder.little.float64 h.bounds.minX ++ (ByteOrder.little.float64 h.bounds.minY ++
              (ByteOrder.little.float64 h.bounds.maxX ++
                (ByteOrder.little.float64 h.bounds.maxY ++ ([] ++
                  ((List.replicate 8 (ByteOrder.big.int32 0)).flatten ++ [])))))))))) := by
  simp [bytes, puts, boundsPuts]

/-- Reading a header of the current version gives it back and leaves the byte
order big. -/
theorem reads_read {h : ShapeHeader} (hVersion : h.version = currentVersion)
    (order : ByteOrder) : Reads read order h.bytes .big h := by
  have hReserved : (List.replicate 5 (ByteOrder.big.int32 0)).flatten.length = 20 := by simp
  have hUnused : (List.replicate 8 (ByteOrder.big.int32 0)).flatten.length = 32 := by simp
  rw [bytes_eq]
  refine (Reads.setOrder order .big).bind ((Reads.int32 .big magicNumber).bind ?_)
  rw [if_neg (by simp)]
  refine (Reads.skip .big hReserved).bind ((Reads.int32 .big h.fileLength).bind
    ((Reads.setOrder .big .little).bind ((Reads.int32 .little h.version).bind ?_)))
  rw [if_neg (by simp [hVersion])]
  apply (Reads.int32 .little _).bind
  rw [ShapeType.ofId?_id]
  exact (Reads.float64 .little _).bind ((Reads.float64 .little _).bind
    ((Reads.float64 .little _).bind ((Reads.float64 .little _).bind
      ((Reads.setOrder .little .big).bind ((Reads.skip .big hUnused).bind
        (Reads.done .big h))))))

end ShapeHeader

end Shapefile
