import Mathlib
import Shapefile.Proofs.Storage.ByteLayout
import Shapefile.Storage.Reading

/-! Programs that read back what was written. A program reads a list of bytes
if it does so wherever the bytes stand in a channel, and whatever stands
before and behind them. Such programs are put together as their bytes are.
Mathlib is imported as a whole for `Float.ofBits_toBits`, which none of its parts
has. -/
namespace Shapefile

namespace Reading

variable {ε α β : Type} [OfStorage ε]

/-- Running one program after the other. -/
theorem onBytes_bind (channel : Bytes) (program : Reading ε α) (next : α → Reading ε β)
    (cursor : Cursor) :
    (program.bind next).onBytes channel cursor =
      match program.onBytes channel cursor with
      | (.ok value, cursor) => (next value).onBytes channel cursor
      | (.error e, cursor) => (.error e, cursor) := by
  induction program generalizing cursor with
  | done value => rfl
  | fail error => rfl
  | fetch position length resume ih =>
      simp only [bind, onBytes]
      by_cases hFits : position + length ≤ channel.size
      · simp only [if_pos hFits, ih]
      · simp only [if_neg hFits]
  | inspect resume ih =>
      simp only [bind, onBytes, ih]
  | place target resume ih =>
      simp only [bind, onBytes, ih]

/-- A first step that succeeds is followed by the rest. -/
theorem onBytes_bind_of_ok {channel : Bytes} {cursor middle : Cursor} {program : Reading ε α}
    {value : α} (hFirst : program.onBytes channel cursor = (.ok value, middle))
    (next : α → Reading ε β) :
    (program.bind next).onBytes channel cursor = (next value).onBytes channel middle := by
  rw [onBytes_bind, hFirst]

/-- A first step that fails is the end. -/
theorem onBytes_bind_of_error {channel : Bytes} {cursor last : Cursor} {program : Reading ε α}
    {e : ε} (hFirst : program.onBytes channel cursor = (.error e, last))
    (next : α → Reading ε β) :
    (program.bind next).onBytes channel cursor = (.error e, last) := by
  rw [onBytes_bind, hFirst]

omit [OfStorage ε] in
/-- One program run as often as a list is long is run for its elements. -/
theorem replicate_length_eq {γ : Type} (items : List γ) (program : Reading ε α) :
    Reading.replicate items.length program = items.mapM fun _ => program := by
  rw [Reading.replicate, ← List.map_const', List.mapM_map]
  rfl

/-- Started in the order `before` where the bytes stand, the program gives
the value, and leaves the cursor behind the bytes in the order `after`. -/
def Reads (program : Reading ε α) (before : ByteOrder) (bytes : List UInt8) (after : ByteOrder)
    (value : α) : Prop :=
  ∀ (channel : Bytes) (position : Nat), channel.HasAt position bytes →
    program.onBytes channel ⟨position, before⟩ = (.ok value, ⟨position + bytes.length, after⟩)

namespace Reads

variable {order before middle after : ByteOrder} {first second bytes : List UInt8}

theorem done (order : ByteOrder) (value : α) :
    Reads (.done value : Reading ε α) order [] order value :=
  fun _ _ _ => rfl

theorem ofExcept (order : ByteOrder) {result : Except ε α} {value : α}
    (hResult : result = .ok value) : Reads (Reading.ofExcept result) order [] order value := by
  rw [hResult]
  exact done order value

theorem bind {program : Reading ε α} {next : α → Reading ε β} {value : α} {result : β}
    (hProgram : Reads program before first middle value)
    (hNext : Reads (next value) middle second after result) :
    Reads (program.bind next) before (first ++ second) after result := by
  intro channel position hBytes
  rw [onBytes_bind, hProgram channel position hBytes.left]
  simp only
  rw [hNext channel (position + first.length) hBytes.right, List.length_append, Nat.add_assoc]

theorem setOrder (before after : ByteOrder) :
    Reads (Reading.setOrder after : Reading ε Unit) before [] after () :=
  fun _ _ _ => rfl

theorem skip (order : ByteOrder) {length : Nat} (hLength : bytes.length = length) :
    Reads (Reading.skip length : Reading ε Unit) order bytes order () := by
  intro channel position _
  rw [← hLength]
  rfl

/-- A read at the cursor, from what its read at a position gives. -/
theorem advancing {read : Nat → Reading ε α} {length : Nat} {value : α}
    (hLength : bytes.length = length)
    (hRead : ∀ channel position, Bytes.HasAt channel position bytes →
      (read position).onBytes channel ⟨position, order⟩ = (.ok value, ⟨position, order⟩)) :
    Reads (Reading.advancing length read) order bytes order value := by
  intro channel position hBytes
  have hProgram : (Reading.advancing length read : Reading ε α) =
      Reading.position.bind fun start => (read start).bind fun value =>
        (Reading.skip length).bind fun _ => .done value := rfl
  rw [hProgram, onBytes_bind]
  simp only [Reading.position, onBytes]
  rw [onBytes_bind, hRead channel position hBytes, ← hLength]
  rfl

/-- A number is read as the decoding of its bytes. -/
theorem number {length : Nat} (decode : ByteOrder → List UInt8 → α) (order : ByteOrder)
    (hLength : bytes.length = length) (hSome : 0 < length) :
    Reads (Reading.advancing length (numberAt length decode) : Reading ε α) order bytes order
      (decode order bytes) := by
  refine advancing hLength fun channel position hBytes => ?_
  have hInside : position + length ≤ channel.size := by
    rw [← hLength] at hSome ⊢
    exact hBytes.inside hSome
  have hSlice : (channel.extract position (position + length)).toList = bytes := by
    rw [← hLength]
    exact hBytes.extract
  simp only [numberAt, onBytes]
  rw [if_pos hInside, hSlice]

theorem int32 (order : ByteOrder) (n : Int32) :
    Reads (Reading.int32 : Reading ε Int32) order (order.int32 n) order n := by
  have hRead : Reads (Reading.int32 : Reading ε Int32) order (order.int32 n) order
      (order.toInt32 (order.int32 n)) :=
    number ByteOrder.toInt32 order (ByteOrder.length_int32 order n) (by decide)
  rwa [ByteOrder.toInt32_int32] at hRead

theorem int16 (order : ByteOrder) (n : Int16) :
    Reads (Reading.int16 : Reading ε Int16) order (order.int16 n) order n := by
  have hRead : Reads (Reading.int16 : Reading ε Int16) order (order.int16 n) order
      (order.toInt16 (order.int16 n)) :=
    number ByteOrder.toInt16 order (ByteOrder.length_int16 order n) (by decide)
  rwa [ByteOrder.toInt16_int16] at hRead

theorem float64 (order : ByteOrder) (x : Float) :
    Reads (Reading.float64 : Reading ε Float) order (order.float64 x) order x := by
  have hRead : Reads (Reading.float64 : Reading ε Float) order (order.float64 x) order
      (order.toFloat64 (order.float64 x)) :=
    number ByteOrder.toFloat64 order (ByteOrder.length_float64 order x) (by decide)
  rwa [ByteOrder.toFloat64_float64, Float.ofBits_toBits] at hRead

theorem uint8 (order : ByteOrder) (b : UInt8) :
    Reads (Reading.uint8 : Reading ε UInt8) order [b] order b := by
  refine advancing rfl fun channel position hBytes => ?_
  have hSlice : channel.extract position (position + 1) = #[b] := by
    apply Array.toList_inj.mp
    exact hBytes.extract
  have hInside : position + 1 ≤ channel.size := hBytes.inside Nat.one_pos
  simp only [uint8At, onBytes]
  rw [if_pos hInside, hSlice]
  rfl

/-- Bytes are read as they stand. -/
theorem raw (order : ByteOrder) {length : Nat} (hLength : bytes.length = length)
    (hSome : 0 < length) :
    Reads (Reading.bytes length : Reading ε Bytes) order bytes order bytes.toArray := by
  refine advancing hLength fun channel position hBytes => ?_
  have hInside : position + length ≤ channel.size := by
    rw [← hLength] at hSome ⊢
    exact hBytes.inside hSome
  have hSlice : channel.extract position (position + length) = bytes.toArray := by
    apply Array.toList_inj.mp
    rw [← hLength]
    exact hBytes.extract
  simp only [bytesAt, onBytes]
  rw [if_pos hInside, hSlice]

/-- Items read one after the other. -/
theorem mapM {γ : Type} {items : List γ} {read : γ → Reading ε α} {encode : γ → List UInt8}
    {value : γ → α}
    (hItem : ∀ item ∈ items, Reads (read item) order (encode item) order (value item)) :
    Reads (items.mapM read) order (items.flatMap encode) order (items.map value) := by
  induction items with
  | nil => exact done order []
  | cons item items ih =>
      have hFirst := hItem item List.mem_cons_self
      have hRest := ih fun other hOther => hItem other (List.mem_cons_of_mem item hOther)
      rw [List.mapM_cons, List.flatMap_cons, List.map_cons]
      have hBoth : Reads ((read item).bind fun first => (items.mapM read).bind fun rest =>
          .done (first :: rest)) order (encode item ++ (items.flatMap encode ++ [])) order
          (value item :: items.map value) :=
        hFirst.bind (hRest.bind (done order _))
      rwa [List.append_nil] at hBoth

/-- One program run once for every item that was written. -/
theorem replicate {γ : Type} {items : List γ} {read : Reading ε α} {encode : γ → List UInt8}
    {value : γ → α} (hItem : ∀ item ∈ items, Reads read order (encode item) order (value item)) :
    Reads (Reading.replicate items.length read) order (items.flatMap encode) order
      (items.map value) := by
  rw [replicate_length_eq]
  exact mapM hItem

end Reads

end Reading

end Shapefile
