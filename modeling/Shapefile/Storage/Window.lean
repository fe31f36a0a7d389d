import Shapefile.Storage.Reading

/-!
A resident window on a channel. A request inside the window costs nothing; any other request that
lies inside the channel moves the window to start where the request starts. The content of the
channel is an argument of every operation, because other programs may change a file while a
window on it is open; the size is taken once, on opening.
-/

namespace Shapefile

/-- A window on a channel, with the cursor of the program that reads through it. -/
structure Window where
  /-- Size of the channel when it was opened. -/
  channelSize : Nat
  /-- Least number of bytes to hold, where the channel has them. -/
  capacity : Nat
  /-- Offset of the first resident byte. -/
  start : Nat := 0
  resident : Bytes := #[]
  cursor : Cursor := {}
  /-- Offset and size of every load so far, newest first. -/
  loads : List (Nat × Nat) := []
deriving Repr

namespace Window

variable {ε α : Type}

/-- Capacity of a window when its owner does not choose one. -/
def defaultCapacity : Nat := 32 * 1024

/-- The whole range is resident. -/
def Covers (w : Window) (position length : Nat) : Prop :=
  w.start ≤ position ∧ position + length ≤ w.start + w.resident.size

instance (w : Window) (position length : Nat) : Decidable (w.Covers position length) :=
  inferInstanceAs (Decidable (_ ∧ _))

/-- The bytes that a load at `position` for a request of `length` bytes makes resident. -/
def loadSize (w : Window) (position length : Nat) : Nat :=
  min (max w.capacity length) (w.channelSize - position)

/-- Move the window to `position`. If the channel has become shorter since it was opened, the load
fails and the bytes it did get overlay the old content, still under the old offset. -/
def load (w : Window) (channel : Bytes) (position length : Nat) :
    Except StorageError Unit × Window :=
  let size := w.loadSize position length
  let available := channel.extract position (position + size)
  if available.size = size then
    (.ok (),
      { w with start := position, resident := available, loads := (position, size) :: w.loads })
  else
    let old := w.resident ++ Array.replicate (size - w.resident.size) 0
    (.error .truncated, { w with resident := available ++ old.extract available.size size })

/-- A window on a freshly opened channel, filled from its start. -/
def onChannel (channel : Bytes) (capacity : Nat) : Window :=
  (({ channelSize := channel.size, capacity } : Window).load channel 0 0).2

/-- The bytes `position ..< position + length` of the channel. -/
def fetch (w : Window) (channel : Bytes) (position length : Nat) :
    Except StorageError Bytes × Window :=
  if w.Covers position length then
    let offset := position - w.start
    (.ok (w.resident.extract offset (offset + length)), w)
  else if w.channelSize < position + length then
    (.error (.pastEnd position length w.channelSize), w)
  else
    match w.load channel position length with
    | (.ok (), w) => (.ok (w.resident.extract 0 length), w)
    | (.error e, w) => (.error e, w)

/-- Run a reading program through the window. Window and cursor survive an error. -/
def run [OfStorage ε] (channel : Bytes) : Reading ε α → Window → Except ε α × Window
  | .done a, w => (.ok a, w)
  | .fail e, w => (.error e, w)
  | .fetch position length next, w =>
    match w.fetch channel position length with
    | (.ok bytes, w) => run channel (next bytes) w
    | (.error e, w) => (.error (OfStorage.ofStorage e), w)
  | .inspect next, w => run channel (next w.cursor w.channelSize) w
  | .place cursor next, w => run channel next { w with cursor }

/-- Bytes of the channel at and after the cursor. -/
def remaining (w : Window) : Nat := w.channelSize - w.cursor.position

def isAtEnd (w : Window) : Bool := w.remaining == 0

end Window

end Shapefile
