import Shapefile.Binary.ByteOrder

/-!
A staging area in front of an append-only channel. Puts collect in the staging area; a put that
does not fit in the space left first sends what is staged, as one chunk, and a put larger than the
whole capacity raises the capacity to its own size. So no put is ever split between two chunks, and
the chunks sent followed by the staged bytes are always the puts in order.
-/

namespace Shapefile

/-- An append-only writer with bytes not yet sent. -/
structure Staging where
  capacity : Nat
  /-- Byte order of the numbers put from now on. -/
  order : ByteOrder := .big
  /-- Bytes put and not yet sent. -/
  staged : Bytes := #[]
  /-- Chunks sent to the channel and not yet collected from here, oldest first. -/
  sent : Array Bytes := #[]
  /-- Bytes put so far, sent or not. -/
  written : Nat := 0
  /-- Flushes of the channel itself. -/
  flushes : Nat := 0
deriving DecidableEq, Repr

namespace Staging

/-- Capacity of a staging area when its owner does not choose one. -/
def defaultCapacity : Nat := 128 * 1024

/-- Send what is staged, if anything is, as one chunk. -/
def send (s : Staging) : Staging :=
  if s.staged.isEmpty then s else { s with staged := #[], sent := s.sent.push s.staged }

/-- Make room for a put of `length` bytes. -/
def reserve (s : Staging) (length : Nat) : Staging :=
  if s.staged.size + length > s.capacity then
    let s := s.send
    { s with capacity := max s.capacity length }
  else
    s

def put (s : Staging) (bytes : List UInt8) : Staging :=
  let s := s.reserve bytes.length
  { s with staged := s.staged ++ bytes, written := s.written + bytes.length }

/-- Put each of these in turn. -/
def putAll (s : Staging) (puts : List (List UInt8)) : Staging := puts.foldl put s

def putInt16 (s : Staging) (n : Int16) : Staging := s.put (s.order.int16 n)

def putInt32 (s : Staging) (n : Int32) : Staging := s.put (s.order.int32 n)

def putFloat64 (s : Staging) (x : Float) : Staging := s.put (s.order.float64 x)

def setOrder (s : Staging) (order : ByteOrder) : Staging := { s with order }

/-- Send what is staged and flush the channel. -/
def flush (s : Staging) : Staging :=
  let s := s.send
  { s with flushes := s.flushes + 1 }

/-- Hand over the chunks sent since the last collection. -/
def collect (s : Staging) : Array Bytes × Staging := (s.sent, { s with sent := #[] })

/-- Everything put since the last collection: the chunks sent and then what is staged. -/
def content (s : Staging) : Bytes := s.sent.flatten ++ s.staged

end Staging

end Shapefile
