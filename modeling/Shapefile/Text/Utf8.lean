/-!
UTF-8 text. Encoding is the standard's; decoding accepts every byte sequence and puts one
replacement character for each maximal part that begins a character and cannot be continued, or for
each byte that begins none.
-/

namespace Shapefile.Text.Utf8

/-- Stands for what could not be decoded. -/
def replacement : Char := '\uFFFD'

def encode (text : List Char) : List UInt8 := text.flatMap String.utf8EncodeChar

/-- A range of bytes. -/
structure Span where
  first : UInt8
  last : UInt8

/-- Continuation bytes. -/
def tail : Span := ⟨0x80, 0xBF⟩

/-- What a lead byte says: its own bits of the code point, and the ranges of the bytes that
follow. The second byte is narrowed where it would make an overlong form, a surrogate or a number
past the last code point. -/
def lead? (b : UInt8) : Option (Nat × List Span) :=
  if b < 0x80 then some (b.toNat, [])
  else if b < 0xC2 then none
  else if b < 0xE0 then some (b.toNat - 0xC0, [tail])
  else if b < 0xF0 then
    let second : Span := if b = 0xE0 then ⟨0xA0, 0xBF⟩ else if b = 0xED then ⟨0x80, 0x9F⟩ else tail
    some (b.toNat - 0xE0, [second, tail])
  else if b < 0xF5 then
    let second : Span := if b = 0xF0 then ⟨0x90, 0xBF⟩ else if b = 0xF4 then ⟨0x80, 0x8F⟩ else tail
    some (b.toNat - 0xF0, [second, tail, tail])
  else none

/-- Take continuation bytes as long as they are in range: the code point if all were there, and the
bytes not taken. -/
def takeTail (point : Nat) : List Span → List UInt8 → Option Nat × List UInt8
  | [], bytes => (some point, bytes)
  | _ :: _, [] => (none, [])
  | span :: spans, b :: bytes =>
    if span.first ≤ b ∧ b ≤ span.last then takeTail (point * 64 + (b.toNat - 0x80)) spans bytes
    else (none, b :: bytes)

theorem length_takeTail_le (point : Nat) (spans : List Span) (bytes : List UInt8) :
    (takeTail point spans bytes).2.length ≤ bytes.length := by
  induction spans generalizing point bytes with
  | nil => simp [takeTail]
  | cons span spans ih =>
    cases bytes with
    | nil => simp [takeTail]
    | cons b bytes =>
      rw [takeTail]
      split
      · exact Nat.le_succ_of_le (ih _ _)
      · simp

/-- The text of any byte sequence. -/
def decode : List UInt8 → List Char
  | [] => []
  | b :: bytes =>
    match lead? b with
    | none => replacement :: decode bytes
    | some (point, spans) =>
      ((takeTail point spans bytes).1.map Char.ofNat).getD replacement ::
        decode (takeTail point spans bytes).2
termination_by bytes => bytes.length
decreasing_by
  · simp
  · have := length_takeTail_le point spans bytes
    simp only [List.length_cons]
    omega

end Shapefile.Text.Utf8
