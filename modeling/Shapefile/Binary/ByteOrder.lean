/-!
Numbers as sequences of bytes. A natural number is written in base 256 with a fixed number of
digits, and a byte order says which digit comes first; signed words and doubles go through the
natural number with the same bits. Reading back what was written gives the number, and every
encoding has the declared width.
-/

namespace Shapefile

/-- Raw content of a channel, of a window on it or of a file. -/
abbrev Bytes := Array UInt8

/-- Which end of a number comes first. -/
inductive ByteOrder where
  | big
  | little
deriving DecidableEq, Repr, Inhabited

namespace ByteOrder

/-- The `width` lowest base-256 digits of `n`, least significant first. -/
def digits : Nat → Nat → List UInt8
  | 0, _ => []
  | width + 1, n => UInt8.ofNat n :: digits width (n / 256)

/-- The number with these base-256 digits, least significant first. -/
def ofDigits : List UInt8 → Nat
  | [] => 0
  | b :: rest => b.toNat + 256 * ofDigits rest

@[simp] theorem length_digits (width n : Nat) : (digits width n).length = width := by
  induction width generalizing n with
  | zero => rfl
  | succ width ih => simp [digits, ih]

theorem ofDigits_digits (width n : Nat) :
    ofDigits (digits width n) = n % Nat.pow 256 width := by
  induction width generalizing n with
  | zero => simp [digits, ofDigits, Nat.mod_one]
  | succ width ih =>
    have byte : (UInt8.ofNat n).toNat = n % 256 := UInt8.toNat_ofNat'
    have power : Nat.pow 256 (width + 1) = 256 * Nat.pow 256 width := Nat.mul_comm _ _
    rw [digits, ofDigits, ih, byte, power, Nat.mod_mul]

theorem digits_ofDigits (bytes : List UInt8) :
    digits bytes.length (ofDigits bytes) = bytes := by
  induction bytes with
  | nil => rfl
  | cons b rest ih =>
    have hb : b.toNat < 256 := b.toNat_lt
    have low : UInt8.ofNat (b.toNat + 256 * ofDigits rest) = b := by
      apply UInt8.toNat_inj.mp
      rw [UInt8.toNat_ofNat']
      omega
    have high : (b.toNat + 256 * ofDigits rest) / 256 = ofDigits rest := by omega
    rw [List.length_cons, ofDigits, digits, low, high, ih]

theorem ofDigits_lt (bytes : List UInt8) : ofDigits bytes < Nat.pow 256 bytes.length := by
  induction bytes with
  | nil => simp [ofDigits]
  | cons b rest ih =>
    have hb : b.toNat < 256 := b.toNat_lt
    have power : Nat.pow 256 (rest.length + 1) = 256 * Nat.pow 256 rest.length := Nat.mul_comm _ _
    rw [ofDigits, List.length_cons, power]
    omega

/-- The number `n` in `width` bytes; what does not fit is dropped from the high end. -/
def encode (order : ByteOrder) (width n : Nat) : List UInt8 :=
  match order with
  | little => digits width n
  | big => (digits width n).reverse

/-- The number that these bytes hold. -/
def decode (order : ByteOrder) (bytes : List UInt8) : Nat :=
  match order with
  | little => ofDigits bytes
  | big => ofDigits bytes.reverse

@[simp] theorem length_encode (order : ByteOrder) (width n : Nat) :
    (order.encode width n).length = width := by
  cases order <;> simp [encode]

theorem decode_encode (order : ByteOrder) (width n : Nat) :
    order.decode (order.encode width n) = n % Nat.pow 256 width := by
  cases order <;> simp [encode, decode, ofDigits_digits]

theorem encode_decode (order : ByteOrder) (bytes : List UInt8) :
    order.encode bytes.length (order.decode bytes) = bytes := by
  cases order with
  | little => exact digits_ofDigits bytes
  | big =>
    have h := digits_ofDigits bytes.reverse
    rw [List.length_reverse] at h
    simp [encode, decode, h]

/-- A signed 16-bit word. -/
def int16 (order : ByteOrder) (n : Int16) : List UInt8 := order.encode 2 n.toUInt16.toNat

/-- A signed 32-bit word. -/
def int32 (order : ByteOrder) (n : Int32) : List UInt8 := order.encode 4 n.toUInt32.toNat

/-- A signed 64-bit word. -/
def int64 (order : ByteOrder) (n : Int64) : List UInt8 := order.encode 8 n.toUInt64.toNat

/-- A double, as its 64 bits. -/
def float64 (order : ByteOrder) (x : Float) : List UInt8 := order.encode 8 x.toBits.toNat

def toInt16 (order : ByteOrder) (bytes : List UInt8) : Int16 :=
  (UInt16.ofNat (order.decode bytes)).toInt16

def toInt32 (order : ByteOrder) (bytes : List UInt8) : Int32 :=
  (UInt32.ofNat (order.decode bytes)).toInt32

def toInt64 (order : ByteOrder) (bytes : List UInt8) : Int64 :=
  (UInt64.ofNat (order.decode bytes)).toInt64

def toFloat64 (order : ByteOrder) (bytes : List UInt8) : Float :=
  Float.ofBits (UInt64.ofNat (order.decode bytes))

@[simp] theorem length_int16 (order : ByteOrder) (n : Int16) : (order.int16 n).length = 2 := by
  simp [int16]

@[simp] theorem length_int32 (order : ByteOrder) (n : Int32) : (order.int32 n).length = 4 := by
  simp [int32]

@[simp] theorem length_int64 (order : ByteOrder) (n : Int64) : (order.int64 n).length = 8 := by
  simp [int64]

@[simp] theorem length_float64 (order : ByteOrder) (x : Float) :
    (order.float64 x).length = 8 := by
  simp [float64]

@[simp] theorem toInt32_int32 (order : ByteOrder) (n : Int32) :
    order.toInt32 (order.int32 n) = n := by
  have fits : n.toUInt32.toNat < Nat.pow 256 4 := n.toUInt32.toNat_lt
  rw [toInt32, int32, decode_encode, Nat.mod_eq_of_lt fits, UInt32.ofNat_toNat]
  rfl

@[simp] theorem toInt16_int16 (order : ByteOrder) (n : Int16) :
    order.toInt16 (order.int16 n) = n := by
  have fits : n.toUInt16.toNat < Nat.pow 256 2 := n.toUInt16.toNat_lt
  rw [toInt16, int16, decode_encode, Nat.mod_eq_of_lt fits, UInt16.ofNat_toNat]
  rfl

theorem toFloat64_float64 (order : ByteOrder) (x : Float) :
    order.toFloat64 (order.float64 x) = Float.ofBits x.toBits := by
  have fits : x.toBits.toNat < Nat.pow 256 8 := x.toBits.toNat_lt
  rw [toFloat64, float64, decode_encode, Nat.mod_eq_of_lt fits, UInt64.ofNat_toNat]

end ByteOrder

end Shapefile
