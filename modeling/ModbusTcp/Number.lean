import ModbusTcp.Bytes.Take

/-!
# Numbers of the ten register types

A number is the pattern of its bits; its type says how many there are and what they mean.  Writing and
reading a number concern the bits alone, so they cannot disturb a value, whatever it means.

* `Number.encode`, `Number.take` — the bytes of a number in a byte order, and back.
* `Number.toFloat` — the value as a double, which scaled values are computed from.
* `Number.agrees` — equality of values: as numbers for floats, bit for bit otherwise.
* `Number.take_encode` — a number written in front of some bytes is taken off again.
-/

namespace ModbusTcp

/-- The types a number in registers can have. -/
inductive NumericType where
  | u8 | i8 | u16 | i16 | u32 | i32 | u64 | i64 | f32 | f64
deriving DecidableEq, Repr, Inhabited

namespace NumericType

/-- All types. -/
def all : List NumericType := [.u8, .i8, .u16, .i16, .u32, .i32, .u64, .i64, .f32, .f64]

/-- The name of a type: whether its numbers are unsigned, integers or floats, and how many bits they
have. -/
def name : NumericType → String
  | .u8 => "u8"
  | .i8 => "i8"
  | .u16 => "u16"
  | .i16 => "i16"
  | .u32 => "u32"
  | .i32 => "i32"
  | .u64 => "u64"
  | .i64 => "i64"
  | .f32 => "f32"
  | .f64 => "f64"

/-- The type with a name. -/
def ofName? (name : String) : Option NumericType := all.find? (·.name = name)

/-- A type is found by its name. -/
theorem ofName?_name (type : NumericType) : ofName? type.name = some type := by
  cases type <;> decide

/-- How many bytes a number of the type takes. -/
def size : NumericType → Nat
  | .u8 | .i8 => 1
  | .u16 | .i16 => 2
  | .u32 | .i32 | .f32 => 4
  | .u64 | .i64 | .f64 => 8

end NumericType

/-- A number of the given type, as the pattern of its bits. -/
abbrev Number (type : NumericType) := BitVec (8 * type.size)

namespace Number

/-- The number of the given type with these bits, of which only the low ones count. -/
def ofNat (type : NumericType) (bits : Nat) : Number type := BitVec.ofNat _ bits

/-- The bytes of a number. -/
def encode {type : NumericType} (order : ByteOrder) (number : Number type) : Bytes :=
  order.write type.size number.toNat

/-- The number that bytes spell. -/
def decode (type : NumericType) (order : ByteOrder) (bytes : Bytes) : Number type :=
  ofNat type (order.read bytes)

/-- Takes a number off the front of the input. -/
def take (type : NumericType) (order : ByteOrder) (input : Bytes) :
    Except DecodeError (Number type × Bytes) := do
  let (bytes, rest) ← takeBytes type.size input
  return (decode type order bytes, rest)

/-! ### What a number means -/

/-- The value as a double: integers are rounded to the nearest double, floats are exact. -/
def toFloat : {type : NumericType} → Number type → Float
  | .u8, bits | .u16, bits | .u32, bits | .u64, bits => (UInt64.ofNat bits.toNat).toFloat
  | .i8, bits | .i16, bits | .i32, bits | .i64, bits => (Int64.ofInt bits.toInt).toFloat
  | .f32, bits => (Float32.ofBits (UInt32.ofNat bits.toNat)).toFloat
  | .f64, bits => Float.ofBits (UInt64.ofNat bits.toNat)

/-- Equality of values: two floats agree if they are the same number, so `0` agrees with `-0`, and a
value that is not a number agrees with nothing. -/
def agrees : {type : NumericType} → Number type → Number type → Bool
  | .f32, left, right | .f64, left, right => left.toFloat == right.toFloat
  | .u8, left, right | .u16, left, right | .u32, left, right | .u64, left, right
  | .i8, left, right | .i16, left, right | .i32, left, right | .i64, left, right => left == right

/-! ### Laws -/

@[simp] theorem length_encode {type : NumericType} (order : ByteOrder) (number : Number type) :
    (number.encode order).length = type.size :=
  order.length_write _ _

/-- Reading the bytes of a number gives it back, bit for bit. -/
@[simp] theorem decode_encode {type : NumericType} (order : ByteOrder) (number : Number type) :
    decode type order (number.encode order) = number := by
  have bound := number.isLt
  rw [Nat.pow_mul] at bound
  rw [decode, encode, order.read_write, Nat.mod_eq_of_lt bound, ofNat, BitVec.ofNat_toNat,
    BitVec.setWidth_eq]

/-- Writing the number that some bytes spell gives them back. -/
theorem encode_decode {type : NumericType} (order : ByteOrder) {bytes : Bytes}
    (width : bytes.length = type.size) : (decode type order bytes).encode order = bytes := by
  have bound := order.read_lt bytes
  rw [width] at bound
  have same : (decode type order bytes).toNat = order.read bytes := by
    rw [decode, ofNat, BitVec.toNat_ofNat, Nat.pow_mul]
    exact Nat.mod_eq_of_lt bound
  rw [encode, same, ← width, order.write_read]

/-- A number written in front of some bytes is taken off again. -/
@[simp] theorem take_encode {type : NumericType} (order : ByteOrder) (number : Number type)
    (rest : Bytes) : take type order (number.encode order ++ rest) = .ok (number, rest) := by
  rw [take, takeBytes_append (number.length_encode order)]
  simp [bind, Except.bind, pure, Except.pure]

end Number

end ModbusTcp
