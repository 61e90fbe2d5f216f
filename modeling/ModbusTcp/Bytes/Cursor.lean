import ModbusTcp.Number

/-!
# Items in a buffer

A buffer is written and read item by item: an item is a number of some type or a run of raw bytes.
Numbers follow the byte order, raw bytes never do.

* `Cursor` — reads items from stored bytes and can be moved.
* `Item.encode` — what an item adds to a buffer that grows.
* `FixedBuffer` — a buffer of a fixed size, which refuses an item that does not fit.
-/

namespace ModbusTcp

/-- A number or a run of raw bytes. -/
inductive Item where
  | number (type : NumericType) (value : Number type)
  | raw (bytes : Bytes)
deriving DecidableEq

/-- What a reader has to know to read an item. -/
inductive Item.Shape where
  | number (type : NumericType)
  | raw (length : Nat)
deriving DecidableEq

namespace Item

/-- A single byte is the number it stands for. -/
def byte (value : UInt8) : Item := .number .u8 (Number.ofNat .u8 value.toNat)

/-- A word is the number it stands for. -/
def word (value : UInt16) : Item := .number .u16 (Number.ofNat .u16 value.toNat)

/-- The shape of an item. -/
def shape : Item → Shape
  | .number type _ => .number type
  | .raw bytes => .raw bytes.length

/-- How many bytes an item of a shape takes. -/
def Shape.size : Shape → Nat
  | .number type => type.size
  | .raw length => length

/-- The bytes of an item. -/
def encode (order : ByteOrder) : Item → Bytes
  | .number _ value => value.encode order
  | .raw bytes => bytes

/-- Takes an item off the front of the input. -/
def take (order : ByteOrder) (input : Bytes) : Shape → Except DecodeError (Item × Bytes)
  | .number type => do
    let (value, rest) ← Number.take type order input
    return (.number type value, rest)
  | .raw length => do
    let (bytes, rest) ← takeBytes length input
    return (.raw bytes, rest)

@[simp] theorem length_encode (order : ByteOrder) (item : Item) :
    (item.encode order).length = item.shape.size := by
  cases item <;> simp [encode, shape, Shape.size]

/-- An item written in front of some bytes is taken off again. -/
theorem take_encode (order : ByteOrder) (item : Item) (rest : Bytes) :
    take order (item.encode order ++ rest) item.shape = .ok (item, rest) := by
  cases item with
  | number type value => simp [take, shape, encode, bind, Except.bind, pure, Except.pure]
  | raw bytes =>
    simp [take, shape, encode, bind, Except.bind, pure, Except.pure, takeBytes_append]

end Item

/-! ### Reading from a position -/

/-- Stored bytes and the position from which the next item is read, which may lie past their end. -/
structure Cursor where
  data : Bytes
  position : Nat := 0
deriving DecidableEq

namespace Cursor

/-- Moves to a position, counted from the start. -/
def seek (cursor : Cursor) (position : Nat) : Cursor := { cursor with position }

/-- Reads an item; if the data ends within it, the cursor is left at the end of the data. -/
def read (cursor : Cursor) (order : ByteOrder) (shape : Item.Shape) : Except DecodeError Item × Cursor :=
  match Item.take order (cursor.data.drop cursor.position) shape with
  | .ok (item, _) => (.ok item, { cursor with position := cursor.position + shape.size })
  | .error error => (.error error, { cursor with position := cursor.data.length })

end Cursor

/-! ### Writing into a fixed space -/

/-- A buffer of a fixed size: what has been written, and the space still free with what it holds. -/
structure FixedBuffer where
  written : Bytes := []
  free : Bytes
deriving DecidableEq

namespace FixedBuffer

/-- How many bytes still fit. -/
def remaining (buffer : FixedBuffer) : Nat := buffer.free.length

/-- All the bytes of the buffer. -/
def contents (buffer : FixedBuffer) : Bytes := buffer.written ++ buffer.free

/-- Appends bytes, or refuses if they do not fit, in which case none of them is written. -/
def put (buffer : FixedBuffer) (bytes : Bytes) : Option FixedBuffer :=
  if bytes.length ≤ buffer.remaining then
    some { written := buffer.written ++ bytes, free := buffer.free.drop bytes.length }
  else none

end FixedBuffer

end ModbusTcp
