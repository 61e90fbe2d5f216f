import ModbusTcp.Number
import ModbusTcp.Decimal.Shortest

/-!
# Registers with a meaning

What registers hold is a number of some type or a text of a fixed length, or is not known yet.

* `Register.decode` — takes the value from the front of some bytes.
* `Register.encode` — the bytes of the value; without one they are zeros.
* `Register.text` — the value in words.
-/

namespace ModbusTcp

/-- The meaning of some registers, with the value if there is one. -/
inductive Register where
  | numeric (type : NumericType) (value : Option (Number type))
  | text (length : Nat) (value : Option String)
deriving DecidableEq

/-! ### Texts of a fixed length -/

namespace FixedText

/-- The bytes of a text in UTF-8. -/
def utf8 (text : String) : Bytes := text.toList.flatMap String.utf8EncodeChar

/-- The sign in place of a byte that is not ASCII. -/
def placeholder : UInt8 := 0x3F

/-- A byte, if it is ASCII. -/
def asciiByte (byte : UInt8) : UInt8 := if byte < 0x80 then byte else placeholder

/-- The bytes of a text, cut to the length or filled up with zeros. -/
def encode (length : Nat) (text : String) : Bytes :=
  let bytes := ((utf8 text).take length).map asciiByte
  bytes ++ List.replicate (length - bytes.length) 0

/-- The text in some bytes, without the zeros at their end. -/
def decode (bytes : Bytes) : String :=
  let bytes := (bytes.reverse.dropWhile (· = 0)).reverse
  String.ofList (bytes.map fun byte => Char.ofNat (asciiByte byte).toNat)

@[simp] theorem length_encode (length : Nat) (text : String) : (encode length text).length = length := by
  simp only [encode, List.length_append, List.length_map, List.length_take, List.length_replicate]
  omega

end FixedText

/-! ### Numbers as text -/

namespace Number

/-- The decimal text of a number: integers with their sign, floats by their shortest decimal. -/
def text : {type : NumericType} → Number type → String
  | .u8, bits | .u16, bits | .u32, bits | .u64, bits => toString bits.toNat
  | .i8, bits | .i16, bits | .i32, bits | .i64, bits => toString bits.toInt
  | .f32, bits => FloatFormat.binary32.text bits.toNat
  | .f64, bits => FloatFormat.binary64.text bits.toNat

end Number

namespace Register

/-- How many bytes the value takes. -/
def width : Register → Nat
  | .numeric type _ => type.size
  | .text length _ => length

/-- There is a value. -/
def isInitialized : Register → Bool
  | .numeric _ value => value.isSome
  | .text _ value => value.isSome

/-- The register without its value. -/
def cleared : Register → Register
  | .numeric type _ => .numeric type none
  | .text length _ => .text length none

/-- Takes the value from the front of some bytes. -/
def decode (order : ByteOrder) (input : Bytes) : Register → Except DecodeError (Register × Bytes)
  | .numeric type _ => do
    let (value, rest) ← Number.take type order input
    return (.numeric type (some value), rest)
  | .text length _ => do
    let (bytes, rest) ← takeBytes length input
    return (.text length (some (FixedText.decode bytes)), rest)

/-- The bytes of the value; without one they are zeros. -/
def encode (order : ByteOrder) : Register → Bytes
  | .numeric _ (some value) => value.encode order
  | .numeric type none => List.replicate type.size 0
  | .text length value => FixedText.encode length (value.getD "")

/-- The value as a double, if it is a number. -/
def toFloat? : Register → Option Float
  | .numeric _ value => value.map Number.toFloat
  | .text .. => none

/-- The value in words. -/
def describe : Register → String
  | .numeric _ (some value) => value.text
  | .text _ (some value) => value
  | .numeric _ none | .text _ none => "null value"

/-- The values agree: floats as numbers, all else exactly. -/
def agrees : Register → Register → Bool
  | .numeric type left, .numeric type' right =>
    if same : type = type' then
      match left, right with
      | some left, some right => left.agrees (same ▸ right)
      | none, none => true
      | _, _ => false
    else false
  | .text length left, .text length' right => length = length' && left = right
  | _, _ => false

@[simp] theorem length_encode (order : ByteOrder) (register : Register) :
    (register.encode order).length = register.width := by
  cases register with
  | numeric type value => cases value <;> simp [encode, width]
  | text length value => simp [encode, width]

end Register

end ModbusTcp
