import ModbusTcp.Bytes
import ModbusTcp.Text.Digits

/-!
# Hexadecimal text

Hexadecimal digits in upper and lower case, with a least number of digits where a field asks for one.

* `Hex.upper`, `Hex.lower` — a number in hexadecimal, filled up with zeros in front.
* `Hex.toNat` — the number that hexadecimal digits spell.
* `Hex.ofBytes`, `Hex.toBytes` — two digits for each byte, and back.
-/

namespace ModbusTcp.Hex

/-- The hexadecimal digits of a number, at least `width` of them, letters in lower case. -/
def lower (width value : Nat) : String :=
  let digits := Nat.toDigits 16 value
  String.ofList (List.replicate (width - digits.length) '0' ++ digits)

/-- The hexadecimal digits of a number, at least `width` of them, letters in upper case. -/
def upper (width value : Nat) : String := (lower width value).toUpper

/-- Two digits for each byte, letters in lower case. -/
def ofBytes (bytes : Bytes) : String := String.join (bytes.map fun byte => lower 2 byte.toNat)

/-- The number that hexadecimal digits spell, as far as they go. -/
def toNat (chars : List Char) : Nat := Digits.toNat 16 (Digits.take 16 chars).1

/-- The bytes that pairs of hexadecimal digits spell. -/
def toBytes : List Char → Bytes
  | high :: low :: rest => UInt8.ofNat (toNat [high, low]) :: toBytes rest
  | _ => []

end ModbusTcp.Hex
