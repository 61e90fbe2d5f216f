import ModbusTcp.Packet
import ModbusTcp.Text.Hex

/-!
# Packets in words

An error about a packet that nobody asked for shows the packet with the names of its fields.

* `Packet.describe` — the packet in one line.
-/

namespace ModbusTcp

namespace Describe

/-- A record with named fields, the way it appears in a description. -/
def record (name : String) (fields : List (String × String)) : String :=
  let shown := fields.map fun (field, value) => field ++ ": " ++ value
  name ++ " \x7b " ++ ", ".intercalate shown ++ " \x7d"

/-- A number. -/
def nat (value : Nat) : String := toString value

/-- An optional thing. -/
def optional : Option String → String
  | some text => "Some(" ++ text ++ ")"
  | none => "None"

/-- A byte of a byte string: printable characters as they are, others escaped. -/
def byte (value : UInt8) : String :=
  if value = 0x0A then "\\n"
  else if value = 0x0D then "\\r"
  else if value = 0x09 then "\\t"
  else if value = 0x5C then "\\\\"
  else if value = 0x22 then "\\\""
  else if value = 0 then "\\0"
  else if 0x20 ≤ value ∧ value < 0x7F then (Char.ofNat value.toNat).toString
  else "\\x" ++ Hex.lower 2 value.toNat

/-- A byte string. -/
def bytes (values : Bytes) : String := "b\"" ++ String.join (values.map byte) ++ "\""

/-- A list of numbers. -/
def words (values : List UInt16) : String :=
  "[" ++ ", ".intercalate (values.map fun value => nat value.toNat) ++ "]"

end Describe

open Describe in
/-- The body with the names of its fields. -/
def Body.describe : Body → String
  | .readRegisters start count =>
    "ReadRegisters(" ++ record "ReadRegisters"
      [("start_address", nat start.toNat), ("count", nat count.toNat)] ++ ")"
  | .writeRegister address value =>
    "WriteRegister(" ++ record "WriteRegister"
      [("address", nat address.toNat), ("value", nat value.toNat)] ++ ")"
  | .writeMultiple start values =>
    "WriteMultipleRegisters(" ++ record "WriteMultipleRegisters"
      [("start_address", nat start.toNat), ("values", words values)] ++ ")"
  | .registerValues contents =>
    "RegisterValues(" ++ record "RegisterValues" [("buffer", bytes contents)] ++ ")"
  | .multipleWritten start count =>
    "MultipleRegistersWritten(" ++ record "MultipleRegistersWritten"
      [("start_address", nat start.toNat), ("count", nat count.toNat)] ++ ")"
  | .exception code =>
    "ExceptionResponse(" ++ record "ExceptionResponse" [("exception_code", nat code.toNat)] ++ ")"

open Describe in
/-- An envelope with the names of its fields and the description of what it carries. -/
def Envelope.describe (payload : Option String) : Envelope → String
  | .mbap header =>
    "Mbap(" ++ record "Mbap"
      [("transaction_id", nat header.transactionId.toNat),
        ("protocol_id", nat header.protocolId.toNat),
        ("protocol_type", nat header.protocolType.toNat),
        ("unit_id", nat header.unit.toNat),
        ("payload", optional payload),
        ("declared_length", optional (header.declared.map fun length => nat length.toNat))] ++ ")"
  | .pdu function =>
    "Pdu(" ++ record "Pdu" [("function", nat function.toNat), ("payload", optional payload)] ++ ")"

/-- The packet in one line. -/
def Packet.describe : Packet → String
  | .bare envelope => envelope.describe none
  | .carry envelope payload => envelope.describe (some payload.describe)
  | .body content => content.describe

end ModbusTcp
