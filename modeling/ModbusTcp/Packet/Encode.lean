import ModbusTcp.Packet
import ModbusTcp.Bytes.Take

/-!
# Measuring and writing packets

The bytes of a packet are those of its layers, outermost first.  The data length in an MBAP header
counts the bytes that follow the length field, so it needs the measure of everything inside.

* `Packet.measure`, `Packet.encode` — how many bytes a packet takes, and which.
* `Frame.dataLength` — what the length field of a frame says.
-/

namespace ModbusTcp

namespace Body

/-- How many bytes a body takes. -/
def measure : Body → Nat
  | .readRegisters .. | .writeRegister .. | .multipleWritten .. => 4
  | .writeMultiple _ values => 5 + 2 * values.length
  | .registerValues bytes => 1 + bytes.length
  | .exception _ => 1

/-- The byte count in front of a list of register values. -/
def valuesByteCount (values : List UInt16) : UInt8 := UInt8.ofNat (2 * values.length)

/-- The bytes of a body. -/
def encode (order : ByteOrder) : Body → Bytes
  | .readRegisters start count => order.word start ++ order.word count
  | .writeRegister address value => order.word address ++ order.word value
  | .writeMultiple start values =>
    order.word start ++ order.word (UInt16.ofNat values.length) ++
      valuesByteCount values :: values.flatMap order.word
  | .registerValues bytes => UInt8.ofNat bytes.length :: bytes
  | .multipleWritten start count => order.word start ++ order.word count
  | .exception code => [code]

end Body

namespace Mbap

/-- The bytes of a header up to its length field. -/
def encodeIds (order : ByteOrder) (header : Mbap) : Bytes :=
  order.word header.transactionId ++ order.word header.protocolId ++ order.word header.protocolType

/-- The bytes of a header in front of so many bytes: the ids, the data length and the unit id. -/
def encodeAbove (order : ByteOrder) (header : Mbap) (length : Nat) : Bytes :=
  header.encodeIds order ++ order.word (UInt16.ofNat (1 + length)) ++ [header.unit]

/-- The bytes of a header with nothing behind it; one that is cut has no unit id either. -/
def encodeAlone (order : ByteOrder) (header : Mbap) : Bytes :=
  if header.isCut then header.encodeIds order ++ order.word 0 else header.encodeAbove order 0

end Mbap

namespace Packet

/-- How many bytes a packet takes. -/
def measure : Packet → Nat
  | .bare (.mbap header) => if header.isCut then 8 else 9
  | .bare (.pdu _) => 1
  | .carry (.mbap _) payload => 9 + payload.measure
  | .carry (.pdu _) payload => 1 + payload.measure
  | .body content => content.measure

/-- The bytes of a packet. -/
def encode (order : ByteOrder) : Packet → Bytes
  | .bare (.mbap header) => header.encodeAlone order
  | .bare (.pdu function) => [function]
  | .carry (.mbap header) payload => header.encodeAbove order payload.measure ++ payload.encode order
  | .carry (.pdu function) payload => function :: payload.encode order
  | .body content => content.encode order

end Packet

namespace Frame

/-- How many bytes a frame takes. -/
def measure (frame : Frame) : Nat := frame.toPacket.measure

/-- The bytes of a frame. -/
def encode (order : ByteOrder) (frame : Frame) : Bytes := frame.toPacket.encode order

/-- What the length field of a frame says: how many bytes follow it. -/
def dataLength (frame : Frame) : UInt16 :=
  match frame.payload with
  | some payload => UInt16.ofNat (1 + payload.measure)
  | none => if frame.header.isCut then 0 else 1

end Frame

/-! ### Laws -/

theorem length_flatMap_word (order : ByteOrder) (values : List UInt16) :
    (values.flatMap order.word).length = 2 * values.length := by
  induction values with
  | nil => rfl
  | cons value values ih => simp [ih]; omega

theorem Body.length_encode (order : ByteOrder) (content : Body) :
    (content.encode order).length = content.measure := by
  cases content with
  | writeMultiple start values =>
    simp only [encode, measure, List.length_append, List.length_cons, ByteOrder.length_word,
      length_flatMap_word]
    omega
  | registerValues bytes =>
    simp only [encode, measure, List.length_cons]
    omega
  | _ => simp [encode, measure]

/-- A packet is as long as its measure says. -/
theorem Packet.length_encode (order : ByteOrder) (packet : Packet) :
    (packet.encode order).length = packet.measure := by
  induction packet with
  | bare envelope =>
    cases envelope with
    | mbap header =>
      simp only [encode, Mbap.encodeAlone, measure]
      split <;> simp [Mbap.encodeAbove, Mbap.encodeIds]
    | pdu function => rfl
  | carry envelope payload ih =>
    cases envelope with
    | mbap header => simp [encode, measure, Mbap.encodeAbove, Mbap.encodeIds, ih]; omega
    | pdu function => simp [encode, measure, ih]; omega
  | body content => exact content.length_encode order

theorem Packet.measure_pos (packet : Packet) : 0 < packet.measure := by
  cases packet with
  | bare envelope =>
    cases envelope <;> simp only [measure]
    · split <;> omega
    · omega
  | carry envelope payload => cases envelope <;> simp only [measure] <;> omega
  | body content => cases content <;> simp only [measure, Body.measure] <;> omega

end ModbusTcp
