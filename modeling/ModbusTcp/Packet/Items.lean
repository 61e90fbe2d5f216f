import ModbusTcp.Bytes.Cursor
import ModbusTcp.Packet.Encode

/-!
# Packets item by item

A packet is written layer by layer, outermost first, and each layer writes its own fields one after the other.
A buffer that grows takes them all.  In a space of a fixed size the first field that does not fit is the end of
the program, so whoever writes there measures first.  `Packet.encode` tells the same without a buffer, from
which it cannot be seen whether a field fits.

* `Packet.ownItems`, `Packet.items` — what the outermost layer writes for itself, and what all layers write.
* `Packet.appendTo` — a packet at the end of a buffer that grows.
* `FixedBuffer.putItems`, `Packet.writeTo` — items, and a packet, in a space of a fixed size.
-/

namespace ModbusTcp

/-- What a body writes. -/
def Body.items : Body → List Item
  | .readRegisters start count => [.word start, .word count]
  | .writeRegister address value => [.word address, .word value]
  | .writeMultiple start values =>
    .word start :: .word (UInt16.ofNat values.length) :: .byte (valuesByteCount values) ::
      values.map Item.word
  | .registerValues bytes => [.byte (UInt8.ofNat bytes.length), .raw bytes]
  | .multipleWritten start count => [.word start, .word count]
  | .exception code => [.byte code]

/-- What the header of a frame writes: the ids, the data length, and the unit id unless the frame was cut before
it. -/
def Frame.headerItems (frame : Frame) : List Item :=
  [.word frame.header.transactionId, .word frame.header.protocolId, .word frame.header.protocolType,
    .word frame.dataLength] ++
    if frame.payload.isNone ∧ frame.header.isCut then [] else [.byte frame.header.unit]

namespace Packet

/-- What the outermost layer writes for itself. -/
def ownItems : Packet → List Item
  | .bare (.mbap header) => Frame.headerItems ⟨header, none⟩
  | .carry (.mbap header) payload => Frame.headerItems ⟨header, some payload⟩
  | .bare (.pdu function) | .carry (.pdu function) _ => [.byte function]
  | .body content => content.items

/-- What all layers write, outermost first. -/
def items : Packet → List Item
  | .bare envelope => ownItems (.bare envelope)
  | .carry envelope payload => ownItems (.carry envelope payload) ++ payload.items
  | .body content => ownItems (.body content)

/-- A buffer that grows, after a packet has been written to it. -/
def appendTo (order : ByteOrder) (packet : Packet) (buffer : Bytes) : Bytes :=
  packet.items.foldl (fun buffer item => buffer ++ item.encode order) buffer

end Packet

/-- Appends items one after the other, as long as they fit. -/
def FixedBuffer.putItems (order : ByteOrder) (buffer : FixedBuffer) (items : List Item) :
    Option FixedBuffer :=
  items.foldlM (fun buffer item => buffer.put (item.encode order)) buffer

/-- A buffer of a fixed size, after a packet has been written to it, if it fits. -/
def Packet.writeTo (order : ByteOrder) (packet : Packet) (buffer : FixedBuffer) : Option FixedBuffer :=
  buffer.putItems order packet.items

end ModbusTcp
