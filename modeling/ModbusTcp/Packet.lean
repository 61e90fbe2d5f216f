import ModbusTcp.Bytes
import ModbusTcp.Code

/-!
# Packets

A packet is a chain of layers.  Two kinds of layer can carry a packet: the MBAP header of a frame and
the function byte of a PDU.  They are the envelopes.  The chain ends in an envelope that carries
nothing, or in a body, which is what a function code says about registers.

* `Packet` — the chain; `Packet.empty` is the empty packet of each kind.
* `Frame` — a packet whose outermost layer is an MBAP header; `Pdu` — one whose outermost layer is a
  function byte.
* `Packet.settled`, `Packet.same` — two packets are the same if they differ at most in the lengths that
  were declared for them on the wire.
-/

namespace ModbusTcp

/-- The MBAP header of a frame. -/
structure Mbap where
  transactionId : UInt16 := 0
  protocolId : UInt16 := 0
  protocolType : UInt16 := 0
  unit : UInt8 := 0
  /-- The data length that was found on the wire, if the header was read from there. -/
  declared : Option UInt16 := none
deriving DecidableEq, Repr, Inhabited

/-- A layer that can carry a packet. -/
inductive Envelope where
  | mbap (header : Mbap)
  | pdu (function : UInt8)
deriving DecidableEq, Repr, Inhabited

/-- What a request or response says about registers. -/
inductive Body where
  | readRegisters (start count : UInt16)
  | writeRegister (address value : UInt16)
  | writeMultiple (start : UInt16) (values : List UInt16)
  | registerValues (bytes : Bytes)
  | multipleWritten (start count : UInt16)
  | exception (code : UInt8)
deriving DecidableEq, Repr

/-- A chain of layers: envelopes, and at most one body at the end. -/
inductive Packet where
  | bare (envelope : Envelope)
  | carry (envelope : Envelope) (payload : Packet)
  | body (content : Body)
deriving DecidableEq, Repr, Inhabited

/-- The kinds of outermost layer. -/
inductive PacketKind where
  | mbap | pdu | readRegisters | writeRegister | writeMultiple | registerValues | multipleWritten
  | exception
deriving DecidableEq, Repr

namespace PacketKind

/-- All kinds. -/
def all : List PacketKind :=
  [.mbap, .pdu, .readRegisters, .writeRegister, .writeMultiple, .registerValues, .multipleWritten,
    .exception]

/-- The short name of a kind. -/
def name : PacketKind → String
  | .mbap => "mbap"
  | .pdu => "pdu"
  | .readRegisters => "read"
  | .writeRegister => "write"
  | .writeMultiple => "write_multiple"
  | .registerValues => "values"
  | .multipleWritten => "written"
  | .exception => "exception"

/-- The kind with a short name. -/
def ofName? (name : String) : Option PacketKind := all.find? (·.name = name)

/-- A kind is found by its name. -/
theorem ofName?_name (kind : PacketKind) : ofName? kind.name = some kind := by
  cases kind <;> decide

end PacketKind

namespace Body

/-- The kind of a body. -/
def kind : Body → PacketKind
  | .readRegisters .. => .readRegisters
  | .writeRegister .. => .writeRegister
  | .writeMultiple .. => .writeMultiple
  | .registerValues .. => .registerValues
  | .multipleWritten .. => .multipleWritten
  | .exception .. => .exception

end Body

namespace Packet

/-- The empty packet of a kind, into which a packet of that kind is read. -/
def empty : PacketKind → Packet
  | .mbap => .bare (.mbap default)
  | .pdu => .bare (.pdu 0)
  | .readRegisters => .body (.readRegisters 0 0)
  | .writeRegister => .body (.writeRegister 0 0)
  | .writeMultiple => .body (.writeMultiple 0 [])
  | .registerValues => .body (.registerValues [])
  | .multipleWritten => .body (.multipleWritten 0 0)
  | .exception => .body (.exception 0)

/-- The outermost layer, if it can carry a packet. -/
def envelope? : Packet → Option Envelope
  | .bare envelope | .carry envelope _ => some envelope
  | .body _ => none

/-- The packet that the outermost layer carries. -/
def payload? : Packet → Option Packet
  | .carry _ payload => some payload
  | .bare _ | .body _ => none

/-- An envelope with or without a payload. -/
def ofParts (envelope : Envelope) : Option Packet → Packet
  | some payload => .carry envelope payload
  | none => .bare envelope

/-- The innermost packet of the chain. -/
def innermost : Packet → Packet
  | .carry _ payload => payload.innermost
  | .bare envelope => .bare envelope
  | .body content => .body content

/-- How many layers the chain has. -/
def depth : Packet → Nat
  | .carry _ payload => payload.depth + 1
  | .bare _ | .body _ => 1

end Packet

/-! ### Frames and PDUs -/

/-- A packet whose outermost layer is an MBAP header. -/
structure Frame where
  header : Mbap
  payload : Option Packet
deriving DecidableEq, Repr

/-- A packet whose outermost layer is a function byte. -/
structure Pdu where
  function : UInt8
  payload : Option Packet
deriving DecidableEq, Repr

namespace Pdu

/-- The PDU as a packet. -/
def toPacket (pdu : Pdu) : Packet := .ofParts (.pdu pdu.function) pdu.payload

/-- A PDU with a payload for a function. -/
def ofFunction (function : FunctionCode) (payload : Packet) : Pdu := ⟨function.value, some payload⟩

/-- The exception response to a function byte. -/
def exception (function : UInt8) (code : ExceptionCode) : Pdu :=
  ⟨function ||| exceptionFlag, some (.body (.exception code.value))⟩

/-- The function, whether or not it is marked as an exception response. -/
def functionCode (pdu : Pdu) : FunctionCode := .ofByte (withoutFlag pdu.function)

/-- The PDU is marked as an exception response. -/
def isException (pdu : Pdu) : Bool := isFlagged pdu.function

/-- The PDU that a packet is, if its outermost layer is a function byte. -/
def ofPacket? : Packet → Option Pdu
  | .bare (.pdu function) => some ⟨function, none⟩
  | .carry (.pdu function) payload => some ⟨function, some payload⟩
  | _ => none

@[simp] theorem ofPacket?_toPacket (pdu : Pdu) : ofPacket? pdu.toPacket = some pdu := by
  obtain ⟨function, payload⟩ := pdu
  cases payload <;> rfl

end Pdu

namespace Frame

/-- The frame as a packet. -/
def toPacket (frame : Frame) : Packet := .ofParts (.mbap frame.header) frame.payload

/-- The frame that a packet is, if its outermost layer is an MBAP header. -/
def ofPacket? : Packet → Option Frame
  | .bare (.mbap header) => some ⟨header, none⟩
  | .carry (.mbap header) payload => some ⟨header, some payload⟩
  | _ => none

/-- A frame that carries a PDU. -/
def ofPdu (transactionId protocolId : UInt16) (unit : UInt8) (pdu : Pdu) : Frame :=
  ⟨{ transactionId, protocolId, unit }, some pdu.toPacket⟩

/-- The PDU of the frame, if it carries one. -/
def pdu? (frame : Frame) : Option Pdu := frame.payload.bind Pdu.ofPacket?

/-- A frame that answers a request: it carries the ids of the request and another PDU. -/
def reply (request : Frame) (pdu : Pdu) : Frame :=
  ⟨{ request.header with declared := none }, some pdu.toPacket⟩

/-- The frame under another transaction id. -/
def withTransactionId (frame : Frame) (transactionId : UInt16) : Frame :=
  { frame with header := { frame.header with transactionId } }

@[simp] theorem ofPacket?_toPacket (frame : Frame) : ofPacket? frame.toPacket = some frame := by
  obtain ⟨header, payload⟩ := frame
  cases payload <;> rfl

@[simp] theorem pdu?_reply (request : Frame) (pdu : Pdu) : (request.reply pdu).pdu? = some pdu := by
  simp [reply, pdu?]

@[simp] theorem pdu?_ofPdu (transactionId protocolId : UInt16) (unit : UInt8) (pdu : Pdu) :
    (ofPdu transactionId protocolId unit pdu).pdu? = some pdu := by
  simp [ofPdu, pdu?]

end Frame

/-! ### Sameness -/

namespace Mbap

/-- A header that was read with a data length of zero, so that not even a unit id followed. -/
def isCut (header : Mbap) : Bool := header.declared = some 0

end Mbap

namespace Packet

/-- The packet without the lengths declared for it, except that a header cut before its unit id stays
marked as such. -/
def settled : Packet → Packet
  | .bare (.mbap header) =>
    .bare (.mbap { header with declared := if header.isCut then some 0 else none })
  | .bare (.pdu function) => .bare (.pdu function)
  | .carry (.mbap header) payload => .carry (.mbap { header with declared := none }) payload.settled
  | .carry (.pdu function) payload => .carry (.pdu function) payload.settled
  | .body content => .body content

/-- Two packets are the same if they differ at most in the lengths declared for them. -/
def same (left right : Packet) : Bool := left.settled = right.settled

end Packet

end ModbusTcp
