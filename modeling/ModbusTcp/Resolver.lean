import ModbusTcp.Packet

/-!
# What an envelope carries

Nothing on the wire says what kind of packet an envelope carries; it follows from the function code and
from whether the packet is a request or a response.  A resolver decides it: given an envelope it names
the packet that is to be read next, or declines.

* `Resolver.basic` — the functions of the register model.
* `Resolver.ofTable` — an application's own table of function codes.
* `Resolver.firstOf` — several resolvers, of which the first that does not decline decides.
-/

namespace ModbusTcp

/-- Requests are commands, answers are responses. -/
inductive Direction where
  | command
  | response
deriving DecidableEq, Repr

/-- Names the packet that an envelope carries, in the form it has before it is read. -/
abbrev Resolver := Envelope → Direction → Option Packet

namespace Resolver

/-- A line of a table: what a PDU of this function and direction carries. -/
structure Entry where
  function : UInt8
  direction : Direction
  payload : Packet
deriving DecidableEq, Repr

/-- The payload in the first line for a function and direction. -/
def lookUp (table : List Entry) (function : UInt8) (direction : Direction) : Option Packet :=
  (table.find? fun entry => entry.function = function ∧ entry.direction = direction).map (·.payload)

/-- The functions that read and write registers. -/
def basicTable : List Entry :=
  let line (function : FunctionCode) (direction : Direction) (kind : PacketKind) : Entry :=
    ⟨function.value, direction, .empty kind⟩
  [ line .readHoldingRegisters .command .readRegisters,
    line .readHoldingRegisters .response .registerValues,
    line .readInputRegisters .command .readRegisters,
    line .readInputRegisters .response .registerValues,
    line .writeSingleRegister .command .writeRegister,
    line .writeSingleRegister .response .writeRegister,
    line .writeMultipleRegisters .command .writeMultiple,
    line .writeMultipleRegisters .response .multipleWritten ]

/-- The register model: a frame carries a PDU, a marked response an exception, and a PDU of a known
function the body of that function. -/
def basic : Resolver
  | .mbap _, _ => some (.empty .pdu)
  | .pdu function, direction =>
    if direction = .response ∧ isFlagged function then some (.empty .exception)
    else lookUp basicTable function direction

/-- A table of function codes, which says nothing about frames. -/
def ofTable (table : List Entry) : Resolver
  | .mbap _, _ => none
  | .pdu function, direction => lookUp table function direction

/-- The answer of the first resolver that does not decline. -/
def firstOf (resolvers : List Resolver) : Resolver := fun envelope direction =>
  resolvers.findSome? fun resolver => resolver envelope direction

/-- Reads a frame no further than its function byte. -/
def functionOnly : Resolver
  | .mbap _, _ => some (.empty .pdu)
  | .pdu _, _ => none

/-- The register model, then tables in their order. -/
def withTables (tables : List (List Entry)) : Resolver := firstOf (basic :: tables.map ofTable)

/-- What a packet carries according to a resolver; a body carries nothing. -/
def resolve (resolver : Resolver) (packet : Packet) (direction : Direction) : Option Packet :=
  packet.envelope?.bind fun envelope => resolver envelope direction

end Resolver

end ModbusTcp
