import ModbusTcp.Error
import ModbusTcp.Register.Definition

/-!
# Layouts

A list of definitions shares one buffer.  The buffer starts at the lowest address and covers all
registers up to the highest; registers that no definition mentions are gaps.

* `Layout.span` — the covering span: its start and how many registers it has.
* `Layout.validate` — the definitions keep apart, fit the address range and have room for their values.
* `Layout.decode` — gives every definition its value from a buffer.
* `Layout.encode` — the buffer with every value at its place.
-/

namespace ModbusTcp.Layout

/-- The definitions in the order of their addresses; those with one address keep their order. -/
def sorted (definitions : List Definition) : List Definition :=
  definitions.mergeSort fun left right => left.address ≤ right.address

/-- The lowest address of a nonempty list of definitions. -/
def start (first : Definition) (others : List Definition) : UInt16 :=
  others.foldl (fun start definition => min start definition.address) first.address

/-- The highest end of a nonempty list of definitions. -/
def stop (first : Definition) (others : List Definition) : Nat :=
  others.foldl (fun stop definition => max stop definition.stop) first.stop

/-- The lowest address, and how many registers there are from there to the highest end. -/
def span : List Definition → UInt16 × Nat
  | [] => (0, 0)
  | first :: others => (start first others, stop first others - (start first others).toNat)

/-- How many addresses there are. -/
def addressCount : Nat := 65536

/-- Checks definitions in the order of their addresses, given where the one before them ends. -/
def validateFrom (previousEnd : Option Nat) : List Definition → Except ProtocolError Unit
  | [] => .ok ()
  | definition :: others =>
    if addressCount < definition.stop then
      .error (.addressOverflow definition.label definition.address)
    else if definition.address.toNat < previousEnd.getD 0 then
      .error (.overlap definition.label definition.address (previousEnd.getD 0))
    else if definition.byteLength < definition.register.width then
      .error (.registerTooWide definition.label definition.register.width definition.byteLength)
    else validateFrom (some definition.stop) others

/-- The definitions keep apart, fit the address range and have room for their values. -/
def validate (definitions : List Definition) : Except ProtocolError Unit :=
  validateFrom none (sorted definitions)

/-- Where the registers of a definition begin in the buffer. -/
def offset (base : UInt16) (definition : Definition) : Nat :=
  2 * (definition.address.toNat - base.toNat)

/-- The bytes of a definition's registers in the buffer. -/
def slice (base : UInt16) (buffer : Bytes) (definition : Definition) : Bytes :=
  (buffer.drop (offset base definition)).take definition.byteLength

/-- The definition with its value from the buffer. -/
def decodeOne (order : ByteOrder) (base : UInt16) (buffer : Bytes) (definition : Definition) :
    Except DecodeError Definition := do
  let (register, _) ← definition.register.decode order (slice base buffer definition)
  return { definition with register }

/-- The definitions with their values from a buffer, or an error and no new value at all. -/
def decode (order : ByteOrder) (definitions : List Definition) (buffer : Bytes) :
    Except Error (List Definition) := do
  (validate definitions).mapError .protocol
  let (base, count) := span definitions
  if buffer.length < 2 * count then
    .error (.protocol (.bufferTooShort (2 * count) buffer.length))
  else
    (definitions.mapM (decodeOne order base buffer)).mapError fun reason => .reception reason.toIoError

/-- A buffer in which some bytes, from an offset on, have been replaced. -/
def overwrite (buffer : Bytes) (offset : Nat) (bytes : Bytes) : Bytes :=
  buffer.take offset ++ bytes ++ buffer.drop (offset + bytes.length)

/-- The lowest address, and the buffer from there on with every value at its place and zeros between. -/
def encode (order : ByteOrder) (definitions : List Definition) :
    Except ProtocolError (UInt16 × Bytes) := do
  validate definitions
  let (base, count) := span definitions
  let buffer := (sorted definitions).foldl
    (fun buffer definition =>
      overwrite buffer (offset base definition) (definition.register.encode order))
    (List.replicate (2 * count) 0)
  return (base, buffer)

end ModbusTcp.Layout
