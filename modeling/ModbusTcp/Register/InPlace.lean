import ModbusTcp.Bytes.Cursor
import ModbusTcp.Register.Layout

/-!
# Definitions and buffers in place

A caller hands over definitions that are to get their values where they are.  References to them are put in
the order of their addresses, the layout and the length of the buffer are checked, and then one definition
after the other is decoded.  If that stops in the middle, the definitions before have got their values
already.  `Layout.decode` tells the same without references, from which it cannot be seen what is left of
the definitions after an error.

A buffer is filled in the same way: one value after the other is written to the registers of its
definition, which are a space of a fixed size within the buffer.  `Layout.encode` tells the same without
the spaces, from which it cannot be seen whether a value stays within its own.

* `Layout.Halt` — why working in place stops early.
* `Layout.checkedSpan`, `Layout.checkedSlice` — the differences and slices that it takes.
* `Layout.decodeAt` — the loop that decodes; `Layout.decodeInPlace` — all of it.
* `Layout.encodeFrom` — the loop that encodes; `Layout.encodeInPlace` — all of it.
-/

namespace ModbusTcp

namespace Layout

/-- Why working in place stops early: there is an error to report, or a difference of addresses is
negative, a slice not within its buffer or a value too long for its space, which is the end of the
program. -/
inductive Halt where
  | failed (error : Error)
  | outOfRange

/-- The definitions in the order of their addresses, each with its place in the list. -/
def references (definitions : List Definition) : List (Definition × Nat) :=
  definitions.zipIdx.mergeSort fun left right => left.1.address ≤ right.1.address

/-- The covering span, if its end is not before its start. -/
def checkedSpan : List Definition → Except Halt (UInt16 × Nat)
  | [] => .ok (0, 0)
  | first :: others =>
    if stop first others < (start first others).toNat then .error .outOfRange
    else .ok (start first others, stop first others - (start first others).toNat)

/-- The bytes of a definition's registers, if the buffer holds them. -/
def checkedSlice (base : UInt16) (buffer : Bytes) (definition : Definition) : Except Halt Bytes :=
  if definition.address < base then .error .outOfRange
  else if buffer.length < offset base definition + definition.byteLength then .error .outOfRange
  else .ok (slice base buffer definition)

/-- The definition with its value from the buffer. -/
def decodeChecked (order : ByteOrder) (base : UInt16) (buffer : Bytes) (definition : Definition) :
    Except Halt Definition :=
  match checkedSlice base buffer definition with
  | .error halt => .error halt
  | .ok bytes =>
    match definition.register.decode order bytes with
    | .error reason => .error (.failed (.reception reason.toIoError))
    | .ok (register, _) => .ok { definition with register }

/-- Decodes the definitions at some places, one after the other, and what the list holds then. -/
def decodeAt (order : ByteOrder) (base : UInt16) (buffer : Bytes) :
    List Nat → List Definition → Except Halt Unit × List Definition
  | [], definitions => (.ok (), definitions)
  | place :: places, definitions =>
    match definitions[place]? with
    | none => (.error .outOfRange, definitions)
    | some definition =>
      match decodeChecked order base buffer definition with
      | .error halt => (.error halt, definitions)
      | .ok definition => decodeAt order base buffer places (definitions.set place definition)

/-- Decodes definitions from a buffer that starts at their lowest address, and what the list holds then. -/
def decodeInPlace (order : ByteOrder) (definitions : List Definition) (buffer : Bytes) :
    Except Halt Unit × List Definition :=
  let references := references definitions
  match validateFrom none (references.map (·.1)) with
  | .error reason => (.error (.failed (.protocol reason)), definitions)
  | .ok _ =>
    match references with
    | [] => (.ok (), definitions)
    | (first, _) :: _ =>
      match checkedSpan (references.map (·.1)) with
      | .error halt => (.error halt, definitions)
      | .ok (_, count) =>
        if buffer.length < 2 * count then
          (.error (.failed (.protocol (.bufferTooShort (2 * count) buffer.length))), definitions)
        else decodeAt order first.address buffer (references.map (·.2)) definitions

/-- The buffer with the value of a definition written to the space of its registers. -/
def encodeChecked (order : ByteOrder) (base : UInt16) (buffer : Bytes) (definition : Definition) :
    Except Halt Bytes :=
  match checkedSlice base buffer definition with
  | .error halt => .error halt
  | .ok space =>
    match FixedBuffer.put { free := space } (definition.register.encode order) with
    | none => .error .outOfRange
    | some written => .ok (overwrite buffer (offset base definition) written.contents)

/-- Writes the values of definitions to a buffer, one after the other. -/
def encodeFrom (order : ByteOrder) (base : UInt16) : List Definition → Bytes → Except Halt Bytes
  | [], buffer => .ok buffer
  | definition :: others, buffer =>
    match encodeChecked order base buffer definition with
    | .error halt => .error halt
    | .ok buffer => encodeFrom order base others buffer

/-- Writes the values of definitions to a buffer of zeros that starts at their lowest address. -/
def encodeInPlace (order : ByteOrder) (definitions : List Definition) : Except Halt (UInt16 × Bytes) :=
  match validate definitions with
  | .error reason => .error (.failed (.protocol reason))
  | .ok _ =>
    match checkedSpan (sorted definitions) with
    | .error halt => .error halt
    | .ok (base, count) =>
      (encodeFrom order base (sorted definitions) (List.replicate (2 * count) 0)).map (base, ·)

end Layout

end ModbusTcp
