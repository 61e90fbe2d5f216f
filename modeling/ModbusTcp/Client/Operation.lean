import ModbusTcp.Client
import ModbusTcp.Register.Layout

/-!
# Operations on registers

An operation builds its request and knows what to expect in response.  The peer answers with a value
or refuses with an exception; a response that is neither is an error.

* `Operation` — how a request is built and its answer read.
* `Operation.readRange`, `Operation.writeRegister`, `Operation.writeMultiple` — registers as words.
* `Operation.readDefinitions`, `Operation.writeDefinitions` — registers by their definitions.
* `Client.perform` — one operation on a client.
-/

namespace ModbusTcp

/-- What a peer answers: a value, or an exception. -/
inductive Answer (α : Type) where
  | value (value : α)
  | exception (code : UInt8)
deriving DecidableEq, Repr

/-- How a request is built, which fails if it makes no sense, and how the payload of the response is
read. -/
structure Operation (α : Type) where
  build : FrameFactory → Except Error (Frame × FrameFactory)
  accept : Packet → Except Error α

namespace Operation

variable {α : Type}

/-- A payload that the function does not answer with. -/
def unexpected (payload : Packet) : Except Error α :=
  .error (.protocol (.unexpectedResponse (.otherPayload payload)))

/-- The operation with its value passed on to a function. -/
def map {β : Type} (operation : Operation α) (f : α → β) : Operation β where
  build := operation.build
  accept payload := (operation.accept payload).map f

/-- What a response says to a request. -/
def interpret (operation : Operation α) (request response : Frame) : Except Error (Answer α) :=
  let asked := (request.pdu?.map (·.function)).getD 0
  match response.pdu? with
  | none => .error (.protocol (.unexpectedResponse .noPdu))
  | some pdu =>
    if withoutFlag pdu.function ≠ asked then
      .error (.protocol (.unexpectedResponse (.otherFunction pdu.function asked)))
    else
      match pdu.payload with
      | some (.body (.exception code)) => .ok (.exception code)
      | some payload => (operation.accept payload).map .value
      | none => .error (.protocol (.unsupportedFunction pdu.function))

/-- Checks a count of registers before a request is built. -/
def checked (count max : Nat) : Except Error Unit := (checkCount count max).mapError .protocol

/-! ### Registers as words -/

/-- Reads the bytes of consecutive registers. -/
def readRange (unit : UInt8) (start count : UInt16) : Operation Bytes where
  build factory := do
    checked count.toNat maxReadRegisters
    return factory.readRegisters unit start count
  accept
    | .body (.registerValues bytes) => .ok bytes
    | payload => unexpected payload

/-- Writes one register. -/
def writeRegister (unit : UInt8) (address value : UInt16) : Operation Unit where
  build factory := .ok (factory.writeRegister unit address value)
  accept
    | .body (.writeRegister ..) => .ok ()
    | payload => unexpected payload

/-- Writes consecutive registers. -/
def writeMultiple (unit : UInt8) (start : UInt16) (values : List UInt16) : Operation Unit where
  build factory := do
    checked values.length maxWriteRegisters
    return factory.writeMultiple unit start values
  accept
    | .body (.multipleWritten ..) => .ok ()
    | payload => unexpected payload

/-! ### Registers by their definitions -/

/-- Reads the covering span of the definitions, and gives them their values. -/
def readDefinitions (order : ByteOrder) (unit : UInt8) (definitions : List Definition) :
    Operation (List Definition) where
  build factory := do
    (Layout.validate definitions).mapError .protocol
    let (start, count) := Layout.span definitions
    checked count maxDefinitionSpan
    (readRange unit start (UInt16.ofNat count)).build factory
  accept payload := do
    let bytes ← (readRange unit 0 0).accept payload
    Layout.decode order definitions bytes

/-- Writes the covering span of the definitions that are writable. -/
def writeDefinitions (order : ByteOrder) (unit : UInt8) (definitions : List Definition) :
    Operation Unit where
  build factory := do
    let (start, buffer) ← (Layout.encode order (definitions.filter (·.writable))).mapError .protocol
    checked (buffer.length / 2) maxWriteRegisters
    let (words, _) ← (takeWords order (buffer.length / 2) buffer).mapError fun reason =>
      .reception reason.toIoError
    (writeMultiple unit start words).build factory
  accept payload := (writeMultiple unit 0 []).accept payload

end Operation

namespace Client

variable {σ α : Type}

/-- Builds the request of an operation, which uses up a transaction id. -/
def prepare (client : Client σ) (operation : Operation α) : Except Error (Frame × Client σ) := do
  let (request, factory) ← operation.build client.factory
  return (request, { client with factory })

/-- One operation. -/
def perform (peer : Peer σ) (client : Client σ) (operation : Operation α)
    (circumstances : Circumstances) : Except Error (Answer α) × Client σ :=
  match client.prepare operation with
  | .error error => (.error error, client)
  | .ok (request, client) =>
    let (response, client) := client.transceive peer request circumstances
    (response >>= operation.interpret request, client)

end Client

end ModbusTcp
