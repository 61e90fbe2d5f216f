import ModbusTcp.Bytes.Take
import ModbusTcp.Packet.Describe
import ModbusTcp.Server.State

/-!
# Errors

An operation fails for one of a few causes, each of which has its text.  Transport errors come from
below, with a kind and a text of their own; protocol errors and errors of the settings are found here.

* `IoError` — a transport error; `ProtocolError` — what is wrong with a request or response;
  `ConfigError` — what is wrong with the settings.
* `Error` — all of them, `Error.name` and `Error.message` their kind and text, `Error.isTransport` tells
  which concern the connection.
* `Error.toIoError` — the form in which an error leaves a served connection.
-/

namespace ModbusTcp

/-! ### Transport errors -/

/-- The kinds of transport error. -/
inductive IoErrorKind where
  | notFound | permissionDenied | connectionRefused | connectionReset | connectionAborted
  | hostUnreachable | networkUnreachable | networkDown | notConnected
  | addressInUse | addressNotAvailable | brokenPipe | alreadyExists | wouldBlock
  | invalidInput | invalidData | timedOut | writeZero | interrupted | unsupported
  | unexpectedEof | outOfMemory | other
deriving DecidableEq, Repr

namespace IoErrorKind

/-- All kinds. -/
def all : List IoErrorKind :=
  [.notFound, .permissionDenied, .connectionRefused, .connectionReset, .connectionAborted,
    .hostUnreachable, .networkUnreachable, .networkDown, .notConnected, .addressInUse,
    .addressNotAvailable, .brokenPipe, .alreadyExists, .wouldBlock, .invalidInput, .invalidData,
    .timedOut, .writeZero, .interrupted, .unsupported, .unexpectedEof, .outOfMemory, .other]

/-- The name of a kind. -/
def name : IoErrorKind → String
  | .notFound => "NotFound"
  | .permissionDenied => "PermissionDenied"
  | .connectionRefused => "ConnectionRefused"
  | .connectionReset => "ConnectionReset"
  | .connectionAborted => "ConnectionAborted"
  | .hostUnreachable => "HostUnreachable"
  | .networkUnreachable => "NetworkUnreachable"
  | .networkDown => "NetworkDown"
  | .notConnected => "NotConnected"
  | .addressInUse => "AddrInUse"
  | .addressNotAvailable => "AddrNotAvailable"
  | .brokenPipe => "BrokenPipe"
  | .alreadyExists => "AlreadyExists"
  | .wouldBlock => "WouldBlock"
  | .invalidInput => "InvalidInput"
  | .invalidData => "InvalidData"
  | .timedOut => "TimedOut"
  | .writeZero => "WriteZero"
  | .interrupted => "Interrupted"
  | .unsupported => "Unsupported"
  | .unexpectedEof => "UnexpectedEof"
  | .outOfMemory => "OutOfMemory"
  | .other => "Other"

/-- The kind with a name. -/
def ofName? (name : String) : Option IoErrorKind := all.find? (·.name = name)

/-- A kind is found by its name. -/
theorem ofName?_name (kind : IoErrorKind) : ofName? kind.name = some kind := by
  cases kind <;> decide

end IoErrorKind

/-- A transport error. -/
structure IoError where
  kind : IoErrorKind
  message : String
deriving DecidableEq, Repr

namespace IoError

/-- Nobody listens at the address. -/
def connectionRefused : IoError := ⟨.connectionRefused, "Connection refused (os error 111)"⟩

/-- No route leads to the address. -/
def networkUnreachable : IoError := ⟨.networkUnreachable, "Network is unreachable (os error 101)"⟩

/-- The port is taken. -/
def addressInUse : IoError := ⟨.addressInUse, "Address already in use (os error 98)"⟩

/-- The peer has ended the connection within a frame. -/
def earlyEof : IoError := ⟨.unexpectedEof, "early eof"⟩

/-- The peer took too long. -/
def deadlineElapsed : IoError := ⟨.timedOut, "deadline elapsed"⟩

/-- The stream has ended within a frame. -/
def bytesRemaining : IoError := ⟨.other, "bytes remaining on stream"⟩

/-- A request on a client without a connection. -/
def notConnected : IoError := ⟨.notConnected, "client is not connected"⟩

/-- An attempt to connect a client that has been disconnected for good. -/
def retired : IoError := ⟨.notConnected, "client has been disconnected"⟩

end IoError

/-- Bytes that are no packet, as a transport error. -/
def DecodeError.toIoError : DecodeError → IoError
  | .endOfInput => ⟨.unexpectedEof, "failed to fill whole buffer"⟩
  | .byteCountMismatch byteCount registers =>
    ⟨.invalidData, "byte count " ++ toString byteCount.toNat ++ " doesn't match " ++
      toString registers.toNat ++ " registers"⟩

/-! ### Protocol errors -/

/-- What is unexpected about a response. -/
inductive Surprise where
  /-- The frame carries no PDU. -/
  | noPdu
  /-- The response belongs to another function. -/
  | otherFunction (found asked : UInt8)
  /-- The response carries something else than the function answers with. -/
  | otherPayload (payload : Packet)
  /-- Said in the words of an application. -/
  | described (text : String)
deriving DecidableEq, Repr

/-- The text of a surprise. -/
def Surprise.message : Surprise → String
  | .noPdu => "frame without PDU"
  | .otherFunction found asked =>
    "function code 0x" ++ Hex.upper 2 found.toNat ++ " in response to 0x" ++ Hex.upper 2 asked.toNat
  | .otherPayload payload => payload.describe
  | .described text => text

/-- What is wrong with a request, a response or a layout of registers. -/
inductive ProtocolError where
  | unsupportedFunction (function : UInt8)
  | unexpectedResponse (surprise : Surprise)
  | spanTooLarge (count max : Nat)
  | emptySpan
  | overlap (label : String) (address : UInt16) (previousEnd : Nat)
  | addressOverflow (label : String) (address : UInt16)
  | registerTooWide (label : String) (width available : Nat)
  | bufferTooShort (expected actual : Nat)
  | frameTooLarge (length max : Nat)
deriving DecidableEq, Repr

namespace ProtocolError

/-- The name of what is wrong. -/
def name : ProtocolError → String
  | .unsupportedFunction .. => "UnsupportedFunction"
  | .unexpectedResponse .. => "UnexpectedResponse"
  | .spanTooLarge .. => "SpanTooLarge"
  | .emptySpan => "EmptySpan"
  | .overlap .. => "Overlap"
  | .addressOverflow .. => "AddressOverflow"
  | .registerTooWide .. => "CodecTooWide"
  | .bufferTooShort .. => "BufferTooShort"
  | .frameTooLarge .. => "FrameTooLarge"

/-- The text of a protocol error. -/
def message : ProtocolError → String
  | .unsupportedFunction function => "unsupported function code 0x" ++ Hex.upper 2 function.toNat
  | .unexpectedResponse surprise => "unexpected response: " ++ surprise.message
  | .spanTooLarge count max =>
    "span of " ++ toString count ++ " registers exceeds the maximum of " ++ toString max
  | .emptySpan => "no registers to transfer"
  | .overlap label address previousEnd =>
    "register '" ++ label ++ "' at 0x" ++ Hex.upper 4 address.toNat ++
      " overlaps the preceding register ending at 0x" ++ Hex.upper 4 previousEnd
  | .addressOverflow label address =>
    "register '" ++ label ++ "' at 0x" ++ Hex.upper 4 address.toNat ++ " exceeds the address range"
  | .registerTooWide label width available =>
    "register '" ++ label ++ "' needs " ++ toString width ++ " bytes but spans only " ++
      toString available
  | .bufferTooShort expected actual =>
    "register buffer holds " ++ toString actual ++ " bytes but " ++ toString expected ++ " are required"
  | .frameTooLarge length max =>
    "frame of " ++ toString length ++ " bytes exceeds the maximum frame size of " ++ toString max ++
      " bytes"

/-- A protocol error as a transport error: the data are invalid. -/
def toIoError (error : ProtocolError) : IoError := ⟨.invalidData, error.message⟩

end ProtocolError

/-! ### Errors of the settings -/

/-- What is wrong with the settings. -/
inductive ConfigError where
  | missingHost
  | zeroPort
  | zeroFrameSize
  | zeroTimeout
  | missingListenAddress
  | zeroInitializationTimeout
  | noTargets
  | invalidSource (text : String)
  | networkTooLong (length max : Nat)
  | serverRunning (state : ServerState)
  /-- Said in the words of an application. -/
  | described (text : String)
deriving DecidableEq, Repr

/-- The text of an error of the settings. -/
def ConfigError.message : ConfigError → String
  | .missingHost => "missing host"
  | .zeroPort => "invalid port 0"
  | .zeroFrameSize => "invalid max frame size 0"
  | .zeroTimeout => "timeouts must not be zero"
  | .missingListenAddress => "missing listen address"
  | .zeroInitializationTimeout => "initialization timeout must not be zero"
  | .noTargets => "no proxy targets"
  | .invalidSource text => "invalid source filter '" ++ text ++ "'"
  | .networkTooLong length max =>
    "prefix length " ++ toString length ++ " exceeds " ++ toString max ++ " bits"
  | .serverRunning state => "server is " ++ state.name
  | .described text => text

/-! ### All errors -/

/-- Why an operation fails. -/
inductive Error where
  | config (reason : ConfigError)
  | connect (reason : IoError)
  | transmission (reason : IoError)
  | reception (reason : IoError)
  | protocol (reason : ProtocolError)
  | cancelled
deriving DecidableEq, Repr

namespace Error

/-- The text of an error. -/
def message : Error → String
  | .config reason => "invalid configuration: " ++ reason.message
  | .connect reason => "connection failed: " ++ reason.message
  | .transmission reason => "Modbus transmission failed: " ++ reason.message
  | .reception reason => "Modbus packet reception failed: " ++ reason.message
  | .protocol reason => reason.message
  | .cancelled => "operation cancelled"

/-- The kind of an error in one word, with what it is about behind a colon. -/
def name : Error → String
  | .config _ => "Config"
  | .connect reason => "Connect:" ++ reason.kind.name
  | .transmission reason => "Transmission:" ++ reason.kind.name
  | .reception reason => "Reception:" ++ reason.kind.name
  | .protocol reason => "Protocol:" ++ reason.name
  | .cancelled => "Cancelled"

/-- The error concerns the connection, which is of no use any more. -/
def isTransport : Error → Bool
  | .connect _ | .transmission _ | .reception _ => true
  | .config _ | .protocol _ | .cancelled => false

/-- The transport error behind an error. -/
def source? : Error → Option IoError
  | .connect reason | .transmission reason | .reception reason => some reason
  | .config _ | .protocol _ | .cancelled => none

/-- An error in the form in which it leaves a served connection. -/
def toIoError : Error → IoError
  | .connect reason | .transmission reason | .reception reason => reason
  | .protocol reason => reason.toIoError
  | .config reason => ⟨.invalidInput, (Error.config reason).message⟩
  | .cancelled => ⟨.interrupted, Error.cancelled.message⟩

end Error

end ModbusTcp
