import ModbusTcp.Address
import ModbusTcp.FrameFactory
import ModbusTcp.Packet.Limits
import ModbusTcp.Server.Config
import ModbusTcp.Server.Connection
import ModbusTcp.Server.Service

/-!
# Slaves

A slave answers every request itself.  A request whose payload is not what its function says, or whose
function is not known, is answered with an exception and never reaches the service; neither does a
frame without a PDU, after which the connection ends.

* `Slave.handle` — the answer to a frame.
* `Slave.connection` — a new connection from a peer.
-/

namespace ModbusTcp

namespace Inbound

/-- The frame that has arrived. -/
def frame : Inbound → Frame
  | .request frame | .malformed frame => frame

end Inbound

namespace Slave

/-- The reply to a frame whose payload is not what its function says. -/
def malformedReply (request : Frame) : Frame :=
  request.reply (.exception ((request.pdu?.map (·.function)).getD 0) .illegalDataValue)

/-- The error of a frame that carries no PDU. -/
def noPdu (peer : Endpoint) : IoError := ⟨.invalidData, "frame without PDU from " ++ peer.text⟩

/-- The reply to a request, given what the service answers.  An answer beyond the limits is the
slave's own failure. -/
def replyPdu (function : FunctionCode) (answer : Except ExceptionCode Packet) : Pdu :=
  let pdu :=
    match answer with
    | .ok payload => Pdu.ofFunction function payload
    | .error code => Pdu.exception function.value code
  match pdu.checkLimits with
  | .ok () => pdu
  | .error _ => Pdu.exception function.value .serverDeviceFailure

variable {σ : Type}

/-- The answer to a frame. -/
def handle (service : Service σ) (peer : Endpoint) : Handler σ := fun state inbound =>
  match inbound with
  | .malformed request => { state, reply := some (malformedReply request) }
  | .request request =>
    match request.pdu? with
    | none => { state, ending := some (.error (noPdu peer)) }
    | some ⟨function, none⟩ =>
      { state, reply := some (request.reply (.exception function .illegalFunction)) }
    | some ⟨function, some payload⟩ =>
      let function := (Pdu.mk function (some payload)).functionCode
      let (answer, state) := service ⟨request.header.unit, function, payload⟩ state
      { state, reply := some (request.reply (replyPdu function answer)) }

/-- How a slave cuts the streams of its peers. -/
def framer (config : ServerConfig) (factory : FrameFactory) : Framer :=
  ⟨config.order, config.maxFrame, factory.resolver⟩

/-- A new connection. -/
def connection (config : ServerConfig) (factory : FrameFactory) (state : σ) : Connection σ :=
  { framer := framer config factory, state }

end Slave

end ModbusTcp
