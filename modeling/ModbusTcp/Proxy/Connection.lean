import ModbusTcp.Client
import ModbusTcp.Proxy.Config
import ModbusTcp.Server.Slave

/-!
# Proxied connections

A proxied connection has a client of its own, through which it passes the requests of its peer on to
one device, one after the other.  The peer gets each response under its own transaction id.  What the
device cannot be asked, or does not answer properly, is answered with an exception; if the link to the
device is lost, the connection ends after that answer.

* `Proxy.client` — the client of a new connection, if the peer may use a target.
* `Proxy.handle` — what is done with a frame.
* `Proxy.connection` — a new connection, after an attempt to reach the device.
-/

namespace ModbusTcp

namespace Proxy

/-- The error of a peer that may use no target. -/
def noTarget (peer : Endpoint) : IoError := ⟨.permissionDenied, "no proxy target for " ++ peer.text⟩

/-- A factory that speaks to a target. -/
def factoryFor (target : ProxyTarget) (factory : FrameFactory) : FrameFactory :=
  { factory with protocolId := target.client.protocolId }

variable {σ : Type}

/-- The client of a new connection. -/
def client (config : ProxyConfig) (factory : FrameFactory) (peer : Endpoint) :
    Except IoError (Client σ) :=
  match config.route peer.address with
  | none => .error (noTarget peer)
  | some target =>
    (Client.ofFactory target.client (factoryFor target factory)).mapError Error.toIoError

/-- The answer to a request that the device has not answered. -/
def gatewayReply (request : Frame) (function : UInt8) : Frame :=
  request.reply (.exception function .gatewayTargetDevice)

/-- What is done with what came of passing a request on. -/
def turnOf (request : Frame) (function : UInt8) (client : Client σ) :
    Except Error Frame → Turn (Client σ)
  | .ok response =>
    { state := client, reply := some (response.withTransactionId request.header.transactionId) }
  | .error .cancelled => { state := client, ending := some (.ok ()) }
  | .error error =>
    { state := client
      reply := some (gatewayReply request function)
      ending := if error.isTransport then some (.error error.toIoError) else none }

/-- What is done with a frame. -/
def handle (device : Peer σ) (circumstances : Circumstances) (peer : Endpoint) : Handler (Client σ) :=
  fun client inbound =>
    match inbound with
    | .malformed request => { state := client, reply := some (Slave.malformedReply request) }
    | .request request =>
      match request.pdu? with
      | none => { state := client, ending := some (.error (Slave.noPdu peer)) }
      | some ⟨function, none⟩ =>
        { state := client, reply := some (request.reply (.exception function .illegalFunction)) }
      | some ⟨function, some _⟩ =>
        let (result, client) := client.transceive device request circumstances
        turnOf request function client result

/-- How a connection ends that has not reached its device. -/
def endingOf : Except Error Unit → Option Ending
  | .ok () => none
  | .error .cancelled => some (.ok ())
  | .error error => some (.error error.toIoError)

/-- A new connection, after the attempt to reach the device. -/
def connection (config : ProxyConfig) (factory : FrameFactory) (client : Client σ) (stopped : Bool)
    (attempt : Attempt σ) : Connection (Client σ) :=
  let (result, client) := client.connect stopped attempt
  { framer := Slave.framer config.server factory, state := client, ending := endingOf result }

/-- A connection that is over disconnects its client. -/
def close (connection : Connection (Client σ)) : Connection (Client σ) :=
  { connection with state := connection.state.disconnect }

end Proxy

end ModbusTcp
