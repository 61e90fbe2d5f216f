import ModbusTcp.Client.Config
import ModbusTcp.Client.Link
import ModbusTcp.FrameFactory
import ModbusTcp.Framing
import ModbusTcp.Packet.Limits

/-!
# Clients

A client owns at most one link and has at most one request on it.  A request takes the link away and
puts it back once a whole response has been read, so nobody is ever given the answer to a request that
was given up: whatever happens in between, the link is lost with it.

* `Client.connect`, `Client.disconnect` — opening the link, and closing it for good.
* `Client.transceive` — one request and its response.
* `Circumstances` — what happens to a call from outside.
-/

namespace ModbusTcp

/-! ### What happens to a call from outside -/

/-- Why the transport stops before it is done. -/
inductive Stop where
  | deadline
  | cancelled
  | failed (reason : IoError)
deriving DecidableEq, Repr

/-- The error of a call that has been stopped while it was sending or receiving. -/
def Stop.toError (phase : IoError → Error) : Stop → Error
  | .deadline => phase .deadlineElapsed
  | .cancelled => .cancelled
  | .failed reason => phase reason

/-- What happens to a call from outside: it may be cancelled before it starts, sending may stop after
some bytes, and waiting for a silent peer ends somehow, if only because of the deadline. -/
structure Circumstances where
  cancelled : Bool := false
  sending : Option (Nat × Stop) := none
  waiting : Stop := .deadline
deriving DecidableEq, Repr

/-- How an attempt to connect ends. -/
inductive Attempt (σ : Type) where
  | established (link : Link σ)
  | stopped (reason : Stop)

/-- How the attempts to connect end, by how many have succeeded before. -/
abbrev Network (σ : Type) := Nat → Attempt σ

/-! ### Clients -/

/-- A client: its settings, what it builds requests with, the link that is free for the next request,
whether it counts as connected, whether it has been disconnected for good, and the links it has lost. -/
structure Client (σ : Type) where
  config : ClientConfig
  factory : FrameFactory
  link : Option (Link σ) := none
  isConnected : Bool := false
  isRetired : Bool := false
  past : List (Link σ) := []

namespace Client

variable {σ : Type}

/-- A client with a factory of its own. -/
def ofFactory (config : ClientConfig) (factory : FrameFactory) : Except Error (Client σ) := do
  config.validate.mapError .config
  return { config, factory }

/-- A new client has what it was made with, and no link yet. -/
theorem eq_of_ofFactory {config : ClientConfig} {factory : FrameFactory} {client : Client σ}
    (made : ofFactory config factory = .ok client) : client = { config, factory } := by
  rw [ofFactory] at made
  cases valid : config.validate with
  | error reason =>
    rw [valid] at made
    exact nomatch made
  | ok _ =>
    rw [valid] at made
    exact (Except.ok.inj made).symm

/-- A client with the basic factory. -/
def ofConfig (config : ClientConfig) : Except Error (Client σ) :=
  ofFactory config { protocolId := config.protocolId }

/-- The links that the client has had, in the order in which they were opened; the free one is the last. -/
def links (client : Client σ) : List (Link σ) := client.past ++ client.link.toList

/-- The frames that the client has written, link by link. -/
def sent (client : Client σ) : List (List Bytes) :=
  client.links.map fun link => Frame.cut client.config.order link.written

/-- The client with its free link set. -/
def keep (client : Client σ) (link : Link σ) : Client σ := { client with link := some link }

/-- The client after it has lost a link. -/
def lose (client : Client σ) (link : Link σ) : Client σ :=
  { client with link := none, isConnected := false, past := client.past ++ [link] }

/-! ### Opening and closing -/

/-- Takes note of how an attempt to connect has ended. -/
def settle (client : Client σ) : Attempt σ → Except Error Unit × Client σ
  | .established link => (.ok (), { client with link := some link, isConnected := true })
  | .stopped reason => (.error (reason.toError .connect), client)

/-- Opens the link, unless there is one or the client has been disconnected for good. -/
def connect (client : Client σ) (cancelled : Bool) (attempt : Attempt σ) :
    Except Error Unit × Client σ :=
  if cancelled then (.error .cancelled, client)
  else if client.isRetired then (.error (.connect .retired), client)
  else if client.link.isSome then (.ok (), client)
  else client.settle attempt

/-- Closes the free link. -/
def close (client : Client σ) : Client σ :=
  { client with link := none, isConnected := false, past := client.past ++ client.link.toList }

/-- How closing the free link ends, given whether the transport can be shut down. -/
def closing (client : Client σ) (shutdown : Except IoError Unit) : Except Error Unit :=
  match client.link with
  | some _ => shutdown.mapError .transmission
  | none => .ok ()

/-- Disconnects the client for good. -/
def disconnect (client : Client σ) : Client σ := { client with isRetired := true }.close

/-! ### Requests -/

/-- Why a request is turned away before it waits for the link. -/
def checkRequest (request : Frame) (cancelled : Bool) : Except Error Unit := do
  (request.pdu?.map fun pdu => pdu.checkLimits.mapError .protocol).getD (.ok ())
  if cancelled then .error .cancelled else .ok ()

/-- Takes the free link for a request. -/
def takeLink (client : Client σ) : Except Error (Link σ × Client σ) :=
  match client.link with
  | some link => .ok (link, { client with link := none })
  | none => .error (.transmission .notConnected)

/-- A response has to carry a PDU of a known function. -/
def classify (response : Frame) : Except Error Frame :=
  match response.pdu? with
  | some ⟨_, some _⟩ => .ok response
  | some ⟨function, none⟩ => .error (.protocol (.unsupportedFunction function))
  | none => .error (.protocol (.unexpectedResponse .noPdu))

/-- Takes note of the bytes of a whole response: the link is free again if they are a frame. -/
def conclude (client : Client σ) (link : Link σ) (bytes : Bytes) : Except Error Frame × Client σ :=
  match Frame.decode client.factory.resolver .response client.config.order bytes with
  | .ok (response, _) => (classify response, client.keep link)
  | .error reason => (.error (.reception reason.toIoError), client.lose link)

/-- Why no whole response can be read off a link: the peer has ended its side, or is silent until
something stops the call. -/
def absence (link : Link σ) (waiting : Stop) : Error :=
  if link.ended then .reception .earlyEof else waiting.toError .reception

/-- Reads the response off a link. -/
def receive (client : Client σ) (link : Link σ) (waiting : Stop) : Except Error Frame × Client σ :=
  match pull client.config.order client.config.maxFrame link.unread with
  | .frame bytes rest => client.conclude { link with unread := rest } bytes
  | .tooLarge length max =>
    (.error (.reception (ProtocolError.frameTooLarge length max).toIoError), client.lose link)
  | .incomplete => (.error (absence link waiting), client.lose { link with unread := [] })

/-- One request and its response. -/
def transceive (peer : Peer σ) (client : Client σ) (request : Frame) (circumstances : Circumstances) :
    Except Error Frame × Client σ :=
  match checkRequest request circumstances.cancelled >>= fun _ => client.takeLink with
  | .error error => (.error error, client)
  | .ok (link, client) =>
    let bytes := request.encode client.config.order
    match circumstances.sending with
    | some (count, reason) =>
      (.error (reason.toError .transmission), client.lose (link.write peer (bytes.take count)))
    | none => client.receive (link.write peer bytes) circumstances.waiting

end Client

end ModbusTcp
