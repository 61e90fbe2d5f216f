import ModbusTcp.Client.Operation
import ModbusTcp.Proofs.Client.Transceive
import ModbusTcp.Proofs.Server.Dialogue

/-!
# A client and a slave

A client that has a connection to a slave writes a request, which the slave reads, and reads what the
slave writes back.  After that the connection is as it was before, except for what the service knows.

* `Client.OpenOn`, `Client.LinkedTo` — a client has a connection to a slave on which nothing is under
  way, with the basic factory or any one that knows the register model.
* `Link.write_slave` — the slave's half of an exchange, and `Client.receive_reply` the client's.
* `Operation.Asks` — an operation asks a service, and what the service makes of it.
* **`Client.perform_slave`** — an operation comes to what the service answers, if there is room for the
  frames; without it the operation fails.
-/

namespace ModbusTcp

variable {σ : Type}

/-! ### Small frames -/

/-- How long a frame around a PDU is. -/
def Pdu.frameLength (pdu : Pdu) : Nat := 9 + pdu.toPacket.measure

theorem Pdu.frameLength_ofFunction (function : FunctionCode) (content : Body) :
    (ofFunction function (.body content)).frameLength = 10 + content.measure := by
  show 9 + (1 + content.measure) = _
  omega

section Small

variable {order : ByteOrder} {header : Mbap} {pdu : Pdu} {max : Nat}

theorem Frame.length_encode_pdu :
    ((Frame.mk header (some pdu.toPacket)).encode order).length = pdu.frameLength := by
  rw [encode_eq_spell, Mbap.length_spell, List.length_cons, Packet.length_encode, Pdu.frameLength]
  omega

/-- A frame around a small PDU is as long as it says. -/
theorem Frame.isWhole_encode (order : ByteOrder) (header : Mbap) (small : pdu.frameLength ≤ 261) :
    IsWhole order ((Frame.mk header (some pdu.toPacket)).encode order) := by
  rw [Pdu.frameLength] at small
  rw [encode_eq_spell]
  apply isWhole_spell
  rw [List.length_cons, Packet.length_encode]
  simp
  omega

/-- A frame around a small PDU is read off the stream that holds nothing else, if there is room. -/
theorem pull_encode (small : pdu.frameLength ≤ 261) (room : pdu.frameLength ≤ max) :
    pull order max ((Frame.mk header (some pdu.toPacket)).encode order) =
      .frame ((Frame.mk header (some pdu.toPacket)).encode order) [] := by
  have short : ((Frame.mk header (some pdu.toPacket)).encode order).length ≤ max := by
    rwa [Frame.length_encode_pdu]
  have pulled := pull_append (Frame.isWhole_encode order header small) short []
  rwa [List.append_nil] at pulled

/-- Without room it is not. -/
theorem exists_pull_encode_of_lt (order : ByteOrder) (header : Mbap) (small : pdu.frameLength ≤ 261)
    (large : max < pdu.frameLength) :
    ∃ length limit, pull order max ((Frame.mk header (some pdu.toPacket)).encode order) =
      .tooLarge length limit := by
  by_cases enough : 8 ≤ max
  · have expected := Frame.isWhole_encode order header small
    rw [Frame.IsWhole, Frame.length_encode_pdu] at expected
    rw [pull_eq enough, ← expected, if_pos large]
    exact ⟨_, _, rfl⟩
  · exact ⟨_, _, pull_of_lt_eight (Nat.lt_of_not_le enough) _⟩

end Small

/-- Within the limits the counts of a body fit. -/
theorem Body.fits_of_checkLimits {function : FunctionCode} {content : Body}
    (limited : (Pdu.ofFunction function (.body content)).checkLimits = .ok ()) : content.Fits := by
  cases content with
  | writeMultiple start values =>
    have few := (checkCount_eq_ok_iff.mp limited).2
    simp only [maxWriteRegisters] at few
    show 2 * values.length ≤ 255
    omega
  | registerValues bytes =>
    have small := Pdu.measure_le_of_checkLimits limited
    simp only [Body.measure] at small
    show bytes.length ≤ 255
    omega
  | _ => trivial

/-! ### Functions of the register model -/

/-- Nothing that stands behind the register model changes what that says. -/
theorem Resolver.firstOf_of_basic {envelope : Envelope} {direction : Direction} {packet : Packet}
    (named : basic envelope direction = some packet) (others : List Resolver) :
    firstOf (basic :: others) envelope direction = some packet := by
  rw [firstOf, List.findSome?_cons, named]

/-- A function of the register model is asked with a body of one kind and answered with one of another
kind or with an exception. -/
structure FunctionCode.IsBasic (function : FunctionCode) (asked answered : Body) : Prop where
  command : Resolver.basic (.pdu function.value) .command = some (.body asked)
  response : Resolver.basic (.pdu function.value) .response = some (.body answered)
  exception :
    Resolver.basic (.pdu (function.value ||| exceptionFlag)) .response = some (.body (.exception 0))
  byte : FunctionCode.ofByte (withoutFlag function.value) = function
  kind : answered.kind ≠ .exception

namespace FunctionCode

theorem isBasic_readHoldingRegisters :
    IsBasic .readHoldingRegisters (.readRegisters 0 0) (.registerValues []) := by
  constructor <;> decide

theorem isBasic_writeSingleRegister :
    IsBasic .writeSingleRegister (.writeRegister 0 0) (.writeRegister 0 0) := by
  constructor <;> decide

theorem isBasic_writeMultipleRegisters :
    IsBasic .writeMultipleRegisters (.writeMultiple 0 []) (.multipleWritten 0 0) := by
  constructor <;> decide

theorem IsBasic.withoutFlag_value {function : FunctionCode} {asked answered : Body}
    (basic : function.IsBasic asked answered) : withoutFlag function.value = function.value := by
  have byte := value_ofByte (withoutFlag function.value)
  rw [basic.byte] at byte
  exact byte.symm

end FunctionCode

/-! ### Open connections -/

/-- Nothing is under way on a link to a slave that speaks this byte order. -/
structure Link.Idle (order : ByteOrder) (link : Link (Connection σ)) : Prop where
  unread : link.unread = []
  ended : link.ended = false
  order : link.peer.framer.order = order
  basic : ∃ others, link.peer.framer.resolver = .firstOf (Resolver.basic :: others)
  buffer : link.peer.buffer = []
  ending : link.peer.ending = none

/-- A client with the basic factory has a connection to a slave on which nothing is under way. -/
structure Client.OpenOn (client : Client (Connection σ)) (link : Link (Connection σ)) : Prop where
  owns : client.link = some link
  isConnected : client.isConnected = true
  basic : client.factory.resolvers = [Resolver.basic]
  idle : link.Idle client.config.order

/-- A client whose factory knows the register model first of all is free to use its link to a slave, on
which nothing is under way. -/
structure Client.LinkedTo (client : Client (Connection σ)) (link : Link (Connection σ)) : Prop where
  owns : client.link = some link
  basic : ∃ others, client.factory.resolvers = Resolver.basic :: others
  idle : link.Idle client.config.order

theorem Client.OpenOn.linkedTo {client : Client (Connection σ)} {link : Link (Connection σ)}
    (isOpen : client.OpenOn link) : client.LinkedTo link :=
  ⟨isOpen.owns, ⟨[], isOpen.basic⟩, isOpen.idle⟩

/-- A client that opens a connection to a slave is free to use it. -/
theorem Client.linkedTo_connect {client : Client (Connection σ)} (unused : client.link = none)
    (usable : client.isRetired = false) {server : ServerConfig} {factory : FrameFactory} (state : σ)
    (basic : ∃ others, client.factory.resolvers = Resolver.basic :: others)
    (basicServer : ∃ others, factory.resolvers = Resolver.basic :: others)
    (order : client.config.order = server.order) :
    (client.connect false (.established { peer := Slave.connection server factory state })).2.LinkedTo
      { peer := Slave.connection server factory state } := by
  obtain ⟨others, knows⟩ := basicServer
  rw [connect, usable, unused]
  exact ⟨rfl, basic, rfl, rfl, order.symm, ⟨others, congrArg Resolver.firstOf knows⟩, rfl, rfl⟩

/-- The link after a request has been answered and the answer has been read. -/
def Link.exchanged (link : Link (Connection σ)) (state : σ) (request : Bytes) : Link (Connection σ) :=
  { link with peer := { link.peer with state }, written := link.written ++ request, unread := [] }

theorem Link.Idle.exchanged {order : ByteOrder} {link : Link (Connection σ)} (idle : link.Idle order)
    (state : σ) (request : Bytes) : (link.exchanged state request).Idle order :=
  ⟨rfl, idle.ended, idle.order, idle.basic, idle.buffer, idle.ending⟩

/-- A client still has its connection after it has been used. -/
theorem Client.OpenOn.exchanged {client : Client (Connection σ)} {link : Link (Connection σ)}
    (isOpen : client.OpenOn link) (unit : UInt8) (function : FunctionCode) (payload : Packet) (state : σ)
    (request : Bytes) :
    Client.OpenOn { client with
      factory := (client.factory.next unit function payload).2
      link := some (link.exchanged state request) } (link.exchanged state request) :=
  ⟨rfl, isOpen.isConnected, isOpen.basic, isOpen.idle.exchanged state request⟩

/-! ### The two halves of an exchange -/

section Halves

variable {order : ByteOrder} {header : Mbap}

/-- A request that has been written is what it is to the server that reads it. -/
theorem Framer.interpret_encode {framer : Framer} {pdu : Pdu}
    (named : ∀ header, framer.resolver (.mbap header) .command = some (.empty .pdu))
    (resolved : pdu.Resolved framer.resolver .command) :
    framer.interpret ((Frame.mk header (some pdu.toPacket)).encode framer.order) =
      .ok (.request (.readBack header pdu)) := by
  have decoded : Frame.decode framer.resolver .command framer.order
      ((Frame.mk header (some pdu.toPacket)).encode framer.order ++ []) = _ :=
    Frame.decode_encode named resolved []
  rw [List.append_nil] at decoded
  rw [interpret, decoded]

/-- A slave replies to a request that has been read as to the one that has been written. -/
theorem Slave.handle_readBack (service : Service σ) (endpoint : Endpoint) (state : σ) (header : Mbap)
    {pdu : Pdu} {payload : Packet} (carries : pdu.payload = some payload) :
    let request : Frame := ⟨header, some pdu.toPacket⟩
    let asked := service ⟨header.unit, pdu.functionCode, payload⟩ state
    handle service endpoint state (.request (.readBack header pdu)) =
      { state := asked.2, reply := some (request.reply (replyPdu pdu.functionCode asked.1)) } := by
  obtain ⟨function, _⟩ := pdu
  obtain rfl : _ = some payload := carries
  rfl

/-- A slave that is idle answers a request with what its service says, and is idle again. -/
theorem Link.write_slave {link : Link (Connection σ)} (idle : link.Idle order) {pdu : Pdu}
    {payload : Packet} (carries : pdu.payload = some payload)
    (resolved : pdu.Resolved link.peer.framer.resolver .command) (small : pdu.frameLength ≤ 261)
    (room : pdu.frameLength ≤ link.peer.framer.maxFrame) (service : Service σ) (endpoint : Endpoint) :
    let request : Frame := ⟨header, some pdu.toPacket⟩
    let asked := service ⟨header.unit, pdu.functionCode, payload⟩ link.peer.state
    link.write (Connection.peer (Slave.handle service endpoint)) (request.encode order) =
      { link.exchanged asked.2 (request.encode order) with
        unread := (request.reply (Slave.replyPdu pdu.functionCode asked.1)).encode order } := by
  intro request asked
  obtain ⟨unread, ended, rfl, ⟨others, basic⟩, buffer, ending⟩ := idle
  have named (header : Mbap) :
      link.peer.framer.resolver (.mbap header) .command = some (.empty .pdu) := by
    rw [basic]
    rfl
  have enough : 8 ≤ link.peer.framer.maxFrame :=
    Nat.le_trans (Nat.le_add_right_of_le (by decide)) room
  have served : link.peer.framer.serve (Slave.handle service endpoint) link.peer.state
      (request.encode link.peer.framer.order) =
        { state := asked.2, buffer := [],
          replies := [request.reply (Slave.replyPdu pdu.functionCode asked.1)] } := by
    rw [Framer.serve_of_frame enough (pull_encode small room) (Framer.interpret_encode named resolved),
      Slave.handle_readBack service endpoint _ _ carries]
    dsimp only
    rw [Framer.serve_of_incomplete enough (pull_nil enough)]
    rfl
  rw [Link.write, Connection.peer]
  dsimp only
  rw [Connection.receive, ending]
  dsimp only
  rw [buffer, List.nil_append, served, unread, ended]
  simp [Connection.encodeReplies, Link.exchanged, ended, ending, buffer]

/-- A slave that has no room for a request ends the connection without a word. -/
theorem Link.write_slave_of_lt {link : Link (Connection σ)} (idle : link.Idle order) {pdu : Pdu}
    (small : pdu.frameLength ≤ 261) (large : link.peer.framer.maxFrame < pdu.frameLength)
    (handle : Handler σ) :
    let written := link.write (Connection.peer handle) ((Frame.mk header (some pdu.toPacket)).encode order)
    written.unread = [] ∧ written.ended = true := by
  obtain ⟨unread, ended, rfl, _, buffer, ending⟩ := idle
  have whole := Frame.isWhole_encode link.peer.framer.order header small
  have failed : link.peer.framer.decode ((Frame.mk header (some pdu.toPacket)).encode _) = _ :=
    if_pos (by rwa [← whole, Frame.length_encode_pdu])
  dsimp only
  rw [Link.write, Connection.peer]
  dsimp only
  rw [Connection.receive, ending]
  dsimp only
  rw [buffer, List.nil_append, Framer.serve_of_error failed, unread]
  exact ⟨rfl, Bool.or_true _⟩

/-- A client reads a reply whose payload it knows, and its link is free again. -/
theorem Client.receive_reply (client : Client σ) (link : Link σ) (header : Mbap) {others : List Resolver}
    (basic : client.factory.resolvers = Resolver.basic :: others) {pdu : Pdu} {payload : Packet}
    (carries : pdu.payload = some payload) (resolved : pdu.Resolved client.factory.resolver .response)
    (small : pdu.frameLength ≤ 261) (room : pdu.frameLength ≤ client.config.maxFrame) (waiting : Stop) :
    let unread := (Frame.mk header (some pdu.toPacket)).encode client.config.order
    client.receive { link with unread } waiting =
      (.ok (.readBack header pdu), client.keep { link with unread := [] }) := by
  have named (header : Mbap) :
      client.factory.resolver (.mbap header) .response = some (.empty .pdu) := by
    rw [FrameFactory.resolver, basic]
    rfl
  have decoded : Frame.decode client.factory.resolver .response client.config.order
      ((Frame.mk header (some pdu.toPacket)).encode client.config.order ++ []) = _ :=
    Frame.decode_encode named resolved []
  rw [List.append_nil] at decoded
  dsimp only
  rw [receive, pull_encode small room]
  dsimp only
  rw [conclude, decoded]
  obtain ⟨function, _⟩ := pdu
  obtain rfl : _ = some payload := carries
  rfl

/-- A client that has no room for a reply fails. -/
theorem Client.receive_reply_of_lt (client : Client σ) (link : Link σ) (header : Mbap) {pdu : Pdu}
    (small : pdu.frameLength ≤ 261) (large : client.config.maxFrame < pdu.frameLength) (waiting : Stop) :
    let unread := (Frame.mk header (some pdu.toPacket)).encode client.config.order
    ∃ error, (client.receive { link with unread } waiting).1 = .error error := by
  obtain ⟨length, limit, pulled⟩ :=
    exists_pull_encode_of_lt client.config.order header small large
  dsimp only
  rw [receive, pulled]
  exact ⟨_, rfl⟩

/-- A client to which nothing has been written fails. -/
theorem Client.receive_nothing (client : Client σ) {link : Link σ} (unread : link.unread = [])
    (waiting : Stop) : ∃ error, (client.receive link waiting).1 = .error error := by
  rw [receive, unread]
  cases pulled : pull client.config.order client.config.maxFrame [] with
  | frame bytes rest => exact absurd (pull_shortens pulled) (Nat.not_lt_zero _)
  | tooLarge length limit => exact ⟨_, rfl⟩
  | incomplete => exact ⟨_, rfl⟩

end Halves

/-! ### A whole exchange -/

theorem Slave.exists_payload_replyPdu (function : FunctionCode) (answer : Except ExceptionCode Packet) :
    ∃ payload, (replyPdu function answer).payload = some payload := by
  unfold replyPdu
  dsimp only
  split
  · cases answer <;> exact ⟨_, rfl⟩
  · exact ⟨_, rfl⟩

/-- What a service answers, as an operation sees it. -/
def Operation.outcome {α : Type} (operation : Operation α) :
    Except ExceptionCode Body → Except Error (Answer α)
  | .ok content => (operation.accept (.body content)).map .value
  | .error code => .ok (.exception code.value)

theorem Slave.replyPdu_ok {function : FunctionCode} {content : Body}
    (limited : (Pdu.ofFunction function (.body content)).checkLimits = .ok ()) :
    replyPdu function (.ok (.body content)) = Pdu.ofFunction function (.body content) := by
  unfold replyPdu
  dsimp only
  rw [limited]

theorem Slave.replyPdu_error (function : FunctionCode) (code : ExceptionCode) :
    replyPdu function (.error code) = Pdu.exception function.value code := rfl

section Whole

variable {function : FunctionCode} {asked answered : Body}

/-- What a service of the register model may answer: a body of the right kind within the limits. -/
def Body.IsAnswer (function : FunctionCode) (answered reply : Body) : Prop :=
  answered.kind = reply.kind ∧ (Pdu.ofFunction function (.body reply)).checkLimits = .ok ()

/-- An operation asks a service with a request of the register model, and what the service makes of it:
its answer, and what it knows afterwards. -/
structure Operation.Asks {α : Type} (operation : Operation α) (factory : FrameFactory)
    (service : Service σ) (state : σ) (unit : UInt8) (function : FunctionCode)
    (asked answered content : Body) (answer : Except ExceptionCode Body) (after : σ) : Prop where
  basic : function.IsBasic asked answered
  kind : asked.kind = content.kind
  limited : (Pdu.ofFunction function (.body content)).checkLimits = .ok ()
  builds : operation.build factory = .ok (factory.next unit function (.body content))
  serves : service ⟨unit, function, .body content⟩ state = (answer.map .body, after)
  fine : ∀ reply, answer = .ok reply → answered.IsAnswer function reply

/-- The reply to a request of the register model is one that whoever has asked can read. -/
theorem FunctionCode.IsBasic.resolved_replyPdu (basic : function.IsBasic asked answered)
    {answer : Except ExceptionCode Body}
    (fine : ∀ reply, answer = .ok reply → answered.IsAnswer function reply) (others : List Resolver) :
    (Slave.replyPdu function (answer.map .body)).Resolved (.firstOf (Resolver.basic :: others))
      .response := by
  cases answer with
  | ok reply =>
    obtain ⟨kind, limited⟩ := fine reply rfl
    rw [Except.map, Slave.replyPdu_ok limited]
    exact .carries (Resolver.firstOf_of_basic basic.response others) kind
      (Body.fits_of_checkLimits limited)
  | error code =>
    rw [Except.map, Slave.replyPdu_error]
    exact .carries (Resolver.firstOf_of_basic basic.exception others) rfl trivial

/-- What an operation makes of a reply is what the service has answered. -/
theorem FunctionCode.IsBasic.interpret_replyPdu {α : Type} (basic : function.IsBasic asked answered)
    {answer : Except ExceptionCode Body}
    (fine : ∀ reply, answer = .ok reply → answered.IsAnswer function reply) (operation : Operation α)
    (header header' : Mbap) (payload : Packet) :
    operation.interpret ⟨header, some (Pdu.ofFunction function payload).toPacket⟩
        ⟨header', some (Slave.replyPdu function (answer.map .body)).toPacket⟩ =
      operation.outcome answer := by
  rw [Operation.interpret]
  simp only [Frame.pdu?, Option.bind_some, Pdu.ofPacket?_toPacket, Option.map_some, Option.getD_some]
  cases answer with
  | ok reply =>
    obtain ⟨kind, limited⟩ := fine reply rfl
    rw [Except.map, Slave.replyPdu_ok limited, if_neg (by simp [Pdu.ofFunction, basic.withoutFlag_value])]
    cases reply with
    | exception code => exact absurd kind basic.kind
    | _ => rfl
  | error code =>
    rw [Except.map, Slave.replyPdu_error, if_neg (by simp [Pdu.ofFunction, Pdu.exception, basic.withoutFlag_value])]
    rfl

/-- The operation of a client that has a free link writes its request, and reads what has come back. -/
theorem Client.perform_eq_receive {α : Type} {client : Client σ} {link : Link σ}
    (owns : client.link = some link) {unit : UInt8} {content : Body}
    (limited : (Pdu.ofFunction function (.body content)).checkLimits = .ok ()) {operation : Operation α}
    (builds : operation.build client.factory = .ok (client.factory.next unit function (.body content)))
    (peer : Peer σ) (waiting : Stop) :
    let request := (client.factory.next unit function (.body content)).1
    let factory := (client.factory.next unit function (.body content)).2
    let received := Client.receive { client with factory, link := none }
      (link.write peer (request.encode client.config.order)) waiting
    client.perform peer operation { waiting } =
      (received.1 >>= operation.interpret request, received.2) := by
  intro request factory received
  have prepared : client.prepare operation = .ok (request, { client with factory }) := by
    rw [prepare, builds]
    rfl
  have isOpen : ({ client with factory } : Client σ).link = some link := owns
  have limits := Frame.checkLimits_eq_ok (show request.pdu? = _ from Frame.pdu?_ofPdu ..) limited
  rw [perform, prepared]
  dsimp only
  rw [transceive, admitted_eq_ok isOpen limits rfl]

section Slave

variable {α : Type} {client : Client (Connection σ)} {link : Link (Connection σ)}
  {operation : Operation α} {service : Service σ} {unit : UInt8} {content : Body}
  {answer : Except ExceptionCode Body} {after : σ}

theorem Pdu.frameLength_le_of_checkLimits
    (limited : (ofFunction function (.body content)).checkLimits = .ok ()) :
    (ofFunction function (.body content)).frameLength ≤ 261 := by
  have small := measure_le_of_checkLimits limited
  rw [frameLength_ofFunction]
  omega

theorem Slave.frameLength_replyPdu_le (function : FunctionCode) (answer : Except ExceptionCode Body) :
    (replyPdu function (answer.map .body)).frameLength ≤ 261 := by
  have small : (replyPdu function (answer.map .body)).toPacket.measure ≤ 252 := by
    apply measure_replyPdu_le function
    intro payload found
    cases answer with
    | ok reply => exact ⟨reply, (Except.ok.inj found).symm⟩
    | error code => simp [Except.map] at found
  exact Nat.add_le_add_left small 9

/-- What a slave makes of a request for which there is room. -/
theorem Operation.Asks.write_eq {order : ByteOrder} (idle : link.Idle order) {factory : FrameFactory}
    (asks : operation.Asks factory service link.peer.state unit function asked answered content answer
      after)
    (room : (Pdu.ofFunction function (.body content)).frameLength ≤ link.peer.framer.maxFrame)
    (endpoint : Endpoint) :
    let request := (factory.next unit function (.body content)).1
    link.write (Connection.peer (Slave.handle service endpoint)) (request.encode order) =
      { link.exchanged after (request.encode order) with
        unread := (request.reply (Slave.replyPdu function (answer.map .body))).encode order } := by
  intro request
  let pdu := Pdu.ofFunction function (.body content)
  have functionCode : pdu.functionCode = function := asks.basic.byte
  obtain ⟨others, named⟩ := idle.basic
  have resolved : pdu.Resolved link.peer.framer.resolver .command := by
    rw [named]
    exact .carries (Resolver.firstOf_of_basic asks.basic.command others) asks.kind
      (Body.fits_of_checkLimits asks.limited)
  have written : link.write _ (request.encode order) = _ := Link.write_slave idle rfl resolved
    (Pdu.frameLength_le_of_checkLimits asks.limited) room service endpoint
  have served : service ⟨unit, pdu.functionCode, .body content⟩ link.peer.state =
      (answer.map .body, after) := by
    rw [functionCode]
    exact asks.serves
  dsimp only at written
  rw [show service ⟨_, pdu.functionCode, .body content⟩ link.peer.state = _ from served] at written
  rwa [functionCode] at written

/-- **An operation comes to what the service answers**, if its client has a connection to a slave before
that service and there is room for the request and the reply.  The client has used up a transaction id,
the connection has carried the request, and nothing else has changed but the state of the service. -/
theorem Client.perform_slave (linked : client.LinkedTo link)
    (asks : operation.Asks client.factory service link.peer.state unit function asked answered content
      answer after)
    (room : (Pdu.ofFunction function (.body content)).frameLength ≤ link.peer.framer.maxFrame)
    (roomReply : (Slave.replyPdu function (answer.map .body)).frameLength ≤ client.config.maxFrame)
    (endpoint : Endpoint) (waiting : Stop) :
    let request := (client.factory.next unit function (.body content)).1
    let factory := (client.factory.next unit function (.body content)).2
    client.perform (Connection.peer (Slave.handle service endpoint)) operation { waiting } =
      (operation.outcome answer, { client with
        factory
        link := some (link.exchanged after (request.encode client.config.order)) }) := by
  intro request factory
  have written := asks.write_eq linked.idle room endpoint
  obtain ⟨others, basic⟩ := linked.basic
  obtain ⟨payload, carries⟩ := Slave.exists_payload_replyPdu function (answer.map .body)
  have resolved : (Slave.replyPdu function (answer.map .body)).Resolved factory.resolver .response := by
    rw [FrameFactory.resolver, show factory.resolvers = _ from basic]
    exact asks.basic.resolved_replyPdu asks.fine others
  have received := receive_reply { client with factory, link := none }
    (link.exchanged after (request.encode client.config.order))
    { request.header with declared := none } basic carries resolved
    (Slave.frameLength_replyPdu_le function answer) roomReply waiting
  dsimp only at received
  rw [perform_eq_receive linked.owns asks.limited asks.builds, written]
  refine (congrArg (fun received => (received.1 >>= operation.interpret request, received.2))
    received).trans ?_
  exact congrArg (·, _) (asks.basic.interpret_replyPdu asks.fine operation _ _ _)

/-- An operation fails if the slave has no room for its request. -/
theorem Client.perform_slave_of_request_lt (linked : client.LinkedTo link)
    (asks : operation.Asks client.factory service link.peer.state unit function asked answered content
      answer after)
    (large : link.peer.framer.maxFrame < (Pdu.ofFunction function (.body content)).frameLength)
    (handle : Handler σ) (waiting : Stop) :
    ∃ error, (client.perform (Connection.peer handle) operation { waiting }).1 = .error error := by
  let request := (client.factory.next unit function (.body content)).1
  have small := Pdu.frameLength_le_of_checkLimits asks.limited
  have written : (link.write (Connection.peer handle) (request.encode client.config.order)).unread = [] :=
    (Link.write_slave_of_lt linked.idle small large handle).1
  let factory := (client.factory.next unit function (.body content)).2
  obtain ⟨error, fails⟩ :=
    receive_nothing { client with factory, link := none } written waiting
  refine ⟨error, ?_⟩
  rw [perform_eq_receive linked.owns asks.limited asks.builds]
  exact congrArg (· >>= operation.interpret request) fails

/-- An operation fails if its client has no room for the reply. -/
theorem Client.perform_slave_of_reply_lt (linked : client.LinkedTo link)
    (asks : operation.Asks client.factory service link.peer.state unit function asked answered content
      answer after)
    (room : (Pdu.ofFunction function (.body content)).frameLength ≤ link.peer.framer.maxFrame)
    (large : client.config.maxFrame < (Slave.replyPdu function (answer.map .body)).frameLength)
    (endpoint : Endpoint) (waiting : Stop) :
    ∃ error, (client.perform (Connection.peer (Slave.handle service endpoint)) operation
      { waiting }).1 = .error error := by
  let request := (client.factory.next unit function (.body content)).1
  let factory := (client.factory.next unit function (.body content)).2
  have written := asks.write_eq linked.idle room endpoint
  obtain ⟨error, fails⟩ := receive_reply_of_lt { client with factory, link := none }
    (link.exchanged after (request.encode client.config.order))
    { request.header with declared := none } (Slave.frameLength_replyPdu_le function answer) large waiting
  refine ⟨error, ?_⟩
  rw [perform_eq_receive linked.owns asks.limited asks.builds, written]
  exact congrArg (· >>= operation.interpret request) fails

/-- An operation fails if there is no room for its request or for the reply. -/
theorem Client.perform_slave_of_lt (linked : client.LinkedTo link)
    (asks : operation.Asks client.factory service link.peer.state unit function asked answered content
      answer after)
    (large : link.peer.framer.maxFrame < (Pdu.ofFunction function (.body content)).frameLength ∨
      client.config.maxFrame < (Slave.replyPdu function (answer.map .body)).frameLength)
    (endpoint : Endpoint) (waiting : Stop) :
    ∃ error, (client.perform (Connection.peer (Slave.handle service endpoint)) operation
      { waiting }).1 = .error error := by
  by_cases room : (Pdu.ofFunction function (.body content)).frameLength ≤ link.peer.framer.maxFrame
  · exact perform_slave_of_reply_lt linked asks room (large.resolve_left (Nat.not_lt.mpr room)) endpoint
      waiting
  · exact perform_slave_of_request_lt linked asks (Nat.lt_of_not_le room) _ waiting

end Slave

end Whole

end ModbusTcp
