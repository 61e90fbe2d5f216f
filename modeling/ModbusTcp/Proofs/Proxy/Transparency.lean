import ModbusTcp.Proofs.Proxy.Forwarding
import ModbusTcp.Proofs.Server.Replies

/-!
# A slave behind a proxy

Whoever talks to a slave before a register map through a proxy gets what the slave itself would send, and
the map ends up the same.  There is one exception.  A request beyond the limits never reaches the slave:
the client of the proxy turns it away, and the exception says that the device cannot be asked, where the
slave itself would say that the value is illegal.

* `Demand.isBeyond` — a request that can be read, but is beyond the limits.
* `Frame.Relays`, `Frame.Relayed` — what comes of the reply of a slave, and of the replies to one request
  after the other.
* `Proxy.exists_relays` — one request, asked directly and through a proxy.
* `Proxy.serve_agrees` — all requests of a stream.
* **`Proxy.converse_relayed`** — two conversations with the same requests.
* `Proxy.read_of_nothing_differs` — the exception.
-/

namespace ModbusTcp

/-! ### Requests beyond the limits -/

/-- A request that can be read, but is for no registers or for more than the limits allow. -/
def Demand.isBeyond : Demand → Bool
  | .call ⟨_, _, .body (.readRegisters _ count)⟩ =>
    decide (count.toNat = 0 ∨ maxReadRegisters < count.toNat)
  | .call ⟨_, _, .body (.writeMultiple _ values)⟩ =>
    decide (values.length = 0 ∨ maxWriteRegisters < values.length)
  | _ => false

/-- A register map answers a request beyond the limits with an exception, and nothing changes. -/
theorem RegisterMap.service_of_isBeyond (map : RegisterMap) {asked : UnitRequest}
    (beyond : (Demand.call asked).isBeyond = true) :
    service asked map = (.error .illegalDataValue, map) := by
  obtain ⟨unit, code, payload⟩ := asked
  cases payload with
  | bare | carry => cases beyond
  | body content =>
    apply service_eq_error
    cases content with
    | readRegisters start count =>
      have outside : count.toNat = 0 ∨ maxReadRegisters < count.toNat := of_decide_eq_true beyond
      rw [answer, read, if_pos outside]
      rfl
    | writeMultiple start values =>
      have outside : values.length = 0 ∨ maxWriteRegisters < values.length := of_decide_eq_true beyond
      rw [answer, write, if_pos (by rwa [List.isEmpty_iff_length_eq_zero])]
      rfl
    | _ => cases beyond

/-- What is beyond the limits is what a client turns away. -/
theorem Demand.isBeyond_eq_false_iff {function : UInt8} {asked content : Body}
    (named : Resolver.basic (.pdu function) .command = some (.body asked))
    (kind : asked.kind = content.kind) (unit : UInt8) (code : FunctionCode) :
    (call ⟨unit, code, .body content⟩).isBeyond = false ↔
      (Pdu.mk function (some (.body content))).checkLimits = .ok () := by
  rcases FunctionCode.isBasic_cases named with ⟨same, -⟩ | ⟨same, -⟩ | ⟨same, -⟩
  · obtain rfl := Packet.body.inj same
    cases content with
    | readRegisters start count =>
      show decide _ = false ↔ checkCount count.toNat maxReadRegisters = .ok ()
      rw [checkCount_eq_ok_iff, decide_eq_false_iff_not]
      omega
    | _ => exact absurd kind (by simp [Body.kind])
  · obtain rfl := Packet.body.inj same
    cases content with
    | writeRegister address value => exact iff_of_true rfl rfl
    | _ => exact absurd kind (by simp [Body.kind])
  · obtain rfl := Packet.body.inj same
    cases content with
    | writeMultiple start values =>
      show decide _ = false ↔ checkCount values.length maxWriteRegisters = .ok ()
      rw [checkCount_eq_ok_iff, decide_eq_false_iff_not]
      omega
    | _ => exact absurd kind (by simp [Body.kind])

namespace Frame

/-- What comes of the reply of a slave to a request that has been made through a proxy. -/
inductive Relays (framer : Framer) (request : Bytes) : Bytes → Bytes → Prop
  /-- The reply is passed on as it is. -/
  | same {reply : Bytes} (within : (framer.demand request).isBeyond = false) :
      Relays framer request reply reply
  /-- The request does not reach the slave, and the exception is another one. -/
  | beyond {function : UInt8} (names : request[9]? = some function)
      (beyond : (framer.demand request).isBeyond = true) :
      Relays framer request (answer framer.order request (.exception function .illegalDataValue))
        (answer framer.order request (.exception function .gatewayTargetDevice))

/-- What comes of the replies of a slave to requests that have been made through a proxy. -/
inductive Relayed (framer : Framer) : List Bytes → List Bytes → List Bytes → Prop
  | nil : Relayed framer [] [] []
  | cons {request reply relayed : Bytes} {requests replies others : List Bytes}
      (relays : Relays framer request reply relayed) (later : Relayed framer requests replies others) :
      Relayed framer (request :: requests) (reply :: replies) (relayed :: others)

section Relayed

variable {framer : Framer} {requests replies relayed : List Bytes}

/-- If no request is beyond the limits, all replies are passed on as they are. -/
theorem Relayed.eq_of_within (those : Relayed framer requests replies relayed)
    (within : ∀ request ∈ requests, (framer.demand request).isBeyond = false) : relayed = replies := by
  induction those with
  | nil => rfl
  | cons relays later ih =>
    rw [List.forall_mem_cons] at within
    cases relays with
    | same => rw [ih within.2]
    | beyond names beyond => exact absurd (beyond.symm.trans within.1) (by decide)

end Relayed

end Frame

/-! ### One request -/

/-- A client turns a request away that is beyond the limits. -/
theorem Client.transceive_of_limits {σ : Type} (client : Client σ) (device : Peer σ) {request : Frame}
    {pdu : Pdu} (carries : request.pdu? = some pdu) {reason : ProtocolError}
    (limits : pdu.checkLimits = .error reason) (circumstances : Circumstances) :
    client.transceive device request circumstances = (.error (.protocol reason), client) := by
  rw [transceive, checkRequest, carries, Option.map_some, Option.getD_some, limits]
  rfl

/-- A PDU that answers is read by whoever knows the register model. -/
theorem Pdu.Answering.reads {asked : UInt8} {pdu : Pdu} (answering : pdu.Answering asked)
    (order : ByteOrder) (header : Mbap) :
    let bytes := (Frame.mk header (some pdu.toPacket)).encode order
    Frame.Reads Resolver.basic .response order bytes bytes (.readBack header pdu) pdu := by
  refine ⟨Frame.isWhole_encode order header answering.frameLength_le, ⟨[], (List.append_nil _).symm, ?_⟩,
    ofPacket?_toPacket pdu, ?_⟩
  · exact Frame.decode_encode_alone (fun _ => rfl) answering.resolved
  · obtain ⟨content, carried⟩ := answering.carries
    rw [carried]
    rfl

namespace Proxy

section Request

variable {framer : Framer} {client : Client (Connection RegisterMap)} {link : Link (Connection RegisterMap)}
variable {circumstances : Client (Connection RegisterMap) → Circumstances} {request : Bytes}

/-- A request within the limits, asked directly and through a proxy. -/
theorem exists_handled_within (isOpen : client.OpenOn link) (room : 261 ≤ client.config.maxFrame)
    (roomPeer : 261 ≤ link.peer.framer.maxFrame) (uncancelled : (circumstances client).Uncancelled)
    (undisturbed : (circumstances client).sending = none) (near far endpoint : Endpoint)
    (header : Mbap) {function : UInt8} {asked content : Body}
    (named : Resolver.basic (.pdu function) .command = some (.body asked))
    (kind : asked.kind = content.kind) (fits : content.Fits)
    (limited : (Pdu.mk function (some (.body content))).checkLimits = .ok ()) :
    let inbound := Inbound.request ⟨header, some (Pdu.mk function (some (.body content))).toPacket⟩
    ∃ answer next reply,
      Slave.handle RegisterMap.service near link.peer.state inbound =
        { state := next.peer.state, reply := some answer } ∧
      handleUnder (Connection.peer (Slave.handle RegisterMap.service far)) circumstances endpoint client
        inbound = { state := client.keep next, reply := some reply } ∧
      (client.keep next).OpenOn next ∧ next.peer.framer = link.peer.framer ∧
      reply.encode client.config.order = answer.encode client.config.order := by
  intro inbound
  let pdu := Pdu.mk function (some (.body content))
  let request : Frame := ⟨header, some pdu.toPacket⟩
  let asks := RegisterMap.service ⟨header.unit, pdu.functionCode, .body content⟩ link.peer.state
  let answer := Slave.replyPdu pdu.functionCode asks.1
  let ids : Mbap := { header with declared := none }
  have answering : answer.Answering function :=
    Slave.answering_of_call link.peer.state header.unit named kind
  obtain ⟨others, knows⟩ := isOpen.idle.basic
  have resolved : pdu.Resolved link.peer.framer.resolver .command := by
    rw [knows]
    exact .carries (Resolver.firstOf_of_basic named others) kind fits
  have small : pdu.frameLength ≤ 261 := by
    have few := Pdu.measure_le_of_checkLimits limited
    show 9 + (1 + content.measure) ≤ 261
    omega
  have written : link.write (Connection.peer (Slave.handle RegisterMap.service far))
      (request.encode client.config.order) = { link.exchanged asks.2 (request.encode _) with
        unread := (request.reply answer).encode client.config.order } :=
    Link.write_slave isOpen.idle rfl resolved small (Nat.le_trans small roomPeer) RegisterMap.service far
  have reads : Frame.Reads client.factory.resolver .response client.config.order
      ((request.reply answer).encode client.config.order)
      ((request.reply answer).encode client.config.order) (.readBack ids answer) answer := by
    rw [FrameFactory.resolver, isOpen.basic, Resolver.firstOf_singleton]
    exact answering.reads client.config.order ids
  have fitsReply : ((request.reply answer).encode client.config.order).length ≤ client.config.maxFrame := by
    rw [show ((request.reply answer).encode _).length = _ from Frame.length_encode_pdu]
    exact Nat.le_trans answering.frameLength_le room
  have carries : request.pdu? = some pdu := Pdu.ofPacket?_toPacket pdu
  have turn := handleUnder_of_answer isOpen.owns (Connection.peer (Slave.handle RegisterMap.service far))
    carries rfl limited uncancelled undisturbed (by rw [written, List.append_nil]) reads fitsReply endpoint
  rw [written] at turn
  refine ⟨request.reply answer, link.exchanged asks.2 (request.encode client.config.order), _, rfl, turn,
    ⟨rfl, isOpen.isConnected, isOpen.basic, isOpen.idle.exchanged _ _⟩, rfl, ?_⟩
  -- Under the transaction id of the request the response has the ids that the slave has given it.
  rw [Frame.withTransactionId, Frame.readBack, Frame.reply, Frame.encode_eq_spell, Frame.encode_eq_spell]
  rfl

/-- A request beyond the limits, asked directly and through a proxy. -/
theorem handled_beyond (map : RegisterMap) (client : Client (Connection RegisterMap))
    (circumstances : Client (Connection RegisterMap) → Circumstances) (near far endpoint : Endpoint)
    (header : Mbap) {function : UInt8} {asked content : Body}
    (named : Resolver.basic (.pdu function) .command = some (.body asked))
    (beyond : (Demand.call
      ⟨header.unit, .ofByte (withoutFlag function), .body content⟩).isBeyond = true)
    {reason : ProtocolError}
    (limits : (Pdu.mk function (some (.body content))).checkLimits = .error reason) :
    let request : Frame := ⟨header, some (Pdu.mk function (some (.body content))).toPacket⟩
    Slave.handle RegisterMap.service near map (.request request) =
        { state := map, reply := some (request.reply (.exception function .illegalDataValue)) } ∧
      handleUnder (Connection.peer (Slave.handle RegisterMap.service far)) circumstances endpoint client
          (.request request) =
        { state := client, reply := some (request.reply (.exception function .gatewayTargetDevice)) } := by
  intro request
  have carries : request.pdu? = some (Pdu.mk function (some (.body content))) :=
    Pdu.ofPacket?_toPacket (Pdu.mk function (some (.body content)))
  have turned := client.transceive_of_limits (Connection.peer (Slave.handle RegisterMap.service far)) carries
    limits (circumstances client)
  constructor
  · rw [Slave.handle, carries]
    dsimp only [Pdu.functionCode]
    rw [map.service_of_isBeyond beyond, Slave.replyPdu_error, FunctionCode.ofByte_withoutFlag named,
      FunctionCode.value_ofByte]
  · rw [handleUnder, handle, carries]
    dsimp only
    rw [turned]
    rfl

/-- A request, asked directly and through a proxy: the map is the same afterwards, and so is the reply,
unless the request is beyond the limits. -/
theorem exists_relays (basic : framer.resolver = Resolver.basic) (isOpen : client.OpenOn link)
    (speaks : client.config.order = framer.order) (room : 261 ≤ client.config.maxFrame)
    (roomPeer : 261 ≤ link.peer.framer.maxFrame) (uncancelled : (circumstances client).Uncancelled)
    (undisturbed : (circumstances client).sending = none) (near far endpoint : Endpoint)
    (whole : Frame.IsWhole framer.order request) (holds : Frame.hasPdu request) :
    ∃ inbound answer next reply, framer.interpret request = .ok inbound ∧
      Slave.handle RegisterMap.service near link.peer.state inbound =
        { state := next.peer.state, reply := some answer } ∧
      handleUnder (Connection.peer (Slave.handle RegisterMap.service far)) circumstances endpoint client
        inbound = { state := client.keep next, reply := some reply } ∧
      (client.keep next).OpenOn next ∧ next.peer.framer = link.peer.framer ∧
      Frame.Relays framer request (answer.encode framer.order) (reply.encode framer.order) := by
  have unused : client.keep link = client := by
    rw [Client.keep, ← isOpen.owns]
  have stays : (client.keep link).OpenOn link := by
    rw [unused]
    exact isOpen
  obtain ⟨header, function, names, replies, hears⟩ := Framer.exists_hears basic whole holds
  cases hears with
  | unknown demands interprets =>
    refine ⟨_, _, link, _, interprets, rfl, ?_, stays, rfl, .same (by rw [demands]; rfl)⟩
    rw [unused]
    rfl
  | malformed demands interprets =>
    refine ⟨_, _, link, _, interprets, rfl, ?_, stays, rfl, .same (by rw [demands]; rfl)⟩
    rw [unused]
    rfl
  | @call asked content named kind fits demands interprets =>
    have judged := Demand.isBeyond_eq_false_iff named kind header.unit (.ofByte (withoutFlag function))
    rw [← demands] at judged
    cases limits : (Pdu.mk function (some (.body content))).checkLimits with
    | ok _ =>
      obtain ⟨answer, next, reply, direct, passed, isOpen', same, equal⟩ :=
        exists_handled_within isOpen room roomPeer uncancelled undisturbed near far endpoint header named
          kind fits limits
      rw [speaks] at equal
      refine ⟨_, answer, next, reply, interprets, direct, passed, isOpen', same, ?_⟩
      rw [equal]
      exact .same (judged.mpr limits)
    | error reason =>
      have beyond : (framer.demand request).isBeyond = true := by
        rw [← Bool.not_eq_false, judged, limits]
        rintro ⟨⟩
      obtain ⟨direct, passed⟩ := handled_beyond link.peer.state client circumstances near far endpoint
        header named (demands ▸ beyond) limits
      refine ⟨_, _, link, _, interprets, direct, passed.trans (by rw [unused]), stays, rfl, ?_⟩
      rw [replies, replies]
      exact .beyond names beyond

end Request

/-! ### One request after the other -/

section Requests

variable {circumstances : Client (Connection RegisterMap) → Circumstances} {requests : List Bytes}

/-- What has come of the requests of a stream, made to a slave directly and through a proxy. -/
structure Agrees (framer : Framer) (max : Nat) (requests : List Bytes) (answered : Served RegisterMap)
    (passed : Served (Client (Connection RegisterMap))) : Prop where
  /-- Neither connection has ended. -/
  goesOn : answered.ending = none ∧ passed.ending = none
  /-- Nothing of the stream is left. -/
  buffers : answered.buffer = [] ∧ passed.buffer = []
  /-- The slave behind the proxy has the same registers as the other one. -/
  registers : passed.state.link.map (·.peer.state) = some answered.state
  /-- The replies are the same, as far as the requests have reached the slave. -/
  replies : ∃ replies relayed,
    Connection.encodeReplies { framer with maxFrame := max } answered.replies = replies.flatten ∧
      Connection.encodeReplies framer passed.replies = relayed.flatten ∧
      Frame.Relayed framer requests replies relayed

/-- All requests of a stream, asked directly and through a proxy, whose room for frames may differ. -/
theorem serve_agrees {framer : Framer} (basic : framer.resolver = Resolver.basic) {max : Nat}
    (enough : 8 ≤ framer.maxFrame) (enoughDirect : 8 ≤ max)
    {client : Client (Connection RegisterMap)} {link : Link (Connection RegisterMap)}
    (isOpen : client.OpenOn link) (speaks : client.config.order = framer.order)
    (room : 261 ≤ client.config.maxFrame) (roomPeer : 261 ≤ link.peer.framer.maxFrame)
    (uncancelled : ∀ client, (circumstances client).Uncancelled)
    (undisturbed : ∀ client, (circumstances client).sending = none) (near far endpoint : Endpoint)
    (whole : ∀ request ∈ requests, Frame.IsWhole framer.order request ∧ Frame.hasPdu request ∧
      request.length ≤ framer.maxFrame ∧ request.length ≤ max) :
    Agrees framer max requests
      (Framer.serve { framer with maxFrame := max } (Slave.handle RegisterMap.service near)
        link.peer.state requests.flatten)
      (framer.serve (handleUnder (Connection.peer (Slave.handle RegisterMap.service far)) circumstances
        endpoint) client requests.flatten) := by
  induction requests generalizing client link with
  | nil =>
    rw [List.flatten_nil, Framer.serve_of_incomplete enough (pull_nil enough),
      Framer.serve_of_incomplete enoughDirect (pull_nil enoughDirect)]
    refine ⟨⟨rfl, rfl⟩, ⟨rfl, rfl⟩, ?_, [], [], rfl, rfl, .nil⟩
    rw [isOpen.owns]
    rfl
  | cons request later ih =>
    rw [List.forall_mem_cons] at whole
    obtain ⟨⟨isWhole, holds, fits, fitsDirect⟩, others⟩ := whole
    obtain ⟨inbound, answer, next, reply, interpreted, direct, passed, stays, same, relays⟩ :=
      exists_relays basic isOpen speaks room roomPeer (uncancelled client) (undisturbed client) near far
        endpoint isWhole holds
    have wholeDirect : Frame.IsWhole (Framer.order { framer with maxFrame := max }) request := isWhole
    rw [List.flatten_cons, Framer.serve_isWhole_append isWhole fits interpreted passed,
      Framer.serve_isWhole_append wholeDirect fitsDirect interpreted direct]
    obtain ⟨goesOn, buffers, registers, replies, relayed, written, forwarded, those⟩ :=
      ih stays speaks room (by rw [same]; exact roomPeer) others
    refine ⟨goesOn, buffers, registers, _ :: replies, _ :: relayed, ?_, ?_, .cons relays those⟩
    · rw [List.flatten_cons, ← written]
      rfl
    · rw [List.flatten_cons, ← forwarded]
      rfl

/-- **A slave behind a proxy.**  The same frames with PDUs are sent to a slave before a register map and,
cut in whatever way, to a proxy whose device is that slave; there is one byte order, the factories are the
basic ones, and every side has room for 261 bytes.  Then both connections last until the end of the stream,
the map ends up the same, and the replies are the same, except that a request beyond the limits is refused
by the proxy in place of the slave.  If there is no such request, the bytes are the same. -/
theorem converse_relayed (config : ProxyConfig) (device : ServerConfig) (near far endpoint : Endpoint)
    {client : Client (Connection RegisterMap)} (routed : Proxy.client config {} endpoint = .ok client)
    (speaks : client.config.order = config.server.order) (answers : device.order = config.server.order)
    (room : 261 ≤ config.server.maxFrame) (roomClient : 261 ≤ client.config.maxFrame)
    (roomDevice : 261 ≤ device.maxFrame) (map : RegisterMap)
    (uncancelled : ∀ client, (circumstances client).Uncancelled)
    (undisturbed : ∀ client, (circumstances client).sending = none)
    (whole : ∀ request ∈ requests, Frame.IsWhole config.server.order request ∧ Frame.hasPdu request ∧
      request.length ≤ config.server.maxFrame ∧ request.length ≤ device.maxFrame)
    {chunks pieces : List Bytes} (sent : chunks.flatten = requests.flatten)
    (forwarded : pieces.flatten = requests.flatten) :
    let slave := Slave.connection device {} map
    let opened := connection config {} client false (.established { peer := slave })
    let (direct, answered) := slave.converse (Slave.handle RegisterMap.service near) chunks
    let (last, passed) := opened.converse
      (handleUnder (Connection.peer (Slave.handle RegisterMap.service far)) circumstances endpoint) pieces
    direct.ending = some (.ok ()) ∧ last.ending = some (.ok ()) ∧
      last.state.link.map (·.peer.state) = some direct.state ∧
      (∃ replies relayed, answered = replies.flatten ∧ passed = relayed.flatten ∧
        Frame.Relayed (Slave.framer config.server {}) requests replies relayed) ∧
      ((∀ request ∈ requests, ((Slave.framer config.server {}).demand request).isBeyond = false) →
        passed = answered) := by
  intro slave opened
  have established : opened = _ := connection_established config {} endpoint routed { peer := slave }
  have isOpen : Client.OpenOn { client with link := some { peer := slave }, isConnected := true }
      { peer := slave } := by
    obtain ⟨target, -, rfl⟩ := exists_route_of_client config {} endpoint routed
    exact ⟨rfl, rfl, rfl, rfl, rfl, answers.trans speaks.symm, ⟨[], rfl⟩, rfl, rfl⟩
  have basic : (Slave.framer config.server {}).resolver = Resolver.basic :=
    Resolver.firstOf_singleton Resolver.basic
  have enough : 8 ≤ config.server.maxFrame := by omega
  have enoughDirect : 8 ≤ device.maxFrame := by omega
  have alike : Slave.framer device {} =
      { Slave.framer config.server {} with maxFrame := device.maxFrame } := by
    simp only [Slave.framer, answers]
  obtain ⟨goesOn, buffers, registers, replies, relayed, given, passedOn, those⟩ :
      Agrees (Slave.framer config.server {}) device.maxFrame requests
        ((Slave.framer device {}).serve (Slave.handle RegisterMap.service near) map requests.flatten) _ := by
    rw [alike]
    exact serve_agrees basic enough enoughDirect isOpen speaks roomClient roomDevice uncancelled undisturbed
      near far endpoint whole
  obtain ⟨written, same, ended⟩ :=
    Connection.converse_of_goesOn _ (Slave.framer device {}) enoughDirect map chunks sent goesOn.1 buffers.1
  obtain ⟨writtenThrough, sameThrough, endedThrough⟩ :=
    Connection.converse_of_goesOn _ (Slave.framer config.server {}) enough _ pieces forwarded goesOn.2
      buffers.2
  rw [← alike] at given
  rw [established]
  have answered := written.trans given
  have passed := writtenThrough.trans passedOn
  refine ⟨ended, endedThrough, ?_, ⟨replies, relayed, answered, passed, those⟩, ?_⟩
  · have kept := congrArg (fun client => client.link.map (·.peer.state)) sameThrough
    exact kept.trans (registers.trans (congrArg some same.symm))
  · intro within
    rw [those.eq_of_within within] at passed
    exact passed.trans answered.symm

end Requests

/-- A register is written and read back with padding behind the request, and a function is asked for that
nobody knows: the bytes are the same, wherever the two streams are cut. -/
theorem converse_relayed_same :
    let config : ProxyConfig := { targets := [{ client := { host := "device" } }] }
    let client : Client (Connection RegisterMap) := { config := { host := "device" }, factory := {} }
    let endpoint : Endpoint := ⟨.v4 0, 502⟩
    let write : Bytes := [0, 1, 0, 0, 0, 0, 0, 6, 17, 6, 0, 5, 1, 44]
    let read : Bytes := [0, 2, 0, 0, 0, 0, 0, 8, 17, 3, 0, 5, 0, 1, 255, 255]
    let unknown : Bytes := [0, 3, 0, 0, 0, 0, 0, 2, 17, 65]
    let stream := [write, read, unknown].flatten
    let slave := Slave.connection {} {} (RegisterMap.set {} 5 7)
    let opened := connection config {} client false (.established { peer := slave })
    let (direct, answered) := slave.converse (Slave.handle RegisterMap.service endpoint) [stream]
    let (last, passed) := opened.converse
      (handleUnder (Connection.peer (Slave.handle RegisterMap.service endpoint)) (fun _ => {}) endpoint)
      [stream.take 9, stream.drop 9]
    passed = answered ∧ last.state.link.map (·.peer.state) = some direct.state := by
  intro config client endpoint write read unknown stream slave opened
  have whole : ∀ request ∈ [write, read, unknown], Frame.IsWhole config.server.order request ∧
      Frame.hasPdu request ∧ request.length ≤ config.server.maxFrame ∧
      request.length ≤ ({} : ServerConfig).maxFrame := by
    unfold Frame.IsWhole
    decide +kernel
  have within : ∀ request ∈ [write, read, unknown],
      ((Slave.framer config.server {}).demand request).isBeyond = false := by
    decide +kernel
  obtain ⟨-, -, registers, -, same⟩ := converse_relayed config {} endpoint endpoint endpoint rfl rfl rfl
    (by decide) (show 261 ≤ client.config.maxFrame by decide) (by decide) (RegisterMap.set {} 5 7)
    (fun _ => Circumstances.uncancelled_default) (fun _ => rfl) whole
    (show [stream].flatten = stream by rfl) (show [stream.take 9, stream.drop 9].flatten = stream by rfl)
  exact ⟨same within, registers⟩

/-- Who reads no registers at all is told by a slave that the value is illegal, and by a proxy before it
that the device cannot be asked. -/
theorem read_of_nothing_differs :
    let config : ProxyConfig := { targets := [{ client := { host := "device" } }] }
    let client : Client (Connection RegisterMap) := { config := { host := "device" }, factory := {} }
    let endpoint : Endpoint := ⟨.v4 0, 502⟩
    let request : Bytes := [0, 1, 0, 0, 0, 0, 0, 6, 17, 3, 0, 0, 0, 0]
    let slave := Slave.connection {} {} (RegisterMap.set {} 0 7)
    let opened := connection config {} client false (.established { peer := slave })
    let (_, answered) := slave.converse (Slave.handle RegisterMap.service endpoint) [request]
    let (_, passed) := opened.converse
      (handleUnder (Connection.peer (Slave.handle RegisterMap.service endpoint)) (fun _ => {}) endpoint)
      [request]
    Proxy.client config {} endpoint = .ok client ∧
      (client.config.order = config.server.order ∧ slave.framer.order = config.server.order) ∧
      (261 ≤ config.server.maxFrame ∧ 261 ≤ client.config.maxFrame ∧ 261 ≤ slave.framer.maxFrame) ∧
      (Frame.IsWhole config.server.order request ∧ Frame.hasPdu request ∧ request.length ≤ 261) ∧
      answered = [0, 1, 0, 0, 0, 0, 0, 3, 17, 131, 3] ∧ passed = [0, 1, 0, 0, 0, 0, 0, 3, 17, 131, 11] ∧
      passed ≠ answered := by
  intro config client endpoint request slave opened
  have whole : Frame.IsWhole config.server.order request := by
    unfold Frame.IsWhole
    decide +kernel
  have routed : Proxy.client config {} endpoint = .ok client := rfl
  refine ⟨routed, by decide, by decide, ⟨whole, by decide, by decide⟩, ?_, ?_, ?_⟩
  · decide +kernel
  · decide +kernel
  · decide +kernel

end Proxy

end ModbusTcp
