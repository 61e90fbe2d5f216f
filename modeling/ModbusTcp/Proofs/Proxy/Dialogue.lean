import ModbusTcp.Proofs.Client.Transceive
import ModbusTcp.Proofs.Server.Dialogue
import ModbusTcp.Proxy.Connection

/-!
# The dialogue through a proxy

A proxied connection answers the requests of its peer one by one, whatever the device behind it does.
What a resolver does not know, what cannot be read and what is beyond the limits never reaches the
device.  A device that answers with something else than a response is given another chance; if the link
to it is lost, the connection ends after the reply to the request that it was lost with.

* `Proxy.handleUnder` — what is done with a frame, where something else may happen to every call.
* `Proxy.Handled` — what can come of one request: the reply, the client afterwards, and the ending.
* `Proxy.Proxied` — what can come of one request after the other.
* `Proxy.serve_proxied` — all frames of a stream.
* **`Proxy.converse_proxied`** — a proxied connection answers every request once and in order.
-/

namespace ModbusTcp

variable {σ : Type}

/-! ### Transaction ids -/

/-- A spelled frame begins with its transaction id. -/
theorem Mbap.transactionId_spell {order : ByteOrder} (ids : Mbap) (length : UInt16) (tail : Bytes) :
    (ids.spell order length tail).take 2 = order.word ids.transactionId := by
  rw [spell, encodeIds, List.append_assoc, List.append_assoc]
  exact List.take_left' (order.length_word _)

/-- A frame begins with its transaction id, on which the rest does not depend. -/
theorem Frame.exists_encode_withTransactionId (order : ByteOrder) (frame : Frame) :
    ∃ rest, ∀ transactionId, (frame.withTransactionId transactionId).encode order =
      order.word transactionId ++ rest := by
  obtain ⟨header, payload⟩ := frame
  cases payload with
  | none =>
    by_cases cut : header.isCut
    · refine ⟨order.word header.protocolId ++ order.word header.protocolType ++ order.word 0, fun _ => ?_⟩
      show (if header.isCut then _ else _) = _
      rw [if_pos cut]
      simp [withTransactionId, Mbap.encodeIds]
    · refine ⟨order.word header.protocolId ++ order.word header.protocolType ++
        order.word (UInt16.ofNat 1) ++ [header.unit], fun _ => ?_⟩
      show (if header.isCut then _ else _) = _
      rw [if_neg cut]
      simp [withTransactionId, Mbap.encodeAbove, Mbap.encodeIds]
  | some payload =>
    refine ⟨order.word header.protocolId ++ order.word header.protocolType ++
      order.word (UInt16.ofNat (1 + payload.measure)) ++ header.unit :: payload.encode order,
      fun _ => ?_⟩
    rw [withTransactionId, encode_eq_spell]
    simp [Mbap.spell, Mbap.encodeIds]

/-- Another transaction id changes the first two bytes of a frame and nothing else. -/
theorem Frame.encode_withTransactionId (order : ByteOrder) (frame : Frame) (transactionId : UInt16) :
    (frame.withTransactionId transactionId).encode order =
      order.word transactionId ++ (frame.encode order).drop 2 := by
  obtain ⟨rest, begins⟩ := frame.exists_encode_withTransactionId order
  have same : frame.encode order = order.word frame.header.transactionId ++ rest := begins _
  rw [begins, same, List.drop_left' (order.length_word _)]

/-! ### One request -/

/-- The bytes of a frame are a request for a function, with a payload that can be read. -/
structure Framer.Asks (framer : Framer) (request : Bytes) (function : UInt8) (frame : Frame)
    (pdu : Pdu) : Prop where
  demands : ∃ call, framer.demand request = .call call
  reads : framer.interpret request = .ok (.request frame)
  carries : frame.pdu? = some pdu
  function : pdu.function = function
  known : pdu.payload.isSome = true

namespace Proxy

/-- What is done with a frame, where something else may happen to every call from outside. -/
def handleUnder (device : Peer σ) (circumstances : Client σ → Circumstances) (peer : Endpoint) :
    Handler (Client σ) :=
  fun client inbound => handle device (circumstances client) peer client inbound

/-- What can come of a request for a function: the bytes of the reply, the client afterwards, and how
the connection ends, if it does. -/
inductive Handled (framer : Framer) (device : Peer σ) (circumstances : Circumstances)
    (client : Client σ) (request : Bytes) (function : UInt8) :
    Bytes → Client σ → Option Ending → Prop
  /-- No resolver knows the function, and the client is not used. -/
  | unknown (asks : framer.demand request = .unknown function) :
      Handled framer device circumstances client request function
        (Frame.answer framer.order request (.exception function .illegalFunction)) client none
  /-- The payload cannot be read, and the client is not used. -/
  | malformed (asks : framer.demand request = .malformed function) :
      Handled framer device circumstances client request function
        (Frame.answer framer.order request (.exception function .illegalDataValue)) client none
  /-- The request is beyond the limits, and nothing is written to the device. -/
  | beyond {frame : Frame} {pdu : Pdu} {reason : ProtocolError}
      (asks : framer.Asks request function frame pdu) (limits : pdu.checkLimits = .error reason) :
      Handled framer device circumstances client request function
        (Frame.answer framer.order request (.exception function .gatewayTargetDevice)) client none
  /-- The request is written to the device, whose response is passed on under the id of the request. -/
  | passed {frame : Frame} {pdu : Pdu} {link next : Link σ} {response : Frame}
      (asks : framer.Asks request function frame pdu) (limits : pdu.checkLimits = .ok ())
      (isOpen : client.link = some link)
      (written : next.written = link.written ++ frame.encode client.config.order)
      (obtains : client.transceive device frame circumstances = (.ok response, client.keep next)) :
      Handled framer device circumstances client request function
        (request.take 2 ++ (response.encode framer.order).drop 2) (client.keep next) none
  /-- The request is written to the device, which sends a frame that is no response. -/
  | refused {frame : Frame} {pdu : Pdu} {link next : Link σ} {reason : ProtocolError}
      (asks : framer.Asks request function frame pdu) (limits : pdu.checkLimits = .ok ())
      (isOpen : client.link = some link)
      (written : next.written = link.written ++ frame.encode client.config.order)
      (obtains : client.transceive device frame circumstances =
        (.error (.protocol reason), client.keep next)) :
      Handled framer device circumstances client request function
        (Frame.answer framer.order request (.exception function .gatewayTargetDevice))
        (client.keep next) none
  /-- The link to the device is lost with the request, and the connection ends. -/
  | lost {frame : Frame} {pdu : Pdu} {link next : Link σ} {error : Error} (count : Nat)
      (asks : framer.Asks request function frame pdu) (limits : pdu.checkLimits = .ok ())
      (isOpen : client.link = some link)
      (written : next.written = link.written ++ (frame.encode client.config.order).take count)
      (obtains : client.transceive device frame circumstances = (.error error, client.lose next))
      (transport : error.isTransport = true) :
      Handled framer device circumstances client request function
        (Frame.answer framer.order request (.exception function .gatewayTargetDevice))
        (client.lose next) (some (.error error.toIoError))

section Request

variable {framer : Framer} {device : Peer σ} {circumstances : Circumstances} {client : Client σ}
variable {link : Link σ} {function : UInt8}

/-- A reply carries the transaction id of its request. -/
theorem Handled.take_reply {request reply : Bytes} {next : Client σ} {ending : Option Ending}
    (handled : Handled framer device circumstances client request function reply next ending)
    (names : request[9]? = some function) : reply.take 2 = request.take 2 := by
  have long : 2 ≤ request.length := by
    obtain ⟨inside, -⟩ := List.getElem?_eq_some_iff.mp names
    omega
  have answered (pdu : Pdu) : (Frame.answer framer.order request pdu).take 2 = request.take 2 := by
    rw [Frame.answer, List.take_append_of_le_length (by rw [List.length_take]; omega), List.take_take]
    rfl
  cases handled with
  | passed asks limits isOpen written obtains =>
    exact List.take_left' (by rw [List.length_take]; omega)
  | _ => exact answered _

/-- A transport error is answered, and it ends the connection. -/
theorem turnOf_of_isTransport {error : Error} (transport : error.isTransport = true) (frame : Frame)
    (function : UInt8) (client : Client σ) :
    turnOf frame function client (.error error) =
      { state := client, reply := some (gatewayReply frame function),
        ending := some (.error error.toIoError) } := by
  cases error with
  | connect | transmission | reception => rfl
  | config | protocol | cancelled => exact absurd transport Bool.false_ne_true

/-- A request that is passed on. -/
theorem exists_handled_turnOf {request : Bytes} {frame : Frame} {pdu : Pdu}
    (asks : framer.Asks request function frame pdu) (isOpen : client.link = some link)
    (uncancelled : circumstances.Uncancelled)
    (replies : ∀ pdu, (frame.reply pdu).encode framer.order = Frame.answer framer.order request pdu)
    (identifies : framer.order.word frame.header.transactionId = request.take 2) :
    let obtained := client.transceive device frame circumstances
    let turn := turnOf frame function obtained.2 obtained.1
    ∃ reply, turn.reply = some reply ∧ (turn.ending = none → turn.state.link.isSome = true) ∧
      Handled framer device circumstances client request function (reply.encode framer.order) turn.state
        turn.ending := by
  have isFree : client.link.isSome = true := by
    rw [isOpen]
    rfl
  have exchanged := client.exchanged_transceive isOpen device frame circumstances
  cases obtains : client.transceive device frame circumstances with
  | mk result next =>
    rw [obtains] at exchanged
    cases exchanged with
    | beyond carries limits =>
      obtain rfl : _ = pdu := Option.some.inj (carries.symm.trans asks.carries)
      refine ⟨gatewayReply frame function, rfl, fun _ => isFree, ?_⟩
      rw [gatewayReply, replies]
      exact .beyond asks limits
    | withdrawn limits cancelled => exact nomatch uncancelled.start.symm.trans cancelled
    | answered limits written response =>
      refine ⟨response.withTransactionId frame.header.transactionId, rfl, fun _ => rfl, ?_⟩
      rw [Frame.encode_withTransactionId, identifies]
      exact .passed asks (limits _ asks.carries) isOpen written obtains
    | refused limits written reason =>
      refine ⟨gatewayReply frame function, rfl, fun _ => rfl, ?_⟩
      rw [gatewayReply, replies]
      exact .refused asks (limits _ asks.carries) isOpen written obtains
    | lost limits count written breaks =>
      have transport := uncancelled.isTransport breaks
      simp only [turnOf_of_isTransport transport]
      refine ⟨gatewayReply frame function, rfl, nofun, ?_⟩
      rw [gatewayReply, replies]
      exact .lost count asks (limits _ asks.carries) isOpen written obtains transport

/-- A whole frame with a PDU gets one reply. -/
theorem exists_handled (device : Peer σ)
    (named : ∀ header, framer.resolver (.mbap header) .command = some (.empty .pdu))
    {circumstances : Client σ → Circumstances} (uncancelled : (circumstances client).Uncancelled)
    (isOpen : client.link = some link) {request : Bytes} (whole : Frame.IsWhole framer.order request)
    (holds : Frame.hasPdu request) (endpoint : Endpoint) :
    ∃ inbound function reply, framer.interpret request = .ok inbound ∧ request[9]? = some function ∧
      let turn := handleUnder device circumstances endpoint client inbound
      turn.reply = some reply ∧ (turn.ending = none → turn.state.link.isSome = true) ∧
        Handled framer device (circumstances client) client request function
          (reply.encode framer.order) turn.state turn.ending := by
  have isFree : client.link.isSome = true := by
    rw [isOpen]
    rfl
  rcases whole.cases with ⟨ids, rfl⟩ | ⟨ids, unit, rfl⟩ | ⟨ids, unit, function, body, length, room, _, rfl⟩
  · simp [Frame.hasPdu] at holds
  · simp [Frame.hasPdu] at holds
  · have names : (ids.spell framer.order length (unit :: function :: body))[9]? = some function :=
      Mbap.getElem?_spell _ _ _ 1
    have replies (payload : Option Packet) (pdu : Pdu) :
        ((Frame.mk (Frame.headerOf ids unit length) payload).reply pdu).encode framer.order = _ :=
      Frame.encode_reply framer.order ids unit function length body payload pdu
    have demanded : framer.demand (ids.spell framer.order length (unit :: function :: body)) = _ :=
      Framer.demand_spell
    have interpreted : framer.interpret
        (ids.spell framer.order length (unit :: function :: body)) = _ :=
      Framer.interpret_spell named room
    cases resolved : framer.resolver (.pdu function) .command with
    | none =>
      rw [resolved] at demanded interpreted
      refine ⟨_, function, _, interpreted, names, rfl, fun _ => isFree, ?_⟩
      rw [replies]
      exact .unknown demanded
    | some target =>
      rw [resolved] at demanded interpreted
      cases decoded : Packet.decodeInto framer.resolver .command framer.order target body with
      | error reason =>
        simp only [decoded] at demanded interpreted
        refine ⟨_, function, _, interpreted, names, rfl, fun _ => isFree, ?_⟩
        exact (replies _ _).symm ▸ .malformed demanded
      | ok result =>
        simp only [decoded] at demanded interpreted
        have asks : framer.Asks _ function _ ⟨function, some result.1⟩ :=
          ⟨⟨_, demanded⟩, interpreted, rfl, rfl, rfl⟩
        have identifies : framer.order.word ids.transactionId =
            (ids.spell framer.order length (unit :: function :: body)).take 2 :=
          (Mbap.transactionId_spell ids length _).symm
        obtain ⟨reply, given, goesOn, handled⟩ :=
          exists_handled_turnOf asks isOpen uncancelled (replies _) identifies
        exact ⟨_, function, reply, interpreted, names, given, goesOn, handled⟩

end Request

/-! ### One request after the other -/

/-- What can come of requests: the bytes of the replies, the client afterwards, and how the connection
ends, unless it goes on.  Once it has ended, no request is answered or passed on any more. -/
inductive Proxied (framer : Framer) (device : Peer σ) (circumstances : Client σ → Circumstances)
    (endpoint : Endpoint) : Client σ → List Bytes → List Bytes → Client σ → Option Ending → Prop
  /-- There is no request left. -/
  | done {client : Client σ} : Proxied framer device circumstances endpoint client [] [] client none
  /-- A frame without a PDU is not answered, and it ends the connection. -/
  | noPdu {client : Client σ} {request : Bytes} {later : List Bytes}
      (empty : Frame.hasPdu request = false) :
      Proxied framer device circumstances endpoint client (request :: later) [] client
        (some (.error (Slave.noPdu endpoint)))
  /-- A request is answered, and the connection goes on. -/
  | goesOn {client next last : Client σ} {request reply : Bytes} {later replies : List Bytes}
      {function : UInt8} {ending : Option Ending} (names : request[9]? = some function)
      (handled : Handled framer device (circumstances client) client request function reply next none)
      (others : Proxied framer device circumstances endpoint next later replies last ending) :
      Proxied framer device circumstances endpoint client (request :: later) (reply :: replies) last
        ending
  /-- A request is answered, and the connection ends. -/
  | ends {client last : Client σ} {request reply : Bytes} {later : List Bytes} {function : UInt8}
      {ending : Ending} (names : request[9]? = some function)
      (handled :
        Handled framer device (circumstances client) client request function reply last (some ending)) :
      Proxied framer device circumstances endpoint client (request :: later) [reply] last (some ending)

section Requests

variable {framer : Framer} {device : Peer σ} {circumstances : Client σ → Circumstances}
variable {endpoint : Endpoint} {client last : Client σ} {requests replies : List Bytes}
variable {ending : Option Ending}

/-- Replies carry the transaction ids of their requests, in order. -/
theorem Proxied.take_replies
    (proxied : Proxied framer device circumstances endpoint client requests replies last ending)
    {index : Nat} {reply : Bytes} (replied : replies[index]? = some reply) :
    ∃ request, requests[index]? = some request ∧ reply.take 2 = request.take 2 := by
  induction proxied generalizing index with
  | done => exact absurd replied nofun
  | noPdu empty => exact absurd replied nofun
  | goesOn names handled others ih =>
    cases index with
    | zero =>
      obtain rfl := Option.some.inj replied
      exact ⟨_, rfl, handled.take_reply names⟩
    | succ index => exact ih replied
  | ends names handled =>
    cases index with
    | zero =>
      obtain rfl := Option.some.inj replied
      exact ⟨_, rfl, handled.take_reply names⟩
    | succ index => exact absurd replied nofun

/-- While the connection goes on, every request is answered. -/
theorem Proxied.length_replies
    (proxied : Proxied framer device circumstances endpoint client requests replies last ending)
    (goesOn : ending = none) : replies.length = requests.length := by
  induction proxied with
  | done => rfl
  | noPdu empty => exact absurd goesOn nofun
  | goesOn names handled others ih => rw [List.length_cons, List.length_cons, ih goesOn]
  | ends names handled => exact absurd goesOn nofun

/-- A proxied connection handles the requests of a stream one by one. -/
theorem serve_proxied (enough : 8 ≤ framer.maxFrame)
    (named : ∀ header, framer.resolver (.mbap header) .command = some (.empty .pdu))
    (uncancelled : ∀ client, (circumstances client).Uncancelled) (device : Peer σ)
    (endpoint : Endpoint) (client : Client σ) (isOpen : client.link.isSome = true)
    (whole : ∀ request ∈ requests,
      Frame.IsWhole framer.order request ∧ request.length ≤ framer.maxFrame) :
    let served := framer.serve (handleUnder device circumstances endpoint) client requests.flatten
    ∃ replies, Connection.encodeReplies framer served.replies = replies.flatten ∧
      Proxied framer device circumstances endpoint client requests replies served.state served.ending ∧
      (served.ending = none → served.buffer = []) := by
  induction requests generalizing client with
  | nil =>
    rw [List.flatten_nil, Framer.serve_of_incomplete enough (pull_nil enough)]
    exact ⟨[], rfl, .done, fun _ => rfl⟩
  | cons request later ih =>
    rw [List.forall_mem_cons] at whole
    obtain ⟨⟨isWhole, fits⟩, others⟩ := whole
    have pulled := pull_append isWhole fits later.flatten
    rw [List.flatten_cons]
    rcases Bool.eq_false_or_eq_true (Frame.hasPdu request) with holds | empty
    · obtain ⟨link, opened⟩ := Option.isSome_iff_exists.mp isOpen
      obtain ⟨inbound, function, reply, interpreted, names, given, stays, handled⟩ :=
        exists_handled device named (uncancelled client) opened isWhole holds endpoint
      rw [Framer.serve_of_frame enough pulled interpreted]
      cases ended : (handleUnder device circumstances endpoint client inbound).ending with
      | some ending =>
        rw [ended] at handled
        rw [given]
        exact ⟨[reply.encode framer.order], rfl, .ends names handled, nofun⟩
      | none =>
        rw [ended] at handled
        obtain ⟨replies, encoded, proxied, buffer⟩ := ih _ (stays ended) others
        refine ⟨reply.encode framer.order :: replies, ?_, .goesOn names handled proxied, buffer⟩
        rw [given, List.flatten_cons, ← encoded]
        rfl
    · obtain ⟨header, interpreted⟩ := Framer.exists_interpret_of_not_hasPdu isWhole empty
      rw [Framer.serve_of_frame enough pulled interpreted]
      exact ⟨[], rfl, .noPdu empty, nofun⟩

end Requests

/-! ### The whole dialogue -/

section Whole

variable (config : ProxyConfig) (factory : FrameFactory) (endpoint : Endpoint) {client : Client σ}

/-- The client of a new connection is a new client for the target of its peer. -/
theorem exists_route_of_client (made : Proxy.client config factory endpoint = .ok client) :
    ∃ target, config.route endpoint.address = some target ∧
      client = { config := target.client, factory := factoryFor target factory } := by
  rw [Proxy.client] at made
  cases routed : config.route endpoint.address with
  | none => simp [routed] at made
  | some target =>
    rw [routed] at made
    dsimp only at made
    cases fresh : Client.ofFactory target.client (factoryFor target factory) with
    | error reason =>
      rw [fresh] at made
      exact nomatch made
    | ok new =>
      rw [fresh] at made
      obtain rfl := Except.ok.inj made
      exact ⟨target, rfl, Client.eq_of_ofFactory fresh⟩

/-- A new connection that has reached its device has an open link to it. -/
theorem connection_established (made : Proxy.client config factory endpoint = .ok client)
    (link : Link σ) :
    connection config factory client false (.established link) =
      { framer := Slave.framer config.server factory
        state := { client with link := some link, isConnected := true } } := by
  have unused : client.isRetired = false ∧ client.link = none := by
    obtain ⟨target, -, rfl⟩ := exists_route_of_client config factory endpoint made
    exact ⟨rfl, rfl⟩
  have connected : client.connect false (.established link) =
      (.ok (), { client with link := some link, isConnected := true }) := by
    rw [Client.connect, if_neg Bool.false_ne_true, if_neg (by simp [unused.1]),
      if_neg (by simp [unused.2])]
    rfl
  rw [connection, connected]
  rfl

/-- **A proxied connection answers every request once and in order**, whatever the device behind it does
and however the stream of requests is cut into chunks.  Each reply carries the transaction id of its
request.  What is not passed on is answered without the device; when the link to the device is lost, one
more reply is the last. -/
theorem converse_proxied {others : List Resolver}
    (basic : factory.resolvers = Resolver.basic :: others)
    (made : Proxy.client config factory endpoint = .ok client) (link : Link σ) (device : Peer σ)
    {circumstances : Client σ → Circumstances}
    (uncancelled : ∀ client, (circumstances client).Uncancelled) {requests chunks : List Bytes}
    (whole : ∀ request ∈ requests,
      Frame.IsWhole config.server.order request ∧ request.length ≤ config.server.maxFrame)
    (sent : chunks.flatten = requests.flatten) :
    let opened := connection config factory client false (.established link)
    let (last, written) := opened.converse (handleUnder device circumstances endpoint) chunks
    opened.state.link = some link ∧ ∃ (replies : List Bytes) (ending : Option Ending),
      written = replies.flatten ∧
      Proxied (Slave.framer config.server factory) device circumstances endpoint opened.state requests
        replies last.state ending ∧
      (∀ (index : Nat) (reply : Bytes), replies[index]? = some reply →
        ∃ request : Bytes, requests[index]? = some request ∧ reply.take 2 = request.take 2) ∧
      (ending = none → replies.length = requests.length) ∧
      (requests ≠ [] → last.ending = some (ending.getD (.ok ()))) := by
  intro opened
  have established : opened = { framer := Slave.framer config.server factory
                                state := { client with link := some link, isConnected := true } } :=
    connection_established config factory endpoint made link
  have named (header : Mbap) :
      (Slave.framer config.server factory).resolver (.mbap header) .command = some (.empty .pdu) := by
    show Resolver.firstOf factory.resolvers _ _ = _
    rw [basic]
    rfl
  rw [established]
  by_cases enough : 8 ≤ config.server.maxFrame
  · obtain ⟨written, same, ended⟩ := Connection.converse_eq_serve
      (handleUnder device circumstances endpoint) (Slave.framer config.server factory) enough
      { client with link := some link, isConnected := true } chunks
    rw [sent] at written same ended
    obtain ⟨replies, encoded, proxied, buffer⟩ := serve_proxied enough named uncancelled device endpoint
      { client with link := some link, isConnected := true } rfl whole
    rw [← same] at proxied
    refine ⟨rfl, replies, _, written.trans encoded, proxied, fun _ _ => proxied.take_replies,
      proxied.length_replies, fun _ => ended.trans (congrArg some ?_)⟩
    -- A stream of whole frames that has not ended the connection leaves nothing behind.
    generalize Framer.serve _ _ _ _ = served at buffer
    cases ending : served.ending with
    | none => rw [Option.getD_none, if_pos (buffer ending), Option.getD_none]
    | some ending => rfl
  · have empty : requests = [] := by
      cases requests with
      | nil => rfl
      | cons request later =>
        obtain ⟨isWhole, fits⟩ := whole request (List.mem_cons_self ..)
        have := isWhole.eight_le
        omega
    obtain ⟨written, same⟩ := Connection.converse_of_lt (handleUnder device circumstances endpoint)
      (Slave.framer config.server factory) (Nat.lt_of_not_le enough)
      { client with link := some link, isConnected := true } chunks
    rw [empty]
    refine ⟨rfl, [], none, written, ?_, nofun, fun _ => rfl, fun some => absurd rfl some⟩
    rw [same]
    exact .done

end Whole

/-- A device that answers twice, the second time for a function that is not known, and is silent from then
on.  Of seven requests the first three do not reach it, the next two it answers, with the sixth the link
is lost, and the last is not even answered. -/
theorem converse_until_lost :
    let config : ProxyConfig := { targets := [{ client := { host := "device" } }] }
    let client : Client (List Bytes) := { config := { host := "device" }, factory := {} }
    let device : Peer (List Bytes) :=
      ⟨fun answers _ => { state := answers.tail, answer := answers.headD [] }⟩
    let answers : List Bytes := [[0, 9, 0, 0, 0, 0, 0, 5, 17, 3, 2, 1, 44], [0, 9, 0, 0, 0, 0, 0, 2, 17, 65]]
    let endpoint : Endpoint := ⟨.v4 0, 502⟩
    let read (id : UInt8) : Bytes := [0, id, 0, 0, 0, 0, 0, 6, 17, 3, 0, 0, 0, 1]
    let unknown : Bytes := [0, 1, 0, 0, 0, 0, 0, 2, 17, 65]
    let malformed : Bytes := [0, 2, 0, 0, 0, 0, 0, 3, 17, 3, 0]
    let beyond : Bytes := [0, 3, 0, 0, 0, 0, 0, 6, 17, 3, 0, 0, 0, 126]
    let requests := [unknown, malformed, beyond, read 4, read 5, read 6, read 7]
    let opened := connection config {} client false (.established { peer := answers })
    let (last, written) := opened.converse (handleUnder device (fun _ => {}) endpoint) [requests.flatten]
    (∃ replies ending, written = replies.flatten ∧
      Proxied (Slave.framer config.server {}) device (fun _ => {}) endpoint opened.state requests replies
        last.state ending) ∧
      written = [0, 1, 0, 0, 0, 0, 0, 3, 17, 193, 1] ++ [0, 2, 0, 0, 0, 0, 0, 3, 17, 131, 3] ++
        [0, 3, 0, 0, 0, 0, 0, 3, 17, 131, 11] ++ [0, 4, 0, 0, 0, 0, 0, 5, 17, 3, 2, 1, 44] ++
        [0, 5, 0, 0, 0, 0, 0, 3, 17, 131, 11] ++ [0, 6, 0, 0, 0, 0, 0, 3, 17, 131, 11] ∧
      last.state.links.map (·.written) = [read 4 ++ read 5 ++ read 6] := by
  intro config client device answers endpoint read unknown malformed beyond requests opened
  have whole : ∀ request ∈ requests, Frame.IsWhole config.server.order request ∧
      request.length ≤ config.server.maxFrame := by
    unfold Frame.IsWhole
    decide +kernel
  have sent : [requests.flatten].flatten = requests.flatten := List.flatten_singleton
  have made : Proxy.client config {} endpoint = .ok client := rfl
  obtain ⟨-, replies, ending, written, proxied, -⟩ :=
    converse_proxied config {} endpoint rfl made { peer := answers } device
      (fun _ => Circumstances.uncancelled_default) whole sent
  refine ⟨⟨replies, ending, written, proxied⟩, ?_, ?_⟩
  · decide +kernel
  · decide +kernel

end Proxy

end ModbusTcp
