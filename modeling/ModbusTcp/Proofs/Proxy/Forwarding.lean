import ModbusTcp.Proofs.Packet.Format
import ModbusTcp.Proofs.Proxy.Dialogue

/-!
# What a proxy passes on

A proxy reads a request and writes it again, and does the same with the response.  Nothing of what they
say is changed by that, whatever functions the factory knows and whatever device answers: padding behind
the content is left out, and the response gets the transaction id of the request.

* `Frame.measured` — bytes under a length field that counts what follows it.
* `Frame.Reads` — bytes are a whole frame with a payload that is known, and perhaps padding.
* `Frame.Reads.encode_eq`, `Frame.Reads.exists_decode_measured` — what has been read is written without
  its padding, and read as the same frame.
* `Client.transceive_of_answer` — a request that a device answers with such a frame.
* `Proxy.exists_keep_of_handleUnder` — a proxied connection that goes on has its client as before.
* **`Proxy.forwards_as_read`** — the bytes that reach the device and the peer.
-/

namespace ModbusTcp

/-! ### Bytes of frames that have been read -/

namespace Frame

variable {resolver : Resolver} {direction : Direction} {order : ByteOrder}

/-- The bytes of a frame under a length field that counts what follows it. -/
def measured (order : ByteOrder) (bytes : Bytes) : Bytes :=
  bytes.take 6 ++ (order.word (UInt16.ofNat (bytes.length - 8)) ++ bytes.drop 8)

theorem measured_spell (ids : Mbap) (length : UInt16) (tail : Bytes) :
    measured order (ids.spell order length tail) = ids.spell order (UInt16.ofNat tail.length) tail := by
  rw [measured, Mbap.take_spell, Mbap.drop_spell, Mbap.length_spell, Nat.add_sub_cancel_left]
  rfl

/-- The length field of a whole frame does that already. -/
theorem measured_of_isWhole {bytes : Bytes} (whole : IsWhole order bytes) : measured order bytes = bytes := by
  obtain ⟨ids, length, tail, rfl, exact⟩ := whole.exists_spell
  rw [measured_spell, exact, UInt16.ofNat_toNat]

/-- Some bytes are a whole frame: its content, which is read, and padding behind it.  It carries a PDU
with a payload. -/
structure Reads (resolver : Resolver) (direction : Direction) (order : ByteOrder) (bytes content : Bytes)
    (frame : Frame) (pdu : Pdu) : Prop where
  whole : IsWhole order bytes
  decodes : ∃ padding, bytes = content ++ padding ∧
    decode resolver direction order bytes = .ok (frame, padding)
  carries : frame.pdu? = some pdu
  known : pdu.payload.isSome = true

section Reads

variable {bytes content : Bytes} {frame : Frame} {pdu : Pdu}

/-- **What has been read is written without its padding.** -/
theorem Reads.encode_eq (bodies : resolver.NamesBodies)
    (reads : Reads resolver direction order bytes content frame pdu) :
    frame.encode order = measured order content := by
  obtain ⟨padding, split, decoded⟩ := reads.decodes
  obtain ⟨ids, length, front, spelled, written, -⟩ := exists_spell_of_decode bodies decoded
  have same : content ++ padding = ids.spell order length front ++ padding := by
    rw [← split, spelled, Mbap.spell_append]
  rw [written, List.append_cancel_right same, measured_spell]

/-- A frame that has been read begins with its transaction id. -/
theorem Reads.take_two (bodies : resolver.NamesBodies)
    (reads : Reads resolver direction order bytes content frame pdu) :
    bytes.take 2 = order.word frame.header.transactionId := by
  obtain ⟨padding, split, decoded⟩ := reads.decodes
  obtain ⟨ids, length, front, rfl, written, -⟩ := exists_spell_of_decode bodies decoded
  obtain ⟨rest, begins⟩ := frame.exists_encode_withTransactionId order
  have identified : frame.encode order = order.word frame.header.transactionId ++ rest := begins _
  rw [Mbap.transactionId_spell, ← Mbap.transactionId_spell ids _ front, ← written, identified]
  exact List.take_left' (order.length_word _)

/-- The payload of a frame that has been read is what the resolver names for it. -/
theorem Reads.eq_and_resolved (bodies : resolver.NamesBodies)
    (reads : Reads resolver direction order bytes content frame pdu) :
    frame = ⟨frame.header, some pdu.toPacket⟩ ∧ pdu.Resolved resolver direction := by
  obtain ⟨-, ⟨padding, -, decoded⟩, carries, -⟩ := reads
  cases reading_of_decode bodies decoded with
  | cut ids => exact nomatch carries
  | bare ids unit => exact nomatch carries
  | @carries ids unit length other resolved =>
    obtain rfl : other = pdu := Option.some.inj ((Pdu.ofPacket?_toPacket other).symm.trans carries)
    exact ⟨rfl, resolved⟩

/-- Under any transaction id, what is written is read to its end as the same frame. -/
theorem Reads.exists_decode_withTransactionId (bodies : resolver.NamesBodies)
    (reads : Reads resolver direction order bytes content frame pdu) (transactionId : UInt16) :
    ∃ read, decode resolver direction order ((frame.withTransactionId transactionId).encode order) =
        .ok (read, []) ∧ read.toPacket.same (frame.withTransactionId transactionId).toPacket := by
  obtain ⟨spelled, resolved⟩ := reads.eq_and_resolved bodies
  rw [spelled]
  exact ⟨_, decode_encode_alone (fun header => bodies.frame header direction) resolved,
    same_readBack _ pdu⟩

/-- Without its padding a frame is read to its end as the same frame. -/
theorem Reads.exists_decode_measured (bodies : resolver.NamesBodies)
    (reads : Reads resolver direction order bytes content frame pdu) :
    ∃ read, decode resolver direction order (measured order content) = .ok (read, []) ∧
      read.toPacket.same frame.toPacket := by
  rw [← reads.encode_eq bodies]
  exact reads.exists_decode_withTransactionId bodies frame.header.transactionId

end Reads

end Frame

/-! ### One request -/

section Request

variable {σ : Type} {client : Client σ} {free : Link σ} {request response : Frame} {asked answered : Pdu}
variable {bytes content later : Bytes}

/-- A client obtains the frame that a device answers its request with, and leaves what follows it. -/
theorem Client.transceive_of_answer (owns : client.link = some free) (device : Peer σ)
    (carries : request.pdu? = some asked) (limited : asked.checkLimits = .ok ())
    {circumstances : Circumstances} (uncancelled : circumstances.Uncancelled)
    (undisturbed : circumstances.sending = none)
    (answers : (free.write device (request.encode client.config.order)).unread = bytes ++ later)
    (reads : Frame.Reads client.factory.resolver .response client.config.order bytes content response
      answered)
    (room : bytes.length ≤ client.config.maxFrame) :
    client.transceive device request circumstances =
      (.ok response, client.keep
        { free.write device (request.encode client.config.order) with unread := later }) := by
  obtain ⟨whole, ⟨padding, -, decoded⟩, given, known⟩ := reads
  have classified : classify response = .ok response := by
    obtain ⟨function, payload⟩ := answered
    obtain ⟨packet, rfl⟩ := Option.isSome_iff_exists.mp known
    rw [classify, given]
  rw [transceive, admitted_eq_ok owns (Frame.checkLimits_eq_ok carries limited) uncancelled.start, undisturbed]
  dsimp only
  rw [receive, answers, pull_append whole room later]
  dsimp only
  rw [conclude, decoded]
  dsimp only
  rw [classified]
  rfl

namespace Proxy

/-- A request that the device answers is answered with that, under its own transaction id. -/
theorem handleUnder_of_answer (owns : client.link = some free) (device : Peer σ)
    (carries : request.pdu? = some asked) (known : asked.payload.isSome = true)
    (limited : asked.checkLimits = .ok ()) {circumstances : Client σ → Circumstances}
    (uncancelled : (circumstances client).Uncancelled)
    (undisturbed : (circumstances client).sending = none)
    (answers : (free.write device (request.encode client.config.order)).unread = bytes ++ later)
    (reads : Frame.Reads client.factory.resolver .response client.config.order bytes content response
      answered)
    (room : bytes.length ≤ client.config.maxFrame) (endpoint : Endpoint) :
    handleUnder device circumstances endpoint client (.request request) =
      { state := client.keep
          { free.write device (request.encode client.config.order) with unread := later }
        reply := some (response.withTransactionId request.header.transactionId) } := by
  obtain ⟨function, payload⟩ := asked
  obtain ⟨packet, rfl⟩ := Option.isSome_iff_exists.mp known
  have obtained := Client.transceive_of_answer owns device carries limited uncancelled undisturbed answers
    reads room
  rw [handleUnder, handle, carries]
  dsimp only
  rw [obtained]
  rfl

/-- A proxied connection that goes on after a frame has its client as before, but for what has become of
the link. -/
theorem exists_keep_of_handleUnder (owns : client.link = some free) (device : Peer σ)
    {circumstances : Client σ → Circumstances} (uncancelled : (circumstances client).Uncancelled)
    (endpoint : Endpoint) (inbound : Inbound)
    (goesOn : (handleUnder device circumstances endpoint client inbound).ending = none) :
    ∃ next, (handleUnder device circumstances endpoint client inbound).state = client.keep next := by
  have unused : client = client.keep free := by
    rw [Client.keep, ← owns]
  cases inbound with
  | malformed request => exact ⟨free, unused⟩
  | request request =>
    rw [handleUnder, handle] at goesOn ⊢
    split at goesOn
    · exact nomatch goesOn
    · exact ⟨free, unused⟩
    · have exchanged := client.exchanged_transceive owns device request (circumstances client)
      cases obtained : client.transceive device request (circumstances client) with
      | mk result next =>
        rw [obtained] at exchanged goesOn
        cases exchanged with
        | beyond carries limits => exact ⟨free, unused⟩
        | withdrawn limits cancelled => exact nomatch uncancelled.start.symm.trans cancelled
        | answered limits written response => exact ⟨_, rfl⟩
        | refused limits written reason => exact ⟨_, rfl⟩
        | lost limits count written breaks =>
          dsimp only at goesOn
          rw [turnOf_of_isTransport (uncancelled.isTransport breaks)] at goesOn
          exact nomatch goesOn

/-- The client of a proxied connection stays as it was opened, but for what has become of the link. -/
theorem exists_keep_of_receiveAll {connection : Connection (Client σ)}
    (owns : connection.state.link = some free) (device : Peer σ)
    {circumstances : Client σ → Circumstances} (uncancelled : ∀ client, (circumstances client).Uncancelled)
    (endpoint : Endpoint) (history : List Bytes)
    (goesOn : (connection.receiveAll (handleUnder device circumstances endpoint) history).1.ending = none) :
    let now := (connection.receiveAll (handleUnder device circumstances endpoint) history).1
    now.framer = connection.framer ∧ ∃ next, now.state = connection.state.keep next := by
  refine Connection.receiveAll_keeps (fun client => ∃ next, client = connection.state.keep next) ?_
    ⟨free, ?_⟩ history goesOn
  · rintro _ inbound ⟨next, rfl⟩ ended
    obtain ⟨last, used⟩ := exists_keep_of_handleUnder rfl device (uncancelled _) endpoint inbound ended
    exact ⟨last, used⟩
  · rw [Client.keep, ← owns]

/-- A chunk that completes a request which the device answers. -/
theorem receive_of_answer {now : Connection (Client σ)} (goesOn : now.ending = none)
    (owns : now.state.link = some free) (speaks : now.state.config.order = now.framer.order)
    (shares : now.state.factory.resolver = now.framer.resolver) (bodies : now.framer.resolver.NamesBodies)
    (device : Peer σ) {circumstances : Client σ → Circumstances}
    (uncancelled : (circumstances now.state).Uncancelled)
    (undisturbed : (circumstances now.state).sending = none) {chunk asking carried : Bytes}
    (completes : now.buffer ++ chunk = asking)
    (asks : Frame.Reads now.framer.resolver .command now.framer.order asking carried request asked)
    (fits : asking.length ≤ now.framer.maxFrame) (limited : asked.checkLimits = .ok ())
    (answers : (free.write device (Frame.measured now.framer.order carried)).unread = bytes ++ later)
    (reads : Frame.Reads now.framer.resolver .response now.framer.order bytes content response answered)
    (room : bytes.length ≤ now.state.config.maxFrame) (endpoint : Endpoint) :
    let used := { free.write device (Frame.measured now.framer.order carried) with unread := later }
    now.receive (handleUnder device circumstances endpoint) chunk =
      ({ now with state := now.state.keep used, buffer := [] },
        [response.withTransactionId request.header.transactionId]) := by
  have encoded : request.encode now.state.config.order = Frame.measured now.framer.order carried := by
    rw [speaks]
    exact asks.encode_eq bodies
  have interpreted : now.framer.interpret asking = .ok (.request request) := by
    obtain ⟨padding, -, decoded⟩ := asks.decodes
    rw [Framer.interpret, decoded]
  have turn := handleUnder_of_answer owns device asks.carries asks.known limited uncancelled undisturbed
    (by rw [encoded]; exact answers) (by rw [shares, speaks]; exact reads) room endpoint
  rw [encoded] at turn
  exact Connection.receive_of_isWhole now goesOn completes asks.whole fits interpreted turn

end Proxy

end Request

/-! ### Any history -/

/-- **What is passed on says what has been read.**  Take a proxied connection with any factory of the
register model and tables of further functions, whose device speaks the byte order of its peer, after any
history that it goes on after.  A request that is complete, known and within the limits is written to the
device as it was read: without its padding, and byte for byte if it has none.  When what has arrived from
the device by then begins with a whole frame with a known payload, that is written to the peer in the same
way, with the first two bytes of the request in place of its own.  Both are read as what they were. -/
theorem Proxy.forwards_as_read {σ : Type} (config : ProxyConfig) {factory : FrameFactory}
    {tables : List (List Resolver.Entry)}
    (made : factory.resolvers = Resolver.basic :: tables.map Resolver.ofTable)
    (bodies : ∀ table ∈ tables, ∀ entry ∈ table, ∃ content, entry.payload = .body content)
    (endpoint : Endpoint) {client : Client σ} (routed : Proxy.client config factory endpoint = .ok client)
    {order : ByteOrder} (speaks : config.server.order = order) (understands : client.config.order = order)
    (link : Link σ) (device : Peer σ) {circumstances : Client σ → Circumstances}
    (uncancelled : ∀ client, (circumstances client).Uncancelled) (history : List Bytes) :
    let handle := handleUnder device circumstances endpoint
    let now := ((connection config factory client false (.established link)).receiveAll handle history).1
    now.ending = none → ∃ free, now.state.link = some free ∧
      ∀ {chunk request content : Bytes} {frame : Frame} {asked : Pdu} {answer shown later : Bytes}
        {response : Frame} {answered : Pdu}, now.buffer ++ chunk = request →
        Frame.Reads factory.resolver .command order request content frame asked →
        request.length ≤ config.server.maxFrame → asked.checkLimits = .ok () →
        (circumstances now.state).sending = none →
        let sent := Frame.measured order content
        (free.write device sent).unread = answer ++ later →
        Frame.Reads factory.resolver .response order answer shown response answered →
        answer.length ≤ client.config.maxFrame →
        let (next, replies) := now.receive handle chunk
        let written := Connection.encodeReplies next.framer replies
        next.ending = none ∧ next.buffer = [] ∧
          next.state.link = some { free.write device sent with unread := later } ∧
          written = request.take 2 ++ (Frame.measured order shown).drop 2 ∧
          (content = request → sent = request) ∧
          (shown = answer → written = request.take 2 ++ answer.drop 2) ∧
          (∃ read, Frame.decode factory.resolver .command order sent = .ok (read, []) ∧
            read.toPacket.same frame.toPacket) ∧
          ∃ read, Frame.decode factory.resolver .response order written = .ok (read, []) ∧
            read.toPacket.same (response.withTransactionId frame.header.transactionId).toPacket := by
  intro handle now goesOn
  have named : factory.resolver.NamesBodies := by
    rw [FrameFactory.resolver, made]
    exact Resolver.namesBodies_tables bodies
  have established := connection_established config factory endpoint routed link
  obtain ⟨cut, free, kept⟩ := exists_keep_of_receiveAll (by rw [established]) device uncancelled endpoint
    history goesOn
  have cuts : now.framer = Slave.framer config.server factory :=
    cut.trans (congrArg Connection.framer established)
  have used : now.state = Client.keep { client with link := some link, isConnected := true } free :=
    kept.trans (congrArg (·.state.keep free) established)
  -- The client reads with the resolvers of the factory, whatever its protocol id is.
  have shares : client.factory.resolver = factory.resolver := by
    obtain ⟨target, -, rfl⟩ := exists_route_of_client config factory endpoint routed
    rfl
  clear_value now
  obtain ⟨framer, state, buffer, ending⟩ := now
  obtain rfl : framer = _ := cuts
  obtain rfl : state = _ := used
  obtain rfl := speaks
  refine ⟨free, rfl, ?_⟩
  intro chunk request content frame asked answer shown later response answered completes asks fits limited
    undisturbed sent answers reads room
  have received := receive_of_answer goesOn rfl understands shares named device (uncancelled _) undisturbed
    completes asks fits limited answers reads room endpoint
  have returned : (response.withTransactionId frame.header.transactionId).encode config.server.order =
      request.take 2 ++ (Frame.measured config.server.order shown).drop 2 := by
    rw [Frame.encode_withTransactionId, ← asks.take_two named, reads.encode_eq named]
  rw [received]
  dsimp only
  rw [Connection.encodeReplies, List.flatMap_singleton]
  refine ⟨goesOn, rfl, rfl, returned, ?_, ?_, asks.exists_decode_measured named,
    reads.exists_decode_withTransactionId named _⟩
  · rintro rfl
    exact Frame.measured_of_isWhole asks.whole
  · rintro rfl
    exact returned.trans (by rw [Frame.measured_of_isWhole reads.whole])

/-- A request and an answer for a function from a table, both with padding, of which neither passes it on.
The beginning of the request has arrived with another request that has not reached the device. -/
theorem Proxy.forwards_without_padding :
    let config : ProxyConfig := { targets := [{ client := { host := "device" } }] }
    let table : List Resolver.Entry :=
      [⟨0x41, .command, .empty .readRegisters⟩, ⟨0x41, .response, .empty .registerValues⟩]
    let factory : FrameFactory := { resolvers := Resolver.basic :: [table].map Resolver.ofTable }
    let client : Client (List Bytes) := { config := { host := "device" }, factory }
    let device : Peer (List Bytes) :=
      ⟨fun answers _ => { state := answers.tail, answer := answers.headD [] }⟩
    let endpoint : Endpoint := ⟨.v4 0, 502⟩
    let unknown : Bytes := [0, 1, 0, 0, 0, 0, 0, 2, 17, 66]
    let request : Bytes := [0, 7, 0, 0, 0, 0, 0, 8, 17, 0x41, 0, 5, 0, 2, 255, 255]
    let answer : Bytes := [0, 9, 0, 0, 0, 0, 0, 6, 18, 0x41, 2, 1, 44, 255]
    let handle := handleUnder device (fun _ => {}) endpoint
    let opened := connection config factory client false (.established { peer := [answer] })
    let now := (opened.receiveAll handle [unknown ++ request.take 3]).1
    let (next, replies) := now.receive handle (request.drop 3)
    next.ending = none ∧
      next.state.link.map (·.written) = some [0, 7, 0, 0, 0, 0, 0, 6, 17, 0x41, 0, 5, 0, 2] ∧
      Connection.encodeReplies next.framer replies = [0, 7, 0, 0, 0, 0, 0, 5, 18, 0x41, 2, 1, 44] := by
  intro config table factory client device endpoint unknown request answer handle opened now
  have named : factory.resolvers = Resolver.basic :: [table].map Resolver.ofTable := rfl
  have bodies : ∀ lines ∈ [table], ∀ entry ∈ lines, ∃ content, entry.payload = .body content := by
    simp [table, Packet.empty]
  have waits : now.buffer = request.take 3 ∧ now.ending = none ∧
      now.state.link.map (fun link => (link.peer, link.written, link.unread)) = some ([answer], [], []) := by
    decide +kernel
  have asks : Frame.Reads factory.resolver .command .big request (request.take 14)
      ⟨{ transactionId := 7, unit := 17, declared := some 8 },
        some (Pdu.mk 0x41 (some (.body (.readRegisters 5 2)))).toPacket⟩
      ⟨0x41, some (.body (.readRegisters 5 2))⟩ :=
    ⟨by unfold Frame.IsWhole; decide, ⟨[255, 255], rfl, by cbv⟩, rfl, rfl⟩
  have reads : Frame.Reads factory.resolver .response .big answer (answer.take 13)
      ⟨{ transactionId := 9, unit := 18, declared := some 6 },
        some (Pdu.mk 0x41 (some (.body (.registerValues [1, 44])))).toPacket⟩
      ⟨0x41, some (.body (.registerValues [1, 44]))⟩ :=
    ⟨by unfold Frame.IsWhole; decide, ⟨[255], rfl, by cbv⟩, rfl, rfl⟩
  obtain ⟨free, owns, forwards⟩ := forwards_as_read config named bodies endpoint rfl rfl rfl
    { peer := [answer] } device (fun _ => Circumstances.uncancelled_default)
    [unknown ++ request.take 3] waits.2.1
  obtain ⟨arrived, goesOn, known⟩ := waits
  obtain ⟨peer, written, unread, ended⟩ := free
  rw [show now.state.link = _ from owns, Option.map_some] at known
  obtain ⟨rfl, rfl, rfl⟩ : peer = [answer] ∧ written = [] ∧ unread = [] := by simpa using known
  have completes : now.buffer ++ request.drop 3 = request := by
    rw [arrived]
    rfl
  have given : (Link.write device ⟨[answer], [], [], ended⟩ (Frame.measured .big (request.take 14))).unread =
      answer ++ [] := rfl
  obtain ⟨stays, -, link, returned, -⟩ :=
    forwards completes asks (by decide) rfl rfl given reads (by decide)
  refine ⟨stays, (congrArg (Option.map (·.written)) link).trans ?_, returned.trans (by decide)⟩
  show some (Frame.measured .big (request.take 14)) = _
  decide

end ModbusTcp
