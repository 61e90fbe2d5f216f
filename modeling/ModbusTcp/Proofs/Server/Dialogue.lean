import ModbusTcp.Proofs.Server.Stream
import ModbusTcp.Server.Slave

/-!
# The dialogue with a slave

A peer writes requests to a slave and reads replies.  What the slave does about a stream can be told
from the frames that can be read off it, without looking at how they arrive.

* `Framer.demand`, `Demand.answer?` — what the bytes of a frame ask, and the PDU that answers it.
* `Frame.answer`, `Frame.Answers` — the bytes of a reply, and what they share with those of the request.
* `Slave.handle_of_hasPdu`, `Slave.handle_of_not_hasPdu` — one frame.
* `Answered` — replies answer requests one by one.
* `Slave.serve_dialogue` — all frames of a stream.
* **`Slave.converse_connection`** — a slave answers every request once and in order.
-/

namespace ModbusTcp

variable {σ : Type}

/-! ### What a frame asks, and how it is answered -/

namespace Frame

/-- There is room for a PDU in the bytes of a frame. -/
def hasPdu (bytes : Bytes) : Bool := 9 < bytes.length

/-- The bytes of a frame that answers another one with a PDU: the ids and the unit id are those of the
request. -/
def answer (order : ByteOrder) (request : Bytes) (pdu : Pdu) : Bytes :=
  request.take 6 ++ (order.word (UInt16.ofNat (1 + pdu.toPacket.measure)) ++
    ((request.drop 8).take 1 ++ pdu.toPacket.encode order))

end Frame

/-- What the bytes of a frame ask of a slave. -/
inductive Demand where
  /-- Nothing: there is no PDU. -/
  | nothing
  /-- Something that no resolver knows. -/
  | unknown (function : UInt8)
  /-- Something known, but its payload cannot be read. -/
  | malformed (function : UInt8)
  /-- Something that the service is asked. -/
  | call (request : UnitRequest)
deriving DecidableEq, Repr

/-- What the bytes of a frame ask. -/
def Framer.demand (framer : Framer) (bytes : Bytes) : Demand :=
  match bytes.drop 8 with
  | unit :: function :: body =>
    match framer.resolver (.pdu function) .command with
    | none => .unknown function
    | some target =>
      match Packet.decodeInto framer.resolver .command framer.order target body with
      | .ok (payload, _) => .call ⟨unit, .ofByte (withoutFlag function), payload⟩
      | .error _ => .malformed function
  | _ => .nothing

namespace Demand

/-- The call of the service that a demand leads to. -/
def call? : Demand → Option UnitRequest
  | .call request => some request
  | .nothing | .unknown _ | .malformed _ => none

/-- The answer to a demand. -/
def answer? (service : Service σ) (state : σ) : Demand → Option Pdu
  | .nothing => none
  | .unknown function => some (.exception function .illegalFunction)
  | .malformed function => some (.exception function .illegalDataValue)
  | .call request => some (Slave.replyPdu request.function (service request state).1)

end Demand

/-- What a frame asks of the service, if anything. -/
def Framer.calls (framer : Framer) (requests : List Bytes) : List UnitRequest :=
  requests.filterMap fun request => (framer.demand request).call?

/-- The state of a service after a series of calls. -/
def Service.after (service : Service σ) (calls : List UnitRequest) (state : σ) : σ :=
  calls.foldl (fun state request => (service request state).2) state

/-- A service that keeps a record of its calls. -/
def Service.logged (service : Service σ) : Service (σ × List UnitRequest) := fun request (state, log) =>
  let (answer, state) := service request state
  (answer, (state, log ++ [request]))

/-! ### Spelled requests -/

section Spelled

variable {order : ByteOrder} {ids : Mbap} {length : UInt16} {unit function : UInt8} {body tail : Bytes}

/-- The answer to a spelled request is spelled with the same ids. -/
theorem Frame.answer_spell (pdu : Pdu) :
    answer order (ids.spell order length (unit :: tail)) pdu =
      ids.spell order (UInt16.ofNat (1 + pdu.toPacket.measure)) (unit :: pdu.toPacket.encode order) := by
  rw [answer, Mbap.take_spell, Mbap.drop_spell]
  rfl

theorem Framer.demand_spell {framer : Framer} :
    framer.demand (ids.spell framer.order length (unit :: function :: body)) =
      match framer.resolver (.pdu function) .command with
      | none => .unknown function
      | some target =>
        match Packet.decodeInto framer.resolver .command framer.order target body with
        | .ok (payload, _) => .call ⟨unit, .ofByte (withoutFlag function), payload⟩
        | .error _ => .malformed function := by
  rw [demand, Mbap.drop_spell]

/-- What a frame with a function byte means to a server whose frames carry PDUs. -/
theorem Framer.interpret_spell {framer : Framer}
    (named : ∀ header, framer.resolver (.mbap header) .command = some (.empty .pdu))
    (room : 1 < length) :
    framer.interpret (ids.spell framer.order length (unit :: function :: body)) =
      .ok (match framer.resolver (.pdu function) .command with
        | none => .request ⟨Frame.headerOf ids unit length, some (.bare (.pdu function))⟩
        | some target =>
          match Packet.decodeInto framer.resolver .command framer.order target body with
          | .ok (payload, _) =>
            .request ⟨Frame.headerOf ids unit length, some (.carry (.pdu function) payload)⟩
          | .error _ => .malformed ⟨Frame.headerOf ids unit length, some (.bare (.pdu function))⟩) := by
  rw [interpret, Frame.decode_spell room, named]
  dsimp only [Packet.empty]
  rw [Packet.decodeInto_pdu]
  cases framer.resolver (.pdu function) .command with
  | none => rfl
  | some target =>
    dsimp only
    cases Packet.decodeInto framer.resolver .command framer.order target body with
    | ok result => rfl
    | error reason =>
      dsimp only [Except.map]
      rw [Frame.decode_functionOnly room]
      rfl

end Spelled

/-! ### The same function -/

@[simp] theorem withoutFlag_or_exceptionFlag (function : UInt8) :
    withoutFlag (function ||| exceptionFlag) = withoutFlag function := by
  rw [withoutFlag, ← UInt8.toBitVec_inj, UInt8.toBitVec_and, UInt8.toBitVec_or,
    BitVec.and_or_distrib_right]
  exact BitVec.or_zero

@[simp] theorem withoutFlag_withoutFlag (function : UInt8) :
    withoutFlag (withoutFlag function) = withoutFlag function := by
  rw [withoutFlag, withoutFlag, UInt8.and_assoc, UInt8.and_self]

/-- A reply names the function that has been asked for, marked or not. -/
theorem Slave.withoutFlag_replyPdu (function : FunctionCode) (answer : Except ExceptionCode Packet) :
    withoutFlag (replyPdu function answer).function = withoutFlag function.value := by
  unfold replyPdu
  dsimp only
  split
  · cases answer with
    | ok payload => rfl
    | error code => exact withoutFlag_or_exceptionFlag _
  · exact withoutFlag_or_exceptionFlag _

/-! ### The size of an answer -/

/-- Within the limits a PDU with a body is small. -/
theorem Pdu.measure_le_of_checkLimits {function : UInt8} {content : Body}
    (limited : (Pdu.mk function (some (.body content))).checkLimits = .ok ()) : content.measure ≤ 251 := by
  cases content with
  | writeMultiple start values =>
    have := (checkCount_eq_ok_iff.mp limited).2
    simp only [maxWriteRegisters] at this
    simp only [Body.measure]
    omega
  | registerValues bytes =>
    simp only [checkLimits] at limited
    split at limited
    · simp at limited
    · rename_i small
      simp only [maxReadRegisters] at small
      simp only [Body.measure]
      omega
  | _ => simp [Body.measure]

theorem Pdu.measure_exception_le (function : UInt8) (code : ExceptionCode) :
    (exception function code).toPacket.measure ≤ 252 := by
  show 2 ≤ 252
  decide

/-- A slave never replies with more than 252 bytes to what a service answers with a body. -/
theorem Slave.measure_replyPdu_le (function : FunctionCode) {answer : Except ExceptionCode Packet}
    (leaf : ∀ payload, answer = .ok payload → ∃ content, payload = .body content) :
    (replyPdu function answer).toPacket.measure ≤ 252 := by
  unfold replyPdu
  dsimp only
  split
  · rename_i limited
    cases answer with
    | error code => exact Pdu.measure_exception_le _ _
    | ok payload =>
      obtain ⟨content, rfl⟩ := leaf payload rfl
      have := Pdu.measure_le_of_checkLimits limited
      simp only [Pdu.ofFunction, Pdu.toPacket, Packet.ofParts, Packet.measure]
      omega
  · exact Pdu.measure_exception_le _ _

/-! ### One request -/

section Request

variable {framer : Framer} {service : Service σ}

/-- What an answer has to do with the request that it answers. -/
structure Frame.Answers (order : ByteOrder) (request : Bytes) (pdu : Pdu) : Prop where
  ids : (answer order request pdu).take 6 = request.take 6
  unit : (answer order request pdu)[8]? = request[8]?
  function : (answer order request pdu)[9]?.map withoutFlag = request[9]?.map withoutFlag
  whole : IsWhole order (answer order request pdu)

/-- A small PDU for the same function is an answer. -/
theorem Frame.answers_spell {order : ByteOrder} {ids : Mbap} {length : UInt16} {unit function : UInt8}
    {body : Bytes} {pdu : Pdu} (same : withoutFlag pdu.function = withoutFlag function)
    (small : pdu.toPacket.measure ≤ 252) :
    Answers order (ids.spell order length (unit :: function :: body)) pdu := by
  obtain ⟨rest, encoded⟩ : ∃ rest, pdu.toPacket.encode order = pdu.function :: rest := by
    obtain ⟨byte, payload⟩ := pdu
    cases payload with
    | none => exact ⟨[], rfl⟩
    | some payload => exact ⟨payload.encode order, rfl⟩
  refine ⟨?_, ?_, ?_, ?_⟩
  · rw [answer_spell, Mbap.take_spell, Mbap.take_spell]
  · rw [answer_spell, Mbap.getElem?_spell _ _ _ 0, Mbap.getElem?_spell _ _ _ 0]
    rfl
  · rw [answer_spell, Mbap.getElem?_spell _ _ _ 1, Mbap.getElem?_spell _ _ _ 1, encoded]
    exact congrArg some same
  · rw [answer_spell]
    apply isWhole_spell
    rw [List.length_cons, Packet.length_encode]
    simp
    omega

/-- A reply carries the ids of the request. -/
theorem Frame.encode_reply (order : ByteOrder) (ids : Mbap) (unit function : UInt8) (length : UInt16)
    (body : Bytes) (payload : Option Packet) (pdu : Pdu) :
    ((Frame.mk (headerOf ids unit length) payload).reply pdu).encode order =
      answer order (ids.spell order length (unit :: function :: body)) pdu := by
  rw [reply, encode_eq_spell, answer_spell]
  rfl

/-- A whole frame without a PDU is read as such. -/
theorem Framer.exists_interpret_of_not_hasPdu {bytes : Bytes}
    (whole : Frame.IsWhole framer.order bytes) (empty : Frame.hasPdu bytes = false) :
    ∃ header, framer.interpret bytes = .ok (.request ⟨header, none⟩) := by
  rcases whole.cases with ⟨ids, rfl⟩ | ⟨ids, unit, rfl⟩ | ⟨ids, unit, function, body, length, _, _, rfl⟩
  · exact ⟨_, by rw [interpret, Frame.decode_spell_zero]⟩
  · exact ⟨_, by rw [interpret, Frame.decode_spell_one]⟩
  · simp [Frame.hasPdu] at empty
    omega

/-- A whole frame without a PDU ends a dialogue. -/
theorem Slave.handle_of_not_hasPdu {bytes : Bytes} (whole : Frame.IsWhole framer.order bytes)
    (empty : Frame.hasPdu bytes = false) (peer : Endpoint) (state : σ) :
    ∃ inbound, framer.interpret bytes = .ok inbound ∧
      handle service peer state inbound = { state, ending := some (.error (noPdu peer)) } := by
  obtain ⟨header, interpreted⟩ := Framer.exists_interpret_of_not_hasPdu whole empty
  exact ⟨_, interpreted, rfl⟩

/-- A whole frame with a PDU is answered, with the same ids and for the same function. -/
theorem Slave.handle_of_hasPdu
    (named : ∀ header, framer.resolver (.mbap header) .command = some (.empty .pdu))
    (leaf : ∀ request state payload, (service request state).1 = .ok payload →
      ∃ content, payload = .body content)
    {bytes : Bytes} (whole : Frame.IsWhole framer.order bytes) (holds : Frame.hasPdu bytes)
    (peer : Endpoint) (state : σ) :
    ∃ inbound pdu reply, framer.interpret bytes = .ok inbound ∧
      (framer.demand bytes).answer? service state = some pdu ∧
      handle service peer state inbound =
        { state := service.after (framer.calls [bytes]) state, reply := some reply } ∧
      reply.encode framer.order = Frame.answer framer.order bytes pdu ∧
      Frame.Answers framer.order bytes pdu := by
  rcases whole.cases with ⟨ids, rfl⟩ | ⟨ids, unit, rfl⟩ | ⟨ids, unit, function, body, length, room, _, rfl⟩
  · simp [Frame.hasPdu] at holds
  · simp [Frame.hasPdu] at holds
  · rw [Framer.interpret_spell named room, Framer.calls, List.filterMap_cons, Framer.demand_spell]
    cases framer.resolver (.pdu function) .command with
    | none =>
      exact ⟨_, _, _, rfl, rfl, rfl, Frame.encode_reply _ _ _ _ _ _ _ _,
        Frame.answers_spell (withoutFlag_or_exceptionFlag _) (Pdu.measure_exception_le _ _)⟩
    | some target =>
      dsimp only
      cases Packet.decodeInto framer.resolver .command framer.order target body with
      | error reason =>
        exact ⟨_, _, _, rfl, rfl, rfl, Frame.encode_reply _ _ _ _ _ _ _ _,
          Frame.answers_spell (withoutFlag_or_exceptionFlag _) (Pdu.measure_exception_le _ _)⟩
      | ok result =>
        obtain ⟨payload, rest⟩ := result
        refine ⟨_, _, _, rfl, rfl, rfl, Frame.encode_reply _ _ _ _ _ _ _ _, Frame.answers_spell ?_ ?_⟩
        · rw [withoutFlag_replyPdu, FunctionCode.value_ofByte, withoutFlag_withoutFlag]
        · exact measure_replyPdu_le _ (leaf _ _)

end Request

/-! ### All requests of a stream -/

section Stream

variable {framer : Framer} {service : Service σ}

/-- The calls of a request come before those of the requests behind it. -/
theorem Service.after_calls_cons (service : Service σ) (framer : Framer) (request : Bytes)
    (requests : List Bytes) (state : σ) :
    service.after (framer.calls (request :: requests)) state =
      service.after (framer.calls requests) (service.after (framer.calls [request]) state) := by
  rw [← List.singleton_append, Framer.calls, List.filterMap_append, after, List.foldl_append]
  rfl

/-- Replies answer requests one by one: each is the answer to the request in its place, given by a
service that has been called by the requests before. -/
structure Answered (framer : Framer) (service : Service σ) (state : σ) (requests replies : List Bytes) :
    Prop where
  length : replies.length = requests.length
  each : ∀ index request, requests[index]? = some request → ∃ pdu,
    (framer.demand request).answer? service (service.after (framer.calls (requests.take index)) state) =
        some pdu ∧
      replies[index]? = some (Frame.answer framer.order request pdu) ∧
      Frame.Answers framer.order request pdu

theorem Answered.nil (state : σ) : Answered framer service state [] [] := ⟨rfl, by simp⟩

theorem Answered.cons {state : σ} {request : Bytes} {requests replies : List Bytes} {pdu : Pdu}
    (first : (framer.demand request).answer? service state = some pdu)
    (answers : Frame.Answers framer.order request pdu)
    (others : Answered framer service (service.after (framer.calls [request]) state) requests replies) :
    Answered framer service state (request :: requests)
      (Frame.answer framer.order request pdu :: replies) where
  length := by rw [List.length_cons, List.length_cons, others.length]
  each := by
    intro index asked found
    cases index with
    | zero =>
      obtain rfl : request = asked := by simpa using found
      exact ⟨pdu, first, rfl, answers⟩
    | succ index =>
      obtain ⟨pdu', second, reply, same⟩ := others.each index asked (by simpa using found)
      refine ⟨pdu', ?_, by simpa using reply, same⟩
      rw [List.take_succ_cons, Service.after_calls_cons]
      exact second

/-- What serving a stream comes to for a slave. -/
structure Served.Dialogue (served : Served σ) (framer : Framer) (service : Service σ) (peer : Endpoint)
    (state : σ) (pulled : Pulled) : Prop where
  replies : ∃ replies,
    Connection.encodeReplies framer served.replies = replies.flatten ∧
      Answered framer service state (pulled.frames.takeWhile Frame.hasPdu) replies
  state : served.state =
    service.after (framer.calls (pulled.frames.takeWhile Frame.hasPdu)) state
  ending : served.ending =
    if pulled.frames.all Frame.hasPdu then
      pulled.stop.map fun (length, max) => .error (FramingError.tooLarge length max).toIoError
    else some (.error (Slave.noPdu peer))
  buffer : served.ending = none → served.buffer = pulled.rest

/-- A slave that serves a stream answers the frames that can be read off it. -/
theorem Slave.serve_dialogue (enough : 8 ≤ framer.maxFrame)
    (named : ∀ header, framer.resolver (.mbap header) .command = some (.empty .pdu))
    (leaf : ∀ request state payload, (service request state).1 = .ok payload →
      ∃ content, payload = .body content)
    (peer : Endpoint) (state : σ) (stream : Bytes) :
    (framer.serve (handle service peer) state stream).Dialogue framer service peer state
      (pullAll framer.order framer.maxFrame stream) := by
  fun_induction pullAll framer.order framer.maxFrame stream generalizing state with
  | case1 stream bytes rest pulled ih =>
    obtain ⟨whole, _, _⟩ := isWhole_of_pull enough pulled
    rcases Bool.eq_false_or_eq_true (Frame.hasPdu bytes) with holds | empty
    · obtain ⟨inbound, pdu, reply, interpreted, asked, turn, encoded, answers⟩ :=
        handle_of_hasPdu named leaf whole holds peer state
      rw [Framer.serve_of_frame enough pulled interpreted, turn]
      dsimp only
      obtain ⟨⟨replies, written, answered⟩, after, ending, buffer⟩ :=
        ih (service.after (framer.calls [bytes]) state)
      have taken : ((pullAll framer.order framer.maxFrame rest).behind [bytes]).frames.takeWhile
          Frame.hasPdu =
            bytes :: (pullAll framer.order framer.maxFrame rest).frames.takeWhile Frame.hasPdu := by
        simp [Pulled.behind, holds]
      refine ⟨⟨Frame.answer framer.order bytes pdu :: replies, ?_, ?_⟩, ?_, ?_, buffer⟩
      · rw [List.flatten_cons, ← written, ← encoded]
        rfl
      · rw [taken]
        exact answered.cons asked answers
      · rw [taken]
        exact after.trans (service.after_calls_cons framer bytes _ state).symm
      · rw [Served.after, ending]
        simp [Pulled.behind, holds]
    · obtain ⟨inbound, interpreted, turn⟩ := handle_of_not_hasPdu whole empty peer state
      rw [Framer.serve_of_frame enough pulled interpreted, turn]
      dsimp only
      refine ⟨⟨[], rfl, ?_⟩, ?_, ?_, ?_⟩
      · simpa [Pulled.behind, empty] using Answered.nil state
      · simp [Pulled.behind, empty]
        rfl
      · simp [Pulled.behind, empty]
      · rintro ⟨⟩
  | case2 stream length limit pulled =>
    rw [Framer.serve_of_tooLarge enough pulled]
    refine ⟨⟨[], rfl, .nil state⟩, rfl, rfl, ?_⟩
    rintro ⟨⟩
  | case3 stream pulled =>
    rw [Framer.serve_of_incomplete enough pulled]
    exact ⟨⟨[], rfl, .nil state⟩, rfl, rfl, fun _ => rfl⟩

end Stream

/-! ### The whole dialogue -/

/-- The record of a service is the series of its calls. -/
theorem Service.after_logged (service : Service σ) (calls log : List UnitRequest) (state : σ) :
    service.logged.after calls (state, log) = (service.after calls state, log ++ calls) := by
  induction calls generalizing state log with
  | nil => rw [List.append_nil]; rfl
  | cons call calls ih =>
    show service.logged.after calls ((service call state).2, log ++ [call]) = _
    rw [ih, List.append_assoc]
    rfl

/-- How a dialogue ends whose stream has been read: with an error at a frame without a PDU or at one
that is too large, else at the end of the stream, where nothing may be left. -/
def Slave.ending (peer : Endpoint) (pulled : Pulled) : Ending :=
  if pulled.frames.all Frame.hasPdu then
    match pulled.stop with
    | some (length, max) => .error (FramingError.tooLarge length max).toIoError
    | none => if pulled.rest = [] then .ok () else .error .bytesRemaining
  else .error (noPdu peer)

section Whole

variable (config : ServerConfig) (factory : FrameFactory) {others : List Resolver}

/-- A slave that is served a stream in chunks answers the frames that can be read off it. -/
theorem Slave.converse_dialogue (basic : factory.resolvers = Resolver.basic :: others)
    (enough : 8 ≤ config.maxFrame) {service : Service σ}
    (leaf : ∀ request state payload, (service request state).1 = .ok payload →
      ∃ content, payload = .body content)
    (peer : Endpoint) (state : σ) (chunks : List Bytes) :
    let framer := framer config factory
    let pulled := pullAll config.order config.maxFrame chunks.flatten
    let answered := pulled.frames.takeWhile Frame.hasPdu
    let (last, written) := (connection config factory state).converse (handle service peer) chunks
    (∃ replies, written = replies.flatten ∧ Answered framer service state answered replies) ∧
      last.state = service.after (framer.calls answered) state ∧
      last.ending = some (ending peer pulled) := by
  intro framer pulled answered
  have named (header : Mbap) : framer.resolver (.mbap header) .command = some (.empty .pdu) := by
    show Resolver.firstOf factory.resolvers _ _ = _
    rw [basic]
    rfl
  obtain ⟨written, same, ended⟩ :=
    Connection.converse_eq_serve (handle service peer) framer enough state chunks
  obtain ⟨⟨replies, encoded, answers⟩, after, ending, buffer⟩ :
      Served.Dialogue _ framer service peer state pulled :=
    serve_dialogue enough named leaf peer state chunks.flatten
  refine ⟨⟨replies, written.trans encoded, answers⟩, same.trans after, ended.trans (congrArg some ?_)⟩
  rw [Slave.ending, ending]
  by_cases all : pulled.frames.all Frame.hasPdu
  · rw [if_pos all, if_pos all]
    cases stopped : pulled.stop with
    | some stop => rfl
    | none =>
      rw [if_pos all, stopped] at ending
      rw [buffer ending]
      rfl
  · rw [if_neg all, if_neg all]
    rfl

/-- **A slave answers every request once and in order**, however the stream of requests is cut into
chunks.  It answers the whole frames up to the first without a PDU; each answer carries the ids and the
function of its request and is a whole frame itself.  The service has been called by those requests
whose payload could be read, in their order and once by each. -/
theorem Slave.converse_connection (basic : factory.resolvers = Resolver.basic :: others)
    (enough : 8 ≤ config.maxFrame) (service : Service σ)
    (leaf : ∀ request state payload, (service request state).1 = .ok payload →
      ∃ content, payload = .body content)
    (peer : Endpoint) (state : σ) (chunks : List Bytes) :
    let framer := framer config factory
    let pulled := pullAll config.order config.maxFrame chunks.flatten
    let answered := pulled.frames.takeWhile Frame.hasPdu
    let (last, written) := (connection config factory state).converse (handle service peer) chunks
    let (logged, _) :=
      (connection config factory (state, [])).converse (handle service.logged peer) chunks
    (∃ replies, written = replies.flatten ∧ Answered framer service state answered replies) ∧
      last.state = service.after (framer.calls answered) state ∧
      logged.state = (last.state, framer.calls answered) ∧
      last.ending = some (ending peer pulled) := by
  intro framer pulled answered
  have leafLogged : ∀ request state payload, (service.logged request state).1 = .ok payload →
      ∃ content, payload = .body content := fun request state => leaf request state.1
  obtain ⟨replies, after, ending⟩ :=
    converse_dialogue config factory basic enough leaf peer state chunks
  obtain ⟨_, afterLogged, _⟩ :=
    converse_dialogue config factory basic enough leafLogged peer (state, []) chunks
  refine ⟨replies, after, ?_, ending⟩
  rw [after]
  exact afterLogged.trans (service.after_logged _ [] state)

end Whole

/-- A service that counts its calls and answers each with a count, before a peer that sends a request,
one that is malformed, one for an unknown function and a frame without a PDU: there are three replies
and one call, and what follows the last frame is not answered. -/
theorem Slave.converse_until_noPdu :
    let service : Service UInt8 := fun _ count => (.ok (.body (.registerValues [0, count])), count + 1)
    let peer : Endpoint := ⟨.v4 0, 502⟩
    let first : Bytes := [0, 1, 0, 0, 0, 0, 0, 6, 17, 3, 0, 0, 0, 1]
    let second : Bytes := [0, 2, 0, 0, 0, 0, 0, 3, 17, 3, 0]
    let third : Bytes := [0, 3, 0, 0, 0, 0, 0, 2, 17, 65]
    let fourth : Bytes := [0, 4, 0, 0, 0, 0, 0, 1, 17]
    let chunks := [first ++ second.take 7, second.drop 7 ++ third ++ fourth ++ first.take 3, first.drop 3]
    let call : UnitRequest := ⟨17, .readHoldingRegisters, .body (.readRegisters 0 1)⟩
    let (last, written) := (connection {} {} 0).converse (handle service peer) chunks
    let (logged, _) := (connection {} {} (0, [])).converse (handle service.logged peer) chunks
    (∃ replies : List Bytes, written = replies.flatten ∧ replies.length = 3) ∧
      logged.state = (1, [call]) ∧ last.ending = some (.error (noPdu peer)) := by
  intro service peer first second third fourth chunks call
  have read : pullAll .big defaultMaxFrame chunks.flatten =
      { frames := [first, second, third, fourth, first], rest := [] } := by
    show pullAll _ _ (first ++ (second ++ (third ++ (fourth ++ first)))) = _
    rw [pullAll_of_frame (show pull _ _ _ = .frame first (second ++ (third ++ (fourth ++ first))) by cbv),
      pullAll_of_frame (show pull _ _ _ = .frame second (third ++ (fourth ++ first)) by cbv),
      pullAll_of_frame (show pull _ _ _ = .frame third (fourth ++ first) by cbv),
      pullAll_of_frame (show pull _ _ _ = .frame fourth first by cbv),
      pullAll_of_frame (show pull _ _ _ = .frame first [] by cbv), pullAll_of_incomplete (by cbv)]
    rfl
  have called : (framer {} {}).calls [first, second, third] = [call] := by cbv
  have answered : [first, second, third, fourth, first].takeWhile Frame.hasPdu =
      [first, second, third] := by decide
  obtain ⟨⟨replies, written, answers⟩, after, logged, ending⟩ :=
    converse_connection {} {} rfl (by decide) service (fun _ _ _ found => ⟨_, (Except.ok.inj found).symm⟩)
      peer 0 chunks
  have same : pullAll ({} : ServerConfig).order ({} : ServerConfig).maxFrame chunks.flatten = _ := read
  rw [same] at answers after logged ending
  dsimp only at answers after logged
  rw [answered] at answers after logged
  rw [called] at after logged
  exact ⟨⟨replies, written, answers.length⟩, logged.trans (by rw [after]; rfl), ending⟩

end ModbusTcp
