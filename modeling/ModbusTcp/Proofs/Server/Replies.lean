import ModbusTcp.Proofs.Client.Exchange
import ModbusTcp.Proofs.Client.Registers
import ModbusTcp.Proofs.Packet.Format
import ModbusTcp.Proofs.Server.History

/-!
# The replies of a slave before a register map

Whatever a frame with a PDU asks of a slave before a register map, the reply is a frame of its own that
the client on the other side can read to its end.  Its payload is an exception, or what the function of
the request is answered with.

* `responseKind?` — the kind of payload that a response carries, by its function byte.
* `FunctionCode.isBasic_cases` — the functions that the register model knows as requests.
* `RegisterMap.exists_service_eq` — the answers of a register map are of the kind that the function is
  answered with.
* `Pdu.Answering` — a PDU that whoever has asked can read.
* `Framer.Hears` — what a frame is to a server that knows the register model.
* `Slave.exists_answering` — a slave before a register map replies to every frame with such a PDU.
* **`Slave.reply_is_understood`** — every reply is read back by a client, with a payload that it knows.
-/

namespace ModbusTcp

/-! ### The functions of the register model -/

/-- The kind of payload that a response carries, by its function byte. -/
def responseKind? (function : UInt8) : Option PacketKind :=
  if isFlagged function then some .exception
  else
    match FunctionCode.ofByte function with
    | .readHoldingRegisters | .readInputRegisters => some .registerValues
    | .writeSingleRegister => some .writeRegister
    | .writeMultipleRegisters => some .multipleWritten
    | .custom _ => none

theorem isFlagged_or_exceptionFlag (function : UInt8) : isFlagged (function ||| exceptionFlag) := by
  rw [isFlagged, decide_eq_true_iff]
  intro unmarked
  have marked : exceptionFlag &&& (function ||| exceptionFlag) = exceptionFlag := by
    rw [← UInt8.toBitVec_inj, UInt8.toBitVec_and, UInt8.toBitVec_or]
    ext index inside
    simp only [BitVec.getElem_and, BitVec.getElem_or]
    cases exceptionFlag.toBitVec[index] <;> simp
  rw [UInt8.and_comm, marked] at unmarked
  exact absurd unmarked (by decide)

namespace Resolver

/-- A factory that knows nothing but the register model. -/
theorem firstOf_singleton (resolver : Resolver) : firstOf [resolver] = resolver := by
  funext envelope direction
  rw [firstOf, List.findSome?_cons, List.findSome?_nil]
  cases resolver envelope direction <;> rfl

/-- A marked response carries an exception. -/
theorem basic_response_of_flagged {function : UInt8} (flagged : isFlagged function) :
    basic (.pdu function) .response = some (.body (.exception 0)) :=
  if_pos ⟨rfl, flagged⟩

/-- What a table names for a function stands in one of its lines for that function. -/
theorem exists_line_of_lookUp {table : List Entry} {function : UInt8} {direction : Direction}
    {packet : Packet} (found : lookUp table function direction = some packet) :
    ⟨function, direction, packet⟩ ∈ table := by
  obtain ⟨⟨function', direction', packet'⟩, first, rfl⟩ := Option.map_eq_some_iff.mp found
  have named := List.find?_some first
  rw [decide_eq_true_iff] at named
  obtain ⟨rfl, rfl⟩ : function' = function ∧ direction' = direction := named
  exact List.mem_of_find?_eq_some first

/-- The register model has no line for other functions than its own. -/
theorem lookUp_basicTable_of_unknown {function : UInt8} (unknown : function ∉ [0x03, 0x04, 0x06, 0x10])
    (direction : Direction) : lookUp basicTable function direction = none := by
  cases found : lookUp basicTable function direction with
  | none => rfl
  | some packet =>
    have line := exists_line_of_lookUp found
    simp only [basicTable, FunctionCode.value, List.mem_cons, Entry.mk.injEq, List.not_mem_nil,
      or_false] at line
    refine absurd ?_ unknown
    rcases line with ⟨rfl, -⟩ | ⟨rfl, -⟩ | ⟨rfl, -⟩ | ⟨rfl, -⟩ | ⟨rfl, -⟩ | ⟨rfl, -⟩ | ⟨rfl, -⟩ |
      ⟨rfl, -⟩ <;> decide

/-- The register model names for a response what its function byte says. -/
theorem responseKind?_of_basic {function : UInt8} {target : Body}
    (named : basic (.pdu function) .response = some (.body target)) :
    responseKind? function = some target.kind := by
  rw [responseKind?]
  by_cases flagged : isFlagged function
  · rw [basic_response_of_flagged flagged] at named
    obtain rfl : .exception 0 = target := by simpa using named
    exact if_pos flagged
  · rw [if_neg flagged]
    have line : ⟨function, .response, .body target⟩ ∈ basicTable := by
      refine exists_line_of_lookUp ?_
      rw [← named]
      exact (if_neg fun both => flagged both.2).symm
    simp only [basicTable, Packet.empty, FunctionCode.value, List.mem_cons, Entry.mk.injEq, reduceCtorEq,
      false_and, and_false, List.not_mem_nil, or_false, false_or, true_and, Packet.body.injEq] at line
    rcases line with ⟨rfl, rfl⟩ | ⟨rfl, rfl⟩ | ⟨rfl, rfl⟩ | ⟨rfl, rfl⟩ <;> rfl

end Resolver

namespace FunctionCode

theorem isBasic_readInputRegisters :
    IsBasic .readInputRegisters (.readRegisters 0 0) (.registerValues []) := by
  constructor <;> decide

/-- The functions that the register model knows as requests, by what they are asked with. -/
theorem isBasic_cases {function : UInt8} {packet : Packet}
    (named : Resolver.basic (.pdu function) .command = some packet) :
    packet = .body (.readRegisters 0 0) ∧
        (ofByte function).IsBasic (.readRegisters 0 0) (.registerValues []) ∨
      packet = .body (.writeRegister 0 0) ∧
        (ofByte function).IsBasic (.writeRegister 0 0) (.writeRegister 0 0) ∨
      packet = .body (.writeMultiple 0 []) ∧
        (ofByte function).IsBasic (.writeMultiple 0 []) (.multipleWritten 0 0) := by
  have line : (⟨function, .command, packet⟩ : Resolver.Entry) ∈ Resolver.basicTable :=
    Resolver.exists_line_of_lookUp named
  simp only [Resolver.basicTable, Packet.empty, value, List.mem_cons, Resolver.Entry.mk.injEq,
    reduceCtorEq, false_and, and_false, List.not_mem_nil, or_false, false_or, true_and] at line
  rcases line with ⟨rfl, rfl⟩ | ⟨rfl, rfl⟩ | ⟨rfl, rfl⟩ | ⟨rfl, rfl⟩
  · exact .inl ⟨rfl, isBasic_readHoldingRegisters⟩
  · exact .inl ⟨rfl, isBasic_readInputRegisters⟩
  · exact .inr (.inl ⟨rfl, isBasic_writeSingleRegister⟩)
  · exact .inr (.inr ⟨rfl, isBasic_writeMultipleRegisters⟩)

/-- None of them is marked. -/
theorem ofByte_withoutFlag {function : UInt8} {packet : Packet}
    (named : Resolver.basic (.pdu function) .command = some packet) :
    ofByte (withoutFlag function) = ofByte function := by
  rcases isBasic_cases named with ⟨-, basic⟩ | ⟨-, basic⟩ | ⟨-, basic⟩ <;>
    rw [← basic.byte, value_ofByte]

end FunctionCode

/-! ### The answers of a register map -/

/-- An outcome all of whose successes are bodies. -/
theorem exists_eq_map_body {outcome : Except ExceptionCode Packet} {Fine : Body → Prop}
    (granted : ∀ packet, outcome = .ok packet → ∃ reply, packet = .body reply ∧ Fine reply) :
    ∃ answer : Except ExceptionCode Body,
      outcome = answer.map Packet.body ∧ ∀ reply, answer = .ok reply → Fine reply := by
  cases outcome with
  | error code => exact ⟨.error code, rfl, nofun⟩
  | ok packet =>
    obtain ⟨reply, rfl, fine⟩ := granted packet rfl
    refine ⟨.ok reply, rfl, ?_⟩
    rintro _ ⟨⟩
    exact fine

/-- What a register map answers to a request of the register model is of the kind that its function is
answered with, and within the limits. -/
theorem RegisterMap.exists_service_eq (map : RegisterMap) (unit : UInt8) {function : UInt8}
    {asked content : Body} (named : Resolver.basic (.pdu function) .command = some (.body asked))
    (kind : asked.kind = content.kind) :
    ∃ answered, (FunctionCode.ofByte function).IsBasic asked answered ∧
      ∃ answer : Except ExceptionCode Body,
        (service ⟨unit, .ofByte function, .body content⟩ map).1 = answer.map Packet.body ∧
          ∀ reply, answer = .ok reply → answered.IsAnswer (.ofByte function) reply := by
  have obeyed := map.service_obeyed ⟨unit, .ofByte function, .body content⟩
  rcases FunctionCode.isBasic_cases named with ⟨same, basic⟩ | ⟨same, basic⟩ | ⟨same, basic⟩
  · obtain rfl := Packet.body.inj same
    refine ⟨_, basic, exists_eq_map_body fun packet answers => ?_⟩
    cases content with
    | readRegisters start count =>
      obtain ⟨judged, -, given⟩ := obeyed
      obtain ⟨words, rfl, length, -⟩ := given packet answers
      have few : words.length ≤ maxReadRegisters := by
        rw [length]
        exact (judged.granted.mp ⟨_, answers⟩).1.2
      exact ⟨_, rfl, isAnswer_bytesOfWords few⟩
    | _ => exact absurd kind (by simp [Body.kind])
  · obtain rfl := Packet.body.inj same
    refine ⟨_, basic, exists_eq_map_body fun packet answers => ?_⟩
    cases content with
    | writeRegister address value => exact ⟨_, (obeyed.2.1 packet answers).1, rfl, rfl⟩
    | _ => exact absurd kind (by simp [Body.kind])
  · obtain rfl := Packet.body.inj same
    refine ⟨_, basic, exists_eq_map_body fun packet answers => ?_⟩
    cases content with
    | writeMultiple start values => exact ⟨_, (obeyed.2.1 packet answers).1, rfl, rfl⟩
    | _ => exact absurd kind (by simp [Body.kind])

/-! ### PDUs that answer -/

/-- A PDU that answers a function byte: whoever knows the register model can read it, it names the
function, marked or not, and it is small. -/
structure Pdu.Answering (asked : UInt8) (pdu : Pdu) : Prop where
  resolved : pdu.Resolved Resolver.basic .response
  carries : ∃ content, pdu.payload = some (.body content)
  function : pdu.function = asked ∨ pdu.function = asked ||| exceptionFlag
  small : pdu.toPacket.measure ≤ 252

theorem Pdu.answering_exception (asked : UInt8) (code : ExceptionCode) :
    Answering asked (exception asked code) where
  resolved := .carries (Resolver.basic_response_of_flagged (isFlagged_or_exceptionFlag asked)) rfl trivial
  carries := ⟨_, rfl⟩
  function := .inr rfl
  small := measure_exception_le asked code

/-- A slave whose service answers with the right kind of body replies with a PDU that answers. -/
theorem Slave.answering_replyPdu {asked : UInt8} {target answered : Body}
    (basic : (FunctionCode.ofByte asked).IsBasic target answered) {answer : Except ExceptionCode Body}
    (fine : ∀ reply, answer = .ok reply → answered.IsAnswer (.ofByte asked) reply) :
    (replyPdu (.ofByte asked) (answer.map Packet.body)).Answering asked := by
  cases answer with
  | error code =>
    rw [Except.map, replyPdu_error, FunctionCode.value_ofByte]
    exact Pdu.answering_exception asked code
  | ok reply =>
    obtain ⟨kind, limited⟩ := fine reply rfl
    rw [Except.map, replyPdu_ok limited]
    refine ⟨.carries basic.response kind (Body.fits_of_checkLimits limited), ⟨reply, rfl⟩, ?_, ?_⟩
    · exact .inl (FunctionCode.value_ofByte asked)
    · have small := Pdu.measure_le_of_checkLimits limited
      show 1 + reply.measure ≤ 252
      omega

/-- What a slave before a register map replies to a request of the register model is a PDU that answers. -/
theorem Slave.answering_of_call (map : RegisterMap) (unit : UInt8) {function : UInt8}
    {asked content : Body} (named : Resolver.basic (.pdu function) .command = some (.body asked))
    (kind : asked.kind = content.kind) :
    let code := FunctionCode.ofByte (withoutFlag function)
    (replyPdu code (RegisterMap.service ⟨unit, code, .body content⟩ map).1).Answering function := by
  obtain ⟨answered, basic, answer, served, fine⟩ := map.exists_service_eq unit named kind
  dsimp only
  rw [FunctionCode.ofByte_withoutFlag named, served]
  exact answering_replyPdu basic fine

theorem Pdu.Answering.frameLength_le {asked : UInt8} {pdu : Pdu} (answering : pdu.Answering asked) :
    pdu.frameLength ≤ 261 := Nat.add_le_add_left answering.small 9

/-- The kind of payload of a PDU that answers is told by its function byte. -/
theorem Pdu.Answering.kind {asked : UInt8} {pdu : Pdu} (answering : pdu.Answering asked) :
    ∃ content, pdu = ⟨pdu.function, some (.body content)⟩ ∧
      responseKind? pdu.function = some content.kind := by
  obtain ⟨resolved, carries, -, -⟩ := answering
  cases resolved with
  | bare unnamed => exact absurd carries (by simp)
  | carries named kind fits =>
    refine ⟨_, rfl, ?_⟩
    rw [← kind]
    exact Resolver.responseKind?_of_basic named

/-- A response carries an exception exactly if its function byte is marked. -/
theorem responseKind?_eq_exception_iff {function : UInt8} {kind : PacketKind}
    (known : responseKind? function = some kind) : kind = .exception ↔ isFlagged function := by
  rw [responseKind?] at known
  by_cases flagged : isFlagged function
  · rw [if_pos flagged] at known
    exact iff_of_true (Option.some.inj known).symm flagged
  · rw [if_neg flagged] at known
    refine iff_of_false ?_ flagged
    rintro rfl
    split at known <;> simp at known

/-! ### One frame -/

/-- What a frame is to a server that knows the register model: its function byte stands for nothing, or its
body cannot be read, or it is a request. -/
inductive Framer.Hears (framer : Framer) (bytes : Bytes) (header : Mbap) (function : UInt8) : Prop
  | unknown (demands : framer.demand bytes = .unknown function)
      (interprets : framer.interpret bytes = .ok (.request ⟨header, some (Pdu.mk function none).toPacket⟩))
  | malformed (demands : framer.demand bytes = .malformed function)
      (interprets : framer.interpret bytes = .ok (.malformed ⟨header, some (Pdu.mk function none).toPacket⟩))
  | call {asked content : Body} (named : Resolver.basic (.pdu function) .command = some (.body asked))
      (kind : asked.kind = content.kind) (fits : content.Fits)
      (demands : framer.demand bytes =
        .call ⟨header.unit, .ofByte (withoutFlag function), .body content⟩)
      (interprets : framer.interpret bytes =
        .ok (.request ⟨header, some (Pdu.mk function (some (.body content))).toPacket⟩))

/-- Every whole frame with a PDU is one of these, and is replied to in the same form. -/
theorem Framer.exists_hears {framer : Framer} (basic : framer.resolver = Resolver.basic) {bytes : Bytes}
    (whole : Frame.IsWhole framer.order bytes) (holds : Frame.hasPdu bytes) :
    ∃ header function, bytes[9]? = some function ∧
      (∀ payload pdu, ((Frame.mk header payload).reply pdu).encode framer.order =
        Frame.answer framer.order bytes pdu) ∧
      framer.Hears bytes header function := by
  rcases whole.cases with ⟨ids, rfl⟩ | ⟨ids, unit, rfl⟩ | ⟨ids, unit, function, body, length, room, _, rfl⟩
  · simp [Frame.hasPdu] at holds
  · simp [Frame.hasPdu] at holds
  · have framed (header : Mbap) : framer.resolver (.mbap header) .command = some (.empty .pdu) := by
      rw [basic]
      rfl
    refine ⟨Frame.headerOf ids unit length, function, Mbap.getElem?_spell ids _ _ 1,
      Frame.encode_reply framer.order ids unit function length body, ?_⟩
    have demanded : framer.demand (ids.spell framer.order length (unit :: function :: body)) = _ :=
      demand_spell
    have interpreted : framer.interpret
        (ids.spell framer.order length (unit :: function :: body)) = _ :=
      interpret_spell framed room
    rw [basic] at demanded interpreted
    cases named : Resolver.basic (.pdu function) .command with
    | none =>
      rw [named] at demanded interpreted
      exact .unknown demanded interpreted
    | some packet =>
      obtain ⟨target, rfl⟩ := Resolver.namesBodies_basic.pdu function .command packet named
      rw [named] at demanded interpreted
      dsimp only at demanded interpreted
      rw [Packet.decodeInto_body] at demanded interpreted
      cases taken : target.decode framer.order body with
      | error reason =>
        rw [taken] at demanded interpreted
        exact .malformed demanded interpreted
      | ok result =>
        rw [taken] at demanded interpreted
        obtain ⟨-, kind, fits⟩ := Body.eq_encode_append_of_decode taken
        exact .call named kind fits demanded interpreted

/-- A slave before a register map replies to a frame with a PDU that answers it. -/
theorem Slave.exists_answering {framer : Framer} (basic : framer.resolver = Resolver.basic)
    {request : Bytes} (whole : Frame.IsWhole framer.order request) (holds : Frame.hasPdu request)
    (map : RegisterMap) (endpoint : Endpoint) :
    ∃ inbound next pdu asked, framer.interpret request = .ok inbound ∧ request[9]? = some asked ∧
      pdu.Answering asked ∧ handle RegisterMap.service endpoint map inbound =
        { state := next, reply := some (inbound.frame.reply pdu) } := by
  obtain ⟨header, function, names, -, hears⟩ := Framer.exists_hears basic whole holds
  cases hears with
  | unknown demands interprets =>
    exact ⟨_, map, _, function, interprets, names, Pdu.answering_exception function _, rfl⟩
  | malformed demands interprets =>
    exact ⟨_, map, _, function, interprets, names, Pdu.answering_exception function _, rfl⟩
  | call named kind fits demands interprets =>
    exact ⟨_, _, _, function, interprets, names, answering_of_call map header.unit named kind, rfl⟩

/-- **Every reply of a slave before a register map is understood.**  Whatever a whole frame with a PDU
asks, in either byte order and whatever the map holds, the slave sends one frame back and goes on.  The
length field of the reply counts what follows it, the reply is no longer than 261 bytes, and a client
with the basic factory reads it to its end as the same frame.  What it carries is an exception if its
function byte is marked, and otherwise what the function of the request is answered with. -/
theorem Slave.reply_is_understood (config : ServerConfig) (map : RegisterMap) (endpoint : Endpoint)
    {request : Bytes} (whole : Frame.IsWhole config.order request) (holds : Frame.hasPdu request)
    (fits : request.length ≤ config.maxFrame) :
    let (served, replies) :=
      (connection config {} map).receive (handle RegisterMap.service endpoint) request
    served.ending = none ∧ ∃ reply read function content, replies = [reply] ∧
      let bytes := reply.encode config.order
      config.order.read ((bytes.drop 6).take 2) = (bytes.drop 8).length ∧ bytes.length ≤ 261 ∧
      Frame.decode ({} : FrameFactory).resolver .response config.order bytes = .ok (read, []) ∧
      read.toPacket.same reply.toPacket ∧ read.pdu? = some ⟨function, some (.body content)⟩ ∧
      responseKind? function = some content.kind ∧ (content.kind = .exception ↔ isFlagged function) ∧
      (¬isFlagged function → request[9]? = some function) := by
  have basic : (framer config {}).resolver = Resolver.basic := Resolver.firstOf_singleton Resolver.basic
  obtain ⟨inbound, next, pdu, asked, interpreted, names, answering, turn⟩ :=
    exists_answering basic whole holds map endpoint
  have received :=
    Connection.receive_of_isWhole (connection config {} map) rfl rfl whole fits interpreted turn
  obtain ⟨content, carried, kind⟩ := answering.kind
  have marked := responseKind?_eq_exception_iff kind
  -- The reply is spelled with the ids of the request, and it is as long as it says.
  let header : Mbap := { inbound.frame.header with declared := none }
  have small := answering.frameLength_le
  have isWhole := Frame.isWhole_encode config.order header small
  have decoded : Frame.decode Resolver.basic .response config.order
      ((Frame.mk header (some pdu.toPacket)).encode config.order) = _ :=
    Frame.decode_encode_alone (fun _ => rfl) answering.resolved
  rw [received]
  refine ⟨rfl, inbound.frame.reply pdu, .readBack header pdu, pdu.function, content, rfl, ?_, ?_, ?_,
    ?_, ?_, kind, marked, ?_⟩
  · obtain ⟨ids, length, tail, spelled, exact⟩ := isWhole.exists_spell
    show config.order.read ((List.drop 6 ((Frame.mk header _).encode _)).take 2) = _
    rw [show (Frame.reply inbound.frame pdu).encode config.order = _ from spelled, spelled,
      Mbap.read_spell, Mbap.drop_spell, exact]
  · exact Nat.le_trans (Nat.le_of_eq Frame.length_encode_pdu) small
  · show Frame.decode (Resolver.firstOf [Resolver.basic]) .response _ _ = _
    rw [Resolver.firstOf_singleton]
    exact decoded
  · exact Frame.same_readBack header pdu
  · rw [← carried]
    exact Pdu.ofPacket?_toPacket pdu
  · intro unmarked
    rcases answering.function with same | same
    · rw [same]
      exact names
    · rw [same] at unmarked
      exact absurd (isFlagged_or_exceptionFlag asked) unmarked

/-- A padded request for an input register: the padding is gone from the reply, which is read to its end
as the word that the map holds. -/
theorem Slave.padded_read_is_understood :
    let map := RegisterMap.set {} 5 300
    let endpoint : Endpoint := ⟨.v4 0, 502⟩
    let request : Bytes := [0, 1, 0, 0, 0, 0, 0, 8, 17, 4, 0, 5, 0, 1, 255, 255]
    let (served, replies) := (connection {} {} map).receive (handle RegisterMap.service endpoint) request
    served.ending = none ∧ ∃ reply read, replies = [reply] ∧
      reply.encode .big = [0, 1, 0, 0, 0, 0, 0, 5, 17, 4, 2, 1, 44] ∧
      Frame.decode ({} : FrameFactory).resolver .response .big (reply.encode .big) = .ok (read, []) ∧
      read.pdu? = some ⟨4, some (.body (.registerValues [1, 44]))⟩ := by
  intro map endpoint request
  have holds : map.get? = fun address => if 5 = address then some 300 else none := by
    funext address
    show map.get? address = _
    rw [RegisterMap.get?_set, RegisterMap.get?_empty]
  have found : Registers.words? map.get? 5 (1 : UInt16).toNat = some [300] := by
    rw [holds]
    rfl
  have answers : RegisterMap.service ⟨17, .readInputRegisters, .body (.readRegisters 5 1)⟩ map =
      (.ok (.body (.registerValues [1, 44])), map) :=
    RegisterMap.service_eq_ok (RegisterMap.answer_readRegisters (by decide) (by decide) found) 17 _
  have whole : Frame.IsWhole .big request := by
    unfold Frame.IsWhole
    decide
  let asked : Frame := ⟨{ transactionId := 1, unit := 17, declared := some 8 },
    some (Pdu.ofFunction .readInputRegisters (.body (.readRegisters 5 1))).toPacket⟩
  have turn : handle RegisterMap.service endpoint map (.request asked) =
      { state := map, reply := some (asked.reply ⟨4, some (.body (.registerValues [1, 44]))⟩) } := by
    have carries : asked.pdu? = some (Pdu.ofFunction .readInputRegisters (.body (.readRegisters 5 1))) :=
      Pdu.ofPacket?_toPacket (Pdu.ofFunction .readInputRegisters (.body (.readRegisters 5 1)))
    rw [handle, carries]
    dsimp only [Pdu.ofFunction, Pdu.functionCode]
    rw [show FunctionCode.ofByte _ = .readInputRegisters from rfl, answers]
    rfl
  have understood := reply_is_understood {} map endpoint whole rfl (by decide)
  have interpreted : (framer {} {}).interpret request = .ok (.request asked) := by cbv
  have received := Connection.receive_of_isWhole (connection {} {} map) rfl rfl whole (by decide)
    interpreted turn
  rw [received] at understood ⊢
  obtain ⟨goesOn, reply, read, function, content, replied, -, -, decoded, -⟩ := understood
  obtain rfl := List.singleton_inj.mp replied
  have carried : (Frame.decode ({} : FrameFactory).resolver .response .big
      ((asked.reply ⟨4, some (.body (.registerValues [1, 44]))⟩).encode .big)).map (·.1.pdu?) =
        .ok (some ⟨4, some (.body (.registerValues [1, 44]))⟩) := by cbv
  refine ⟨goesOn, _, read, rfl, by decide, decoded, ?_⟩
  rw [show Frame.decode _ _ ByteOrder.big _ = _ from decoded] at carried
  exact Except.ok.inj carried

end ModbusTcp
