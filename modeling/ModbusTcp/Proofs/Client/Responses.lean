import ModbusTcp.Proofs.Client.Definitions
import ModbusTcp.Proofs.Packet.Places
import ModbusTcp.Proofs.Server.Replies

/-!
# What a response comes to

A client writes the request of a call and reads a whole frame in response, which may be anything: without a
PDU, with the function of another call, cut short, or longer than it has to be.  What becomes of the call is
told from where the bytes of that frame stand.

* `Response.payload?` — the payload of a response by its function byte; `Response.Carries` says that it is
  there, `Response.IsCut` that it is not.
* `Call.function`, `Call.content`, `Call.WithinLimits` — the request of a call.
* `Client.AnsweredWith` — a client that gets a frame in response to a call.
* `Call.Judged`, `Client.judged_perform` — what can become of the call.
* **`Client.perform_classifies`** — which it is, for each frame.
-/

namespace ModbusTcp

/-- A function byte is marked, or it is one without the mark. -/
theorem isFlagged_cases (function : UInt8) :
    ¬isFlagged function ∧ function = withoutFlag function ∨
      isFlagged function ∧ function = withoutFlag function ||| exceptionFlag := by
  have bytes : ∀ code : Fin 256, let function := UInt8.ofBitVec (.ofFin code)
      ¬isFlagged function ∧ function = withoutFlag function ∨
        isFlagged function ∧ function = withoutFlag function ||| exceptionFlag := by
    decide +kernel
  exact bytes function.toBitVec.toFin

/-! ### The payload of a response -/

namespace Response

variable {order : ByteOrder} {function : UInt8} {bytes : Bytes} {width : Nat} {content : Body}

/-- The payload of a response by its function byte: how many of the bytes behind that it takes, and what
they say if they are there.  An exception is a code; registers that have been read are as many bytes as the
first one says; what has been written is told in two words.  Other functions have no payload. -/
def payload? (order : ByteOrder) (function : UInt8) (bytes : Bytes) : Option (Nat × Body) :=
  let first := bytes[0]?.getD 0
  if isFlagged function then some (1, .exception first)
  else if function = 0x03 ∨ function = 0x04 then
    some (1 + first.toNat, .registerValues ((bytes.drop 1).take first.toNat))
  else if function = 0x06 then
    some (4, .writeRegister (order.wordAt bytes 0) (order.wordAt bytes 2))
  else if function = 0x10 then
    some (4, .multipleWritten (order.wordAt bytes 0) (order.wordAt bytes 2))
  else none

/-- The payload that a function byte selects is there. -/
def Carries (order : ByteOrder) (function : UInt8) (bytes : Bytes) (content : Body) : Prop :=
  ∃ width, payload? order function bytes = some (width, content) ∧ width ≤ bytes.length

/-- The payload that a function byte selects is not all there. -/
def IsCut (order : ByteOrder) (function : UInt8) (bytes : Bytes) : Prop :=
  ∃ width content, payload? order function bytes = some (width, content) ∧ bytes.length < width

theorem Carries.not_isCut (carries : Carries order function bytes content) : ¬IsCut order function bytes := by
  rintro ⟨width, content', known, short⟩
  obtain ⟨width', known', enough⟩ := carries
  rw [known] at known'
  obtain ⟨rfl, -⟩ := Prod.mk.inj (Option.some.inj known')
  omega

theorem Carries.unique {content' : Body} (carries : Carries order function bytes content)
    (carries' : Carries order function bytes content') : content = content' := by
  obtain ⟨width, known, -⟩ := carries
  obtain ⟨width', known', -⟩ := carries'
  exact (Prod.mk.inj (Option.some.inj (known.symm.trans known'))).2

theorem payload?_of_flagged (flagged : isFlagged function) :
    payload? order function bytes = some (1, .exception (bytes[0]?.getD 0)) := if_pos flagged

/-- A marked response carries the code that follows its function byte. -/
theorem carries_exception {frame : Bytes} {offset : Nat} {code : UInt8} (flagged : isFlagged function)
    (there : frame[offset]? = some code) : Carries order function (frame.drop offset) (.exception code) := by
  have first : (frame.drop offset)[0]? = some code := by rwa [List.getElem?_drop]
  refine ⟨1, ?_, (List.getElem?_eq_some_iff.mp first).1⟩
  rw [payload?_of_flagged flagged, first, Option.getD_some]

/-- A payload is read as its function byte says. -/
theorem exists_decode_eq (known : payload? order function bytes = some (width, content)) :
    ∃ target, Resolver.basic (.pdu function) .response = some (.body target) ∧
      target.decode order bytes =
        if width ≤ bytes.length then .ok (content, bytes.drop width) else .error .endOfInput := by
  rw [payload?] at known
  by_cases flagged : isFlagged function
  · rw [if_pos flagged] at known
    obtain ⟨rfl, rfl⟩ := Prod.mk.inj (Option.some.inj known)
    refine ⟨_, Resolver.basic_response_of_flagged flagged, ?_⟩
    cases bytes <;> rfl
  rw [if_neg flagged] at known
  by_cases reads : function = 0x03 ∨ function = 0x04
  · rw [if_pos reads] at known
    obtain ⟨rfl, rfl⟩ := Prod.mk.inj (Option.some.inj known)
    refine ⟨.registerValues [], by rcases reads with rfl | rfl <;> rfl, ?_⟩
    rw [Body.decode_registerValues]
    cases bytes with
    | nil => rfl
    | cons count rest => rfl
  rw [if_neg reads] at known
  by_cases writes : function = 0x06
  · subst writes
    rw [if_pos rfl] at known
    obtain ⟨rfl, rfl⟩ := Prod.mk.inj (Option.some.inj known)
    exact ⟨_, FunctionCode.isBasic_writeSingleRegister.response,
      takeTwoWords_eq Body.writeRegister order bytes⟩
  rw [if_neg writes] at known
  by_cases writesMultiple : function = 0x10
  · subst writesMultiple
    rw [if_pos rfl] at known
    obtain ⟨rfl, rfl⟩ := Prod.mk.inj (Option.some.inj known)
    exact ⟨_, FunctionCode.isBasic_writeMultipleRegisters.response,
      takeTwoWords_eq Body.multipleWritten order bytes⟩
  · rw [if_neg writesMultiple] at known
    exact nomatch known

/-- A function byte that selects no payload is none of the register model. -/
theorem basic_eq_none (unknown : payload? order function bytes = none) :
    Resolver.basic (.pdu function) .response = none := by
  have unmarked : ¬isFlagged function := by
    intro flagged
    rw [payload?_of_flagged flagged] at unknown
    exact nomatch unknown
  have other : function ∉ [0x03, 0x04, 0x06, 0x10] := by
    intro member
    simp only [List.mem_cons, List.not_mem_nil, or_false] at member
    rcases member with rfl | rfl | rfl | rfl <;> exact nomatch unknown
  exact (if_neg fun both => unmarked both.2).trans (Resolver.lookUp_basicTable_of_unknown other .response)

end Response

namespace Frame

variable {order : ByteOrder} {function unit : UInt8} {body : Bytes} {ids : Mbap} {length : UInt16}

/-- Reading a frame that goes on behind its function byte gives a PDU with that byte, or fails. -/
theorem decode_response_cases (others : List Resolver) (order : ByteOrder) (room : 1 < length) (ids : Mbap)
    (unit function : UInt8) (body : Bytes) :
    let decoded := decode (.firstOf (Resolver.basic :: others)) .response order
      (ids.spell order length (unit :: function :: body))
    (∃ payload rest,
        decoded = .ok (⟨headerOf ids unit length, some (Pdu.mk function payload).toPacket⟩, rest)) ∨
      ∃ reason, decoded = .error reason := by
  intro decoded
  have step : decoded = _ := decode_spell room ids unit (function :: body)
  rw [step, Resolver.firstOf_of_basic rfl]
  dsimp only
  rw [Packet.empty, Packet.decodeInto_pdu]
  cases Resolver.firstOf (Resolver.basic :: others) (.pdu function) .response with
  | none => exact .inl ⟨none, _, rfl⟩
  | some payload =>
    dsimp only
    cases Packet.decodeInto _ _ _ payload body with
    | ok result => exact .inl ⟨some result.1, _, rfl⟩
    | error reason => exact .inr ⟨reason, rfl⟩

/-- Reading a frame whose function byte selects a payload gives that payload, or fails if it is cut. -/
theorem decode_response_of_known (others : List Resolver) (room : 1 < length) {width : Nat} {content : Body}
    (known : Response.payload? order function body = some (width, content)) :
    decode (.firstOf (Resolver.basic :: others)) .response order
        (ids.spell order length (unit :: function :: body)) =
      if width ≤ body.length then
        .ok (⟨headerOf ids unit length, some (Pdu.mk function (some (.body content))).toPacket⟩,
          body.drop width)
      else .error .endOfInput := by
  obtain ⟨target, named, decoded⟩ := Response.exists_decode_eq known
  rw [decode_spell room, Resolver.firstOf_of_basic rfl]
  dsimp only
  rw [Packet.empty, Packet.decodeInto_pdu, Resolver.firstOf_of_basic named]
  dsimp only
  rw [Packet.decodeInto_body, decoded]
  by_cases enough : width ≤ body.length
  · rw [if_pos enough, if_pos enough]
    rfl
  · rw [if_neg enough, if_neg enough]
    rfl

/-- Reading a frame whose function byte selects no payload gives a PDU without one. -/
theorem decode_response_of_unknown (room : 1 < length)
    (unknown : Response.payload? order function body = none) :
    decode (.firstOf [Resolver.basic]) .response order (ids.spell order length (unit :: function :: body)) =
      .ok (⟨headerOf ids unit length, some (Pdu.mk function none).toPacket⟩, body) := by
  rw [Resolver.firstOf_singleton, decode_spell room,
    show Resolver.basic (.mbap _) _ = some (.bare (.pdu 0)) from rfl]
  dsimp only
  rw [Packet.decodeInto_pdu, Response.basic_eq_none unknown]
  rfl

end Frame

/-! ### The request of a call -/

namespace Call

/-- The unit that a call is for. -/
def unit : Call → UInt8
  | .read unit .. | .write unit .. | .writeMultiple unit .. => unit

/-- The function of a call. -/
def function : Call → FunctionCode
  | .read .. => .readHoldingRegisters
  | .write .. => .writeSingleRegister
  | .writeMultiple .. => .writeMultipleRegisters

/-- What a call says about registers. -/
def content : Call → Body
  | .read _ start count => .readRegisters start count
  | .write _ address value => .writeRegister address value
  | .writeMultiple _ start values => .writeMultiple start values

/-- The request of a call. -/
def request (call : Call) (factory : FrameFactory) : Frame :=
  (factory.next call.unit call.function (.body call.content)).1

/-- A call that its client does not turn away. -/
def WithinLimits : Call → Prop
  | .read _ _ count => 1 ≤ count.toNat ∧ count.toNat ≤ 0x7D
  | .write .. => True
  | .writeMultiple _ _ values => 1 ≤ values.length ∧ values.length ≤ 0x7B

instance : (call : Call) → Decidable call.WithinLimits
  | .read _ _ count => inferInstanceAs (Decidable (1 ≤ count.toNat ∧ count.toNat ≤ 0x7D))
  | .write .. => inferInstanceAs (Decidable True)
  | .writeMultiple _ _ values => inferInstanceAs (Decidable (1 ≤ values.length ∧ values.length ≤ 0x7B))

theorem isFlagged_function : (call : Call) → ¬isFlagged call.function.value
  | .read .. => show ¬isFlagged 0x03 by decide
  | .write .. => show ¬isFlagged 0x06 by decide
  | .writeMultiple .. => show ¬isFlagged 0x10 by decide

theorem withoutFlag_function : (call : Call) → withoutFlag call.function.value = call.function.value
  | .read .. => FunctionCode.isBasic_readHoldingRegisters.withoutFlag_value
  | .write .. => FunctionCode.isBasic_writeSingleRegister.withoutFlag_value
  | .writeMultiple .. => FunctionCode.isBasic_writeMultipleRegisters.withoutFlag_value

/-- A function byte is the one of a call, marked or not, or without its mark it is another one. -/
theorem function_cases (call : Call) (function : UInt8) :
    function = call.function.value ∨ function = call.function.value ||| exceptionFlag ∨
      withoutFlag function ≠ call.function.value := by
  by_cases same : withoutFlag function = call.function.value
  · rcases isFlagged_cases function with ⟨-, unmarked⟩ | ⟨-, marked⟩
    · exact .inl (unmarked.trans same)
    · exact .inr (.inl (same ▸ marked))
  · exact .inr (.inr same)

theorem function_ne_marked (call : Call) :
    call.function.value ≠ call.function.value ||| exceptionFlag := by
  intro same
  apply call.isFlagged_function
  rw [same]
  exact isFlagged_or_exceptionFlag _

variable {call : Call}

theorem build_operation (within : call.WithinLimits) (factory : FrameFactory) :
    call.operation.build factory = .ok (factory.next call.unit call.function (.body call.content)) := by
  cases call with
  | read unit start count => exact Operation.build_readRange unit start within.1 within.2 factory
  | write unit address value => rfl
  | writeMultiple unit start values =>
    exact Operation.build_writeMultiple unit start within.1 within.2 factory

/-- A call outside the limits is turned away. -/
theorem exists_build_eq_error (outside : ¬call.WithinLimits) (factory : FrameFactory) :
    ∃ reason, call.operation.build factory = .error (.protocol reason) := by
  have checked {count max : Nat} (outside : ¬(1 ≤ count ∧ count ≤ max)) (next : Frame × FrameFactory) :
      ∃ reason, (do Operation.checked count max; return next : Except Error _) =
        .error (.protocol reason) := by
    cases counted : checkCount count max with
    | ok _ => exact absurd (checkCount_eq_ok_iff.mp counted) outside
    | error reason =>
      rw [Operation.checked, counted]
      exact ⟨reason, rfl⟩
  cases call with
  | read unit start count => exact checked outside _
  | write unit address value => exact absurd trivial outside
  | writeMultiple unit start values => exact checked outside _

theorem checkLimits_eq_ok (within : call.WithinLimits) :
    (Pdu.ofFunction call.function (.body call.content)).checkLimits = .ok () := by
  cases call with
  | read unit start count => exact checkCount_eq_ok_iff.mpr within
  | write unit address value => rfl
  | writeMultiple unit start values => exact checkCount_eq_ok_iff.mpr within

end Call

/-- The bytes of registers that a body holds. -/
def Body.registers? : Body → Option Bytes
  | .registerValues bytes => some bytes
  | _ => none

namespace Call

variable {call : Call} {order : ByteOrder} {bytes : Bytes} {content : Body}

/-- The payload that answers a call: how many of the bytes behind the function byte it takes, and what they
say if they are there. -/
def payload (call : Call) (order : ByteOrder) (bytes : Bytes) : Nat × Body :=
  match call with
  | .read .. =>
    let count := (bytes[0]?.getD 0).toNat
    (1 + count, .registerValues ((bytes.drop 1).take count))
  | .write .. => (4, .writeRegister (order.wordAt bytes 0) (order.wordAt bytes 2))
  | .writeMultiple .. => (4, .multipleWritten (order.wordAt bytes 0) (order.wordAt bytes 2))

/-- The function of a call selects the payload that answers it. -/
theorem payload?_function (call : Call) (order : ByteOrder) (bytes : Bytes) :
    Response.payload? order call.function.value bytes = some (call.payload order bytes) := by
  rw [Response.payload?, if_neg call.isFlagged_function]
  cases call <;> rfl

theorem carries_iff : Response.Carries order call.function.value bytes content ↔
    (call.payload order bytes).2 = content ∧ (call.payload order bytes).1 ≤ bytes.length := by
  rw [Response.Carries, payload?_function]
  constructor
  · rintro ⟨width, known, enough⟩
    rw [Option.some.inj known]
    exact ⟨rfl, enough⟩
  · rintro ⟨rfl, enough⟩
    exact ⟨_, rfl, enough⟩

/-- What a call makes of a response. -/
def judge (call : Call) (factory : FrameFactory) (response : Frame) : Call.Result :=
  Client.classify response >>= call.operation.interpret (call.request factory)

section Judge

variable (factory : FrameFactory) (header : Mbap)

/-- A response with another function is a protocol error, whatever it carries. -/
theorem exists_judge_other {function : UInt8} (other : withoutFlag function ≠ call.function.value)
    (payload : Option Packet) :
    ∃ reason, call.judge factory ⟨header, some (Pdu.mk function payload).toPacket⟩ =
      .error (.protocol reason) := by
  cases payload with
  | none => exact ⟨_, rfl⟩
  | some payload =>
    have heard : call.judge factory ⟨header, some (Pdu.mk function (some payload)).toPacket⟩ = _ :=
      if_pos other
    exact ⟨_, heard⟩

/-- A response with the function of the call and a payload of any kind is looked at by its kind. -/
theorem judge_body {function : UInt8} (own : withoutFlag function = call.function.value) (content : Body) :
    call.judge factory ⟨header, some (Pdu.mk function (some (.body content))).toPacket⟩ =
      match content with
      | .exception code => .ok (.exception code)
      | content => (call.operation.accept (.body content)).map .value := by
  have heard : call.judge factory ⟨header, some (Pdu.mk function (some (.body content))).toPacket⟩ = _ :=
    if_neg (not_not_intro own)
  rw [heard]
  cases content <;> rfl

/-- The payload that the function of a call selects is accepted. -/
theorem judge_of_carries (carries : Response.Carries order call.function.value bytes content) :
    call.judge factory ⟨header, some (Pdu.mk call.function.value (some (.body content))).toPacket⟩ =
      .ok (.value content.registers?) := by
  rw [judge_body factory header call.withoutFlag_function]
  obtain ⟨rfl, -⟩ := carries_iff.mp carries
  cases call <;> rfl

end Judge

/-- What can become of a call whose client reads a frame in response, and whether the client is connected
afterwards, if there are other resolvers behind the register model. -/
inductive Judged (call : Call) (order : ByteOrder) (others : List Resolver) (connected : Bool)
    (frame : Bytes) : Call.Result → Bool → Prop
  /-- The peer refuses with an exception. -/
  | refused {code : UInt8} (stands : frame[9]? = some (call.function.value ||| exceptionFlag))
      (there : frame[10]? = some code) :
      Judged call order others connected frame (.ok (.exception code)) connected
  /-- The response has the function of the call, and its payload is there. -/
  | accepted {content : Body} (stands : frame[9]? = some call.function.value)
      (carries : Response.Carries order call.function.value (frame.drop 10) content) :
      Judged call order others connected frame (.ok (.value content.registers?)) connected
  /-- The frame ends within the payload that its function selects. -/
  | cut {function : UInt8} {reason : IoError} (stands : frame[9]? = some function)
      (cut : Response.IsCut order function (frame.drop 10)) :
      Judged call order others connected frame (.error (.reception reason)) false
  /-- There is no PDU, or one with another function, which the register model knows or nobody knows. -/
  | strange {reason : ProtocolError}
      (stands : ∀ function, frame[9]? = some function → withoutFlag function ≠ call.function.value ∧
        ¬Response.IsCut order function (frame.drop 10)) :
      Judged call order others connected frame (.error (.protocol reason)) connected
  /-- There is a PDU with another function, which only another resolver knows. -/
  | foreign {function : UInt8} {error : Error} {stays : Bool} (stands : frame[9]? = some function)
      (other : withoutFlag function ≠ call.function.value) (known : others ≠ [])
      (kind : (∃ reason, error = .protocol reason) ∨ ∃ reason, error = .reception reason) :
      Judged call order others connected frame (.error error) stays

variable {others : List Resolver} {connected : Bool} {frame : Bytes} {function : UInt8}

/-- A response whose payload is there. -/
theorem judged_of_carries (factory : FrameFactory) (header : Mbap) (stands : frame[9]? = some function)
    (carries : Response.Carries order function (frame.drop 10) content) :
    call.Judged order others connected frame
      (call.judge factory ⟨header, some (Pdu.mk function (some (.body content))).toPacket⟩) connected := by
  rcases call.function_cases function with rfl | rfl | other
  · rw [judge_of_carries factory header carries]
    exact .accepted stands carries
  · obtain ⟨width, known, enough⟩ := carries
    rw [Response.payload?_of_flagged (isFlagged_or_exceptionFlag _)] at known
    obtain ⟨rfl, rfl⟩ := Prod.mk.inj (Option.some.inj known)
    have there : frame[10]? = some ((frame.drop 10)[0]?.getD 0) := by
      rw [List.getElem?_eq_getElem enough, Option.getD_some, ← List.getElem?_eq_getElem enough,
        List.getElem?_drop]
    rw [judge_body factory header ((withoutFlag_or_exceptionFlag _).trans call.withoutFlag_function)]
    exact .refused stands there
  · obtain ⟨reason, judged⟩ := exists_judge_other factory header other (some (.body content))
    rw [judged]
    refine .strange fun function' stands' => ?_
    obtain rfl : function = function' := Option.some.inj (stands.symm.trans stands')
    exact ⟨other, carries.not_isCut⟩

namespace Judged

variable {result : Call.Result} {stays : Bool}

/-- A call is refused exactly by a marked response with a code. -/
theorem refused_iff (judged : call.Judged order others connected frame result stays) (code : UInt8) :
    result = .ok (.exception code) ↔
      frame[9]? = some (call.function.value ||| exceptionFlag) ∧ frame[10]? = some code := by
  constructor
  · rintro rfl
    cases judged with
    | refused stands there => exact ⟨stands, there⟩
  · rintro ⟨marked, there⟩
    have own : withoutFlag (call.function.value ||| exceptionFlag) = call.function.value :=
      (withoutFlag_or_exceptionFlag _).trans call.withoutFlag_function
    cases judged with
    | refused _ there' => rw [Option.some.inj (there.symm.trans there')]
    | accepted stands => exact absurd (Option.some.inj (stands.symm.trans marked)) call.function_ne_marked
    | cut stands cut =>
      obtain rfl := Option.some.inj (stands.symm.trans marked)
      exact absurd cut (Response.carries_exception (isFlagged_or_exceptionFlag _) there).not_isCut
    | strange stands => exact absurd own (stands _ marked).1
    | foreign stands other =>
      obtain rfl := Option.some.inj (stands.symm.trans marked)
      exact absurd own other

/-- A call succeeds exactly with the payload of its own function. -/
theorem accepted_iff (judged : call.Judged order others connected frame result stays)
    (value : Option Bytes) :
    result = .ok (.value value) ↔ frame[9]? = some call.function.value ∧
      ∃ content, Response.Carries order call.function.value (frame.drop 10) content ∧
        value = content.registers? := by
  constructor
  · rintro rfl
    cases judged with
    | accepted stands carries => exact ⟨stands, _, carries, rfl⟩
  · rintro ⟨own, content, carries, rfl⟩
    cases judged with
    | refused stands => exact absurd (Option.some.inj (own.symm.trans stands)) call.function_ne_marked
    | accepted _ carries' => rw [carries.unique carries']
    | cut stands cut =>
      obtain rfl := Option.some.inj (stands.symm.trans own)
      exact absurd cut carries.not_isCut
    | strange stands => exact absurd call.withoutFlag_function (stands _ own).1
    | foreign stands other =>
      obtain rfl := Option.some.inj (stands.symm.trans own)
      exact absurd call.withoutFlag_function other

/-- If nothing is known but the register model, reading the response fails exactly if it is cut. -/
theorem cut_iff (judged : call.Judged order [] connected frame result stays) :
    (∃ reason, result = .error (.reception reason)) ↔
      ∃ function, frame[9]? = some function ∧ Response.IsCut order function (frame.drop 10) := by
  constructor
  · rintro ⟨reason, rfl⟩
    cases judged with
    | cut stands cut => exact ⟨_, stands, cut⟩
    | foreign _ _ known => exact absurd rfl known
  · rintro ⟨function, stands, cut⟩
    cases judged with
    | refused marked there =>
      obtain rfl := Option.some.inj (stands.symm.trans marked)
      exact absurd cut (Response.carries_exception (isFlagged_or_exceptionFlag _) there).not_isCut
    | accepted own carries =>
      obtain rfl := Option.some.inj (stands.symm.trans own)
      exact absurd cut carries.not_isCut
    | cut => exact ⟨_, rfl⟩
    | strange other => exact absurd cut (other _ stands).2
    | foreign _ _ known => exact absurd rfl known

/-- A response without a PDU or with another function is an error. -/
theorem fails_of_other (judged : call.Judged order others connected frame result stays)
    (other : frame[9]? ≠ some call.function.value)
    (otherMarked : frame[9]? ≠ some (call.function.value ||| exceptionFlag)) :
    (∃ reason, result = .error (.protocol reason)) ∨ ∃ reason, result = .error (.reception reason) := by
  cases judged with
  | refused stands => exact absurd stands otherMarked
  | accepted stands => exact absurd stands other
  | cut => exact .inr ⟨_, rfl⟩
  | strange => exact .inl ⟨_, rfl⟩
  | foreign _ _ _ kind =>
    rcases kind with ⟨reason, rfl⟩ | ⟨reason, rfl⟩
    · exact .inl ⟨reason, rfl⟩
    · exact .inr ⟨reason, rfl⟩

/-- There is nothing else that a call comes to, and the client stays connected unless reading has failed. -/
theorem exhaustive (judged : call.Judged order [] connected frame result stays) :
    ((∃ code, result = .ok (.exception code)) ∨ (∃ value, result = .ok (.value value)) ∨
        ∃ reason, result = .error (.protocol reason)) ∧ stays = connected ∨
      (∃ reason, result = .error (.reception reason)) ∧ stays = false := by
  cases judged with
  | refused => exact .inl ⟨.inl ⟨_, rfl⟩, rfl⟩
  | accepted => exact .inl ⟨.inr (.inl ⟨_, rfl⟩), rfl⟩
  | cut => exact .inr ⟨⟨_, rfl⟩, rfl⟩
  | strange => exact .inl ⟨.inr (.inr ⟨_, rfl⟩), rfl⟩
  | foreign _ _ known => exact absurd rfl known

end Judged

end Call

/-! ### What becomes of a call -/

namespace Client

variable {σ : Type} {client : Client σ} {peer : Peer σ} {call : Call} {frame : Bytes}

/-- A client has a link to a peer.  When it writes the request of a call within the limits, a whole frame
of allowed size is there to be read, with anything behind it.  Like every factory, its one knows the
register model first of all. -/
structure AnsweredWith (client : Client σ) (peer : Peer σ) (call : Call) (frame : Bytes) : Prop where
  within : call.WithinLimits
  basic : ∃ others, client.factory.resolvers = Resolver.basic :: others
  answers : ∃ link later, client.link = some link ∧
    (link.write peer ((call.request client.factory).encode client.config.order)).unread = frame ++ later
  whole : Frame.IsWhole client.config.order frame
  fits : frame.length ≤ client.config.maxFrame

/-- A whole frame of allowed size is read off a link, whatever follows it. -/
theorem receive_append (client : Client σ) {link : Link σ} {later : Bytes}
    (unread : link.unread = frame ++ later) (whole : Frame.IsWhole client.config.order frame)
    (fits : frame.length ≤ client.config.maxFrame) (waiting : Stop) :
    client.receive link waiting = client.conclude { link with unread := later } frame := by
  rw [receive, unread, pull_append whole fits]

/-- Only a whole frame of allowed size is read off a link. -/
theorem receive_cases (client : Client σ) (link : Link σ) (waiting : Stop) :
    (∃ frame, Frame.IsWhole client.config.order frame ∧ frame.length ≤ client.config.maxFrame ∧
        ∃ later, link.unread = frame ++ later) ∨
      ∃ error, (client.receive link waiting).1 = .error error := by
  rw [receive]
  cases pulled : pull client.config.order client.config.maxFrame link.unread with
  | frame bytes rest =>
    have enough : 8 ≤ client.config.maxFrame := by
      refine Nat.le_of_not_lt fun small => ?_
      rw [pull_of_lt_eight small] at pulled
      cases pulled
    obtain ⟨whole, fits, same⟩ := isWhole_of_pull enough pulled
    exact .inl ⟨bytes, whole, fits, rest, same⟩
  | tooLarge length max => exact .inr ⟨_, rfl⟩
  | incomplete => exact .inr ⟨_, rfl⟩

/-- The frame is read off the link, and is the response to the request. -/
theorem AnsweredWith.perform_eq (answered : client.AnsweredWith peer call frame) (waiting : Stop) :
    ∃ link factory, let next : Client σ := { client with factory, link := none }
      client.perform peer call.operation { waiting } =
        match Frame.decode client.factory.resolver .response client.config.order frame with
        | .ok (response, _) => (call.judge client.factory response, next.keep link)
        | .error reason => (.error (.reception reason.toIoError), next.lose link) := by
  obtain ⟨within, -, ⟨link, later, owns, answers⟩, whole, fits⟩ := answered
  let factory := (client.factory.next call.unit call.function (.body call.content)).2
  let next : Client σ := { client with factory, link := none }
  let written := link.write peer ((call.request client.factory).encode client.config.order)
  have performs : client.perform peer call.operation { waiting } =
      ((next.receive written waiting).1 >>= call.operation.interpret (call.request client.factory),
        (next.receive written waiting).2) :=
    perform_eq_receive owns (Call.checkLimits_eq_ok within) (Call.build_operation within client.factory)
      peer waiting
  have received : next.receive written waiting = next.conclude { written with unread := later } frame :=
    receive_append next answers whole fits waiting
  refine ⟨{ written with unread := later }, factory, ?_⟩
  rw [performs, received, conclude, show next.factory.resolver = client.factory.resolver from rfl]
  cases Frame.decode client.factory.resolver .response client.config.order frame <;> rfl

/-- What becomes of a call is one of a few things. -/
theorem judged_perform (answered : client.AnsweredWith peer call frame) {others : List Resolver}
    (basic : client.factory.resolvers = Resolver.basic :: others) (waiting : Stop) :
    let performed := client.perform peer call.operation { waiting }
    call.Judged client.config.order others client.isConnected frame performed.1 performed.2.isConnected := by
  obtain ⟨link, factory, performs⟩ := answered.perform_eq waiting
  intro performed
  rw [show performed = _ from performs, FrameFactory.resolver, basic]
  rcases answered.whole.cases with
    ⟨ids, rfl⟩ | ⟨ids, unit, rfl⟩ | ⟨ids, unit, function, body, length, room, -, spelled⟩
  · rw [Frame.decode_spell_zero]
    exact .strange fun function stands =>
      absurd (stands.symm.trans (Mbap.getElem?_spell ids 0 [] 1)) (Option.some_ne_none function)
  · rw [Frame.decode_spell_one]
    exact .strange fun function stands =>
      absurd (stands.symm.trans (Mbap.getElem?_spell ids 1 [unit] 1)) (Option.some_ne_none function)
  · have stands : frame[9]? = some function := spelled ▸ Mbap.getElem?_spell ids length _ 1
    have behind : frame.drop 10 = body := by
      rw [spelled, ← List.drop_drop (i := 2) (j := 8), Mbap.drop_spell]
      rfl
    cases known : Response.payload? client.config.order function body with
    | some payload =>
      obtain ⟨width, content⟩ := payload
      rw [spelled, Frame.decode_response_of_known others room known, ← spelled]
      by_cases enough : width ≤ body.length
      · rw [if_pos enough]
        exact Call.judged_of_carries client.factory _ stands (behind.symm ▸ ⟨width, known, enough⟩)
      · rw [if_neg enough]
        exact .cut stands (behind.symm ▸ ⟨width, content, known, Nat.lt_of_not_le enough⟩)
    | none =>
      have other : withoutFlag function ≠ call.function.value := by
        rcases call.function_cases function with rfl | rfl | other
        · exact absurd ((call.payload?_function _ _).symm.trans known) (Option.some_ne_none _)
        · rw [Response.payload?_of_flagged (isFlagged_or_exceptionFlag _)] at known
          exact absurd known (Option.some_ne_none _)
        · exact other
      cases others with
      | nil =>
        obtain ⟨reason, judged⟩ := Call.exists_judge_other client.factory _ other none
        rw [spelled, Frame.decode_response_of_unknown room known, ← spelled]
        dsimp only
        rw [judged]
        refine .strange fun function' stands' => ?_
        obtain rfl : function = function' := Option.some.inj (stands.symm.trans stands')
        refine ⟨other, ?_⟩
        rintro ⟨width, content, selected, -⟩
        rw [behind, known] at selected
        exact absurd selected.symm (Option.some_ne_none _)
      | cons vendor others =>
        -- Whatever other resolvers make of it, the PDU keeps its function byte.
        rw [spelled]
        rcases Frame.decode_response_cases (vendor :: others) client.config.order room ids unit function body
          with ⟨payload, rest, decoded⟩ | ⟨reason, decoded⟩
        · obtain ⟨reason, judged⟩ := Call.exists_judge_other client.factory _ other payload
          rw [decoded, ← spelled]
          dsimp only
          rw [judged]
          exact .foreign stands other (List.cons_ne_nil _ _) (.inl ⟨_, rfl⟩)
        · rw [decoded, ← spelled]
          exact .foreign stands other (List.cons_ne_nil _ _) (.inr ⟨_, rfl⟩)

/-- **Every response is told apart by where its bytes stand.**  A connected client with the default
factory gets a whole frame of allowed size in answer to a call within the limits.  It reports an exception
exactly if the function byte is the one of the call with the mark and a code follows, and a value exactly if
it is the one of the call and its payload is all there.  Reading fails exactly if the frame ends within the
payload that its own function byte selects, and in all other cases there is a protocol error.  The client is
connected afterwards unless reading has failed. -/
theorem perform_classifies (answered : client.AnsweredWith peer call frame)
    (default : client.factory.resolvers = [Resolver.basic]) (connected : client.isConnected = true)
    (waiting : Stop) :
    let performed := client.perform peer call.operation { waiting }
    let own := call.function.value
    let order := client.config.order
    let refused (code : UInt8) := frame[9]? = some (own ||| exceptionFlag) ∧ frame[10]? = some code
    let complete := frame[9]? = some own ∧ ∃ content, Response.Carries order own (frame.drop 10) content
    let cut := ∃ function, frame[9]? = some function ∧ Response.IsCut order function (frame.drop 10)
    (∀ code, performed.1 = .ok (.exception code) ↔ refused code) ∧
      ((∃ value, performed.1 = .ok (.value value)) ↔ complete) ∧
      ((∃ reason, performed.1 = .error (.reception reason)) ↔ cut) ∧
      ((∃ reason, performed.1 = .error (.protocol reason)) ↔ (∀ code, ¬refused code) ∧ ¬complete ∧ ¬cut) ∧
      (performed.2.isConnected = true ↔ ¬∃ reason, performed.1 = .error (.reception reason)) := by
  intro performed own order refused complete cut
  have judged : call.Judged order [] client.isConnected frame performed.1 performed.2.isConnected :=
    judged_perform answered default waiting
  have exceptions := judged.refused_iff
  have values : (∃ value, performed.1 = .ok (.value value)) ↔ complete := by
    constructor
    · rintro ⟨value, comes⟩
      obtain ⟨stands, content, carries, -⟩ := (judged.accepted_iff value).mp comes
      exact ⟨stands, content, carries⟩
    · rintro ⟨stands, content, carries⟩
      exact ⟨_, (judged.accepted_iff _).mpr ⟨stands, content, carries, rfl⟩⟩
  have failures : (∃ reason, performed.1 = .error (.reception reason)) ↔ cut := judged.cut_iff
  refine ⟨exceptions, values, failures, ⟨?_, ?_⟩, ?_⟩
  · rintro ⟨reason, comes⟩
    rw [← values, ← failures]
    refine ⟨fun code is => ?_, ?_, ?_⟩
    · exact nomatch comes.symm.trans ((exceptions code).mpr is)
    · rintro ⟨value, comes'⟩
      exact nomatch comes.symm.trans comes'
    · rintro ⟨reason', comes'⟩
      exact nomatch comes.symm.trans comes'
  · rintro ⟨unrefused, incomplete, uncut⟩
    rcases judged.exhaustive with ⟨⟨code, comes⟩ | comes | comes, -⟩ | ⟨comes, -⟩
    · exact absurd ((exceptions code).mp comes) (unrefused code)
    · exact absurd (values.mp comes) incomplete
    · exact comes
    · exact absurd (failures.mp comes) uncut
  · rcases judged.exhaustive with ⟨comes, stays⟩ | ⟨comes, stays⟩
    · refine iff_of_true (stays.trans connected) ?_
      rintro ⟨reason, failed⟩
      rw [failed] at comes
      rcases comes with ⟨_, other⟩ | ⟨_, other⟩ | ⟨_, other⟩ <;> exact nomatch other
    · exact iff_of_false (fun open_ => nomatch stays.symm.trans open_) (not_not_intro comes)

/-- A client with a fresh link to a peer that gives one answer to whatever reaches it. -/
theorem answeredWith_of_answer (config : ClientConfig) (call : Call) (within : call.WithinLimits)
    (frame : Bytes) (whole : Frame.IsWhole config.order frame) (fits : frame.length ≤ config.maxFrame) :
    AnsweredWith { config, factory := {}, link := some { peer := () }, isConnected := true }
      ⟨fun _ _ => { state := (), answer := frame }⟩ call frame where
  within := within
  basic := ⟨[], rfl⟩
  answers := ⟨_, [], rfl, (List.append_nil frame).symm⟩
  whole := whole
  fits := fits

/-- Four answers to a client that reads one register: an exception, the register, the register cut short,
and what is answered to writing a register. -/
theorem perform_classifies_answers :
    let client : Client Unit :=
      { config := { host := "device" }, factory := {}, link := some { peer := () }, isConnected := true }
    let read (frame : Bytes) :=
      client.perform ⟨fun _ _ => { state := (), answer := frame }⟩ (Call.read 1 0 1).operation {}
    (read [0, 0, 0, 0, 0, 0, 0, 3, 1, 0x83, 2]).1 = .ok (.exception 2) ∧
      (∃ value, (read [0, 0, 0, 0, 0, 0, 0, 5, 1, 3, 2, 0, 7]).1 = .ok (.value value)) ∧
      (∃ reason, (read [0, 0, 0, 0, 0, 0, 0, 4, 1, 3, 2, 0]).1 = .error (.reception reason)) ∧
      (∃ reason, (read [0, 0, 0, 0, 0, 0, 0, 6, 1, 6, 0, 0, 0, 7]).1 = .error (.protocol reason)) ∧
      (read [0, 0, 0, 0, 0, 0, 0, 4, 1, 3, 2, 0]).2.isConnected = false ∧
      (read [0, 0, 0, 0, 0, 0, 0, 6, 1, 6, 0, 0, 0, 7]).2.isConnected = true := by
  intro client read
  have answered (frame : Bytes) (whole : Frame.IsWhole .big frame) (fits : frame.length ≤ 16384) :
      client.AnsweredWith ⟨fun _ _ => { state := (), answer := frame }⟩ (.read 1 0 1) frame :=
    answeredWith_of_answer { host := "device" } (.read 1 0 1) (by decide) frame whole fits
  have carries : Response.Carries .big 3 [2, 0, 7] (.registerValues [0, 7]) := ⟨3, by decide, by decide⟩
  have written : Response.Carries .big 6 [0, 0, 0, 7] (.writeRegister 0 7) := ⟨4, by decide, by decide⟩
  obtain ⟨refused, -⟩ := perform_classifies
    (answered [0, 0, 0, 0, 0, 0, 0, 3, 1, 0x83, 2] rfl (by decide)) rfl rfl .deadline
  obtain ⟨-, accepted, -⟩ := perform_classifies
    (answered [0, 0, 0, 0, 0, 0, 0, 5, 1, 3, 2, 0, 7] rfl (by decide)) rfl rfl .deadline
  obtain ⟨-, -, cut, -, lost⟩ := perform_classifies
    (answered [0, 0, 0, 0, 0, 0, 0, 4, 1, 3, 2, 0] rfl (by decide)) rfl rfl .deadline
  obtain ⟨-, -, -, strange, kept⟩ := perform_classifies
    (answered [0, 0, 0, 0, 0, 0, 0, 6, 1, 6, 0, 0, 0, 7] rfl (by decide)) rfl rfl .deadline
  have unread := cut.mpr ⟨3, rfl, 3, .registerValues [0], by decide, by decide⟩
  have other := strange.mpr ⟨fun code marked => absurd marked.1 (by decide),
    fun complete => absurd complete.1 (by decide), ?_⟩
  · refine ⟨(refused 2).mpr ⟨by decide, rfl⟩, accepted.mpr ⟨rfl, _, carries⟩, unread, other, ?_, ?_⟩
    · exact Bool.eq_false_iff.mpr fun stays => lost.mp stays unread
    · refine kept.mpr ?_
      rintro ⟨reason, failed⟩
      obtain ⟨reason', comes⟩ := other
      exact nomatch failed.symm.trans comes
  · rintro ⟨function, stands, short⟩
    obtain rfl : 6 = function := Option.some.inj stands
    exact written.not_isCut short

end Client

end ModbusTcp
