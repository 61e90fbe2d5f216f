import ModbusTcp.Proofs.Client.Definitions
import ModbusTcp.Proofs.Client.Transceive
import ModbusTcp.Proofs.Register.InPlace

/-!
# What writing definitions puts on a link

Definitions are encoded to a buffer, the buffer is read as words, and the request spells these words again.
Both readings go by the byte order of the connection, so the buffer is in the request as it is.  Definitions
that make no request put nothing on the link.

* `Circumstances.sends`, `Client.exists_links_transceive` — what a request puts on an open link.
* `FrameFactory.encode_writeMultiple` — the bytes of a request that writes a buffer.
* `Operation.build_writeDefinitions_invalid`, `Operation.build_writeDefinitions_beyond` — definitions that make
  no request; `Operation.writeDefinitions_eq` — only the writable ones count.
* **`Client.writeDefinitions_sends`** — all of it.
-/

namespace ModbusTcp

/-! ### Requests on an open link -/

/-- What a call sends of the bytes of its request. -/
def Circumstances.sends (circumstances : Circumstances) (bytes : Bytes) : Bytes :=
  if circumstances.cancelled then []
  else
    match circumstances.sending with
    | some (count, _) => bytes.take count
    | none => bytes

namespace Client

variable {σ : Type} {client : Client σ} {link : Link σ}

/-- Receiving writes nothing, whether or not the link is lost. -/
theorem exists_links_receive (client : Client σ) (link : Link σ) (waiting : Stop) :
    ∃ next, (client.receive link waiting).2.links = client.past ++ [next] ∧ next.written = link.written := by
  have kept (next : Link σ) : (client.keep next).links = client.past ++ [next] := rfl
  have lost (next : Link σ) : (client.lose next).links = client.past ++ [next] := List.append_nil _
  rw [receive]
  cases pull client.config.order client.config.maxFrame link.unread with
  | frame bytes rest =>
    dsimp only
    rw [conclude]
    cases Frame.decode client.factory.resolver .response client.config.order bytes with
    | ok result => exact ⟨_, kept _, rfl⟩
    | error reason => exact ⟨_, lost _, rfl⟩
  | tooLarge length max => exact ⟨_, lost _, rfl⟩
  | incomplete => exact ⟨_, lost _, rfl⟩

/-- A request within the limits is put on the link as far as it is sent, and nothing else is. -/
theorem exists_links_transceive (isOpen : client.link = some link) (peer : Peer σ) {request : Frame}
    (limits : ∀ pdu, request.pdu? = some pdu → pdu.checkLimits = .ok ()) (circumstances : Circumstances) :
    ∃ next, (client.transceive peer request circumstances).2.links = client.past ++ [next] ∧
      next.written = link.written ++ circumstances.sends (request.encode client.config.order) := by
  rw [Circumstances.sends]
  cases cancelled : circumstances.cancelled with
  | true =>
    have unchanged : (client.transceive peer request circumstances).2 = client := by
      rw [transceive, cancelled]
      rcases checkRequest_cases request true with ⟨_, _, _, _, checked⟩ | ⟨_, checked⟩
      · rw [checked]
        rfl
      · rw [checked]
        rfl
    refine ⟨link, ?_, (List.append_nil _).symm⟩
    rw [unchanged, links, isOpen]
    rfl
  | false =>
    rw [transceive, admitted_eq_ok isOpen limits cancelled, if_neg Bool.false_ne_true]
    dsimp only
    cases circumstances.sending with
    | some stop => exact ⟨_, List.append_nil _, rfl⟩
    | none => exact exists_links_receive _ _ _

/-- So is the request of an operation, once it has been built. -/
theorem exists_links_perform {α : Type} (isOpen : client.link = some link) (peer : Peer σ)
    {operation : Operation α} {built : Frame × FrameFactory}
    (builds : operation.build client.factory = .ok built)
    (limits : ∀ pdu, built.1.pdu? = some pdu → pdu.checkLimits = .ok ()) (circumstances : Circumstances) :
    ∃ next, (client.perform peer operation circumstances).2.links = client.past ++ [next] ∧
      next.written = link.written ++ circumstances.sends (built.1.encode client.config.order) := by
  have prepared : client.prepare operation = .ok (built.1, { client with factory := built.2 }) := by
    rw [prepare, builds]
    rfl
  have isOpen' : ({ client with factory := built.2 } : Client σ).link = some link := isOpen
  rw [perform, prepared]
  exact exists_links_transceive isOpen' peer limits circumstances

end Client

/-! ### The request -/

/-- The bytes of the next request that writes registers, with a buffer that holds their values. -/
def FrameFactory.writeBytes (factory : FrameFactory) (order : ByteOrder) (unit : UInt8) (start : UInt16)
    (buffer : Bytes) : Bytes :=
  order.word factory.nextId ++ order.word factory.protocolId ++ order.word 0 ++
    order.word (UInt16.ofNat (7 + buffer.length)) ++ [unit, 0x10] ++
    order.word start ++ order.word (UInt16.ofNat (buffer.length / 2)) ++
    UInt8.ofNat buffer.length :: buffer

/-- A request that writes words holds the buffer that they spell. -/
theorem FrameFactory.encode_writeMultiple (factory : FrameFactory) (order : ByteOrder) (unit : UInt8)
    (start : UInt16) (words : List UInt16) :
    (factory.writeMultiple unit start words).1.encode order =
      factory.writeBytes order unit start (words.flatMap order.word) := by
  have half : 2 * words.length / 2 = words.length := by omega
  have length : 1 + (1 + (5 + 2 * words.length)) = 7 + 2 * words.length := by omega
  show Mbap.encodeAbove order _ (1 + (5 + 2 * words.length)) ++
    (0x10 :: (order.word start ++ order.word (UInt16.ofNat words.length) ++
      UInt8.ofNat (2 * words.length) :: words.flatMap order.word)) = _
  rw [Mbap.encodeAbove, Mbap.encodeIds, writeBytes, length_flatMap_word, half, length]
  simp only [List.append_assoc, List.cons_append, List.nil_append]
  rfl

namespace Operation

variable {definitions : List Definition} (order : ByteOrder) (unit : UInt8)

/-- Definitions without an accepted layout make no request. -/
theorem build_writeDefinitions_invalid {reason : ProtocolError}
    (invalid : Layout.validate (definitions.filter (·.writable)) = .error reason) (factory : FrameFactory) :
    (writeDefinitions order unit definitions).build factory = .error (.protocol reason) := by
  rw [writeDefinitions, Layout.encode_eq_error order invalid]
  rfl

/-- Nor do definitions that span too many registers, or none. -/
theorem build_writeDefinitions_beyond {reason : ProtocolError}
    (valid : Layout.validate (definitions.filter (·.writable)) = .ok ())
    (beyond : checkCount (Layout.span (definitions.filter (·.writable))).2 maxWriteRegisters = .error reason)
    (factory : FrameFactory) :
    (writeDefinitions order unit definitions).build factory = .error (.protocol reason) := by
  obtain ⟨buffer, encoded, length, -⟩ := Layout.exists_encode_eq order valid
  have half : buffer.length / 2 = (Layout.span (definitions.filter (·.writable))).2 := by omega
  rw [writeDefinitions, encoded]
  show (do checked (buffer.length / 2) maxWriteRegisters; _) = _
  rw [half, checked, beyond]
  rfl

/-- Only the writable definitions count. -/
theorem writeDefinitions_eq {others : List Definition}
    (same : others.filter (·.writable) = definitions.filter (·.writable)) :
    writeDefinitions order unit others = writeDefinitions order unit definitions := by
  rw [writeDefinitions, writeDefinitions, same]

end Operation

/-! ### Writing definitions -/

section Sends

variable {σ : Type} {client : Client σ} {link : Link σ}

/-- **What writing definitions puts on the link.**  If the writable definitions have an accepted layout and span
between one and 0x7B registers, it is one request for these registers, with the buffer of the definitions as
its values, as far as the request is sent.  Otherwise the client fails with a protocol error and is as before.
Definitions that are not writable make no difference. -/
theorem Client.writeDefinitions_sends (isOpen : client.link = some link) (peer : Peer σ) (unit : UInt8)
    (definitions : List Definition) (circumstances : Circumstances) :
    let order := client.config.order
    let writable := definitions.filter (·.writable)
    let start := (Layout.span writable).1
    let count := (Layout.span writable).2
    let performed := client.perform peer (.writeDefinitions order unit definitions) circumstances
    (Layout.validate writable = .ok () → 1 ≤ count → count ≤ 0x7B →
      ∃ buffer next, Layout.encodeInPlace order writable = .ok (start, buffer) ∧
        buffer.length = 2 * count ∧ performed.2.links = client.past ++ [next] ∧
        next.written =
          link.written ++ circumstances.sends (client.factory.writeBytes order unit start buffer)) ∧
      (∀ reason, Layout.validate writable = .error reason → performed = (.error (.protocol reason), client)) ∧
      (Layout.validate writable = .ok () → count = 0 → performed = (.error (.protocol .emptySpan), client)) ∧
      (Layout.validate writable = .ok () → 0x7B < count →
        performed = (.error (.protocol (.spanTooLarge count 0x7B)), client)) ∧
      ∀ others : List Definition, others.filter (·.writable) = writable →
        client.perform peer (.writeDefinitions order unit others) circumstances = performed := by
  intro order writable start count performed
  refine ⟨?_, ?_, ?_, ?_, ?_⟩
  · intro valid positive few
    obtain ⟨buffer, encoded, length, -⟩ := Layout.exists_encode_eq order valid
    obtain ⟨words, -, exactly, rfl⟩ := exists_words order length
    have encodes : Layout.encodeInPlace order writable = .ok (start, words.flatMap order.word) := by
      rw [Layout.encodeInPlace_eq, encoded]
    have positive' : 1 ≤ words.length := exactly ▸ positive
    have few' : words.length ≤ maxWriteRegisters := exactly ▸ few
    have built := Operation.build_writeDefinitions order unit encoded positive' few' client.factory
    have limits := Frame.checkLimits_eq_ok
      (show (client.factory.writeMultiple unit start words).1.pdu? = _ from Frame.pdu?_ofPdu ..)
      (checkCount_eq_ok_iff.mpr ⟨positive', few'⟩)
    obtain ⟨next, links, written⟩ := exists_links_perform isOpen peer built limits circumstances
    rw [FrameFactory.encode_writeMultiple] at written
    exact ⟨_, next, encodes, length, links, written⟩
  · intro reason invalid
    exact perform_of_build_eq_error (Operation.build_writeDefinitions_invalid order unit invalid _) peer
      circumstances
  · intro valid none
    refine perform_of_build_eq_error (Operation.build_writeDefinitions_beyond order unit valid ?_ _) peer
      circumstances
    exact if_pos none
  · intro valid many
    refine perform_of_build_eq_error (Operation.build_writeDefinitions_beyond order unit valid ?_ _) peer
      circumstances
    have some : count ≠ 0 := Nat.ne_of_gt (Nat.zero_lt_of_lt many)
    exact (if_neg some).trans (if_pos many)
  · intro others same
    rw [Operation.writeDefinitions_eq order unit same]

end Sends

/-- A text and a number with a gap between them, and a definition in front of them that is not writable. -/
theorem Client.writeDefinitions_sends_of_gap :
    let name : Definition :=
      { label := "Name", address := 7, count := 2, writable := true, register := .text 3 (some "ab") }
    let locked : Definition := { label := "Locked", address := 4, count := 1, register := .numeric .u16 none }
    let setpoint : Definition :=
      { label := "Setpoint", address := 5, count := 1, writable := true,
        register := .numeric .u16 (some 0x1234) }
    let link : Link Unit := { peer := (), written := [9] }
    let client : Client Unit :=
      { config := { host := "device", order := .little }, factory := { nextId := 3 }, link := some link }
    let performed :=
      client.perform (.silent Unit) (.writeDefinitions .little 1 [name, locked, setpoint]) {}
    ∃ next, performed.2.links = [next] ∧ next.written =
      [9, 3, 0, 0, 0, 0, 0, 15, 0, 1, 0x10, 5, 0, 4, 0, 8, 0x34, 0x12, 0, 0, 0x61, 0x62, 0, 0] := by
  intro name locked setpoint link client performed
  have ascending : Layout.sorted [name, setpoint] = [setpoint, name] := by
    simp [Layout.sorted, setpoint, name, List.mergeSort]
  have valid : Layout.validate [name, setpoint] = .ok () := by
    rw [Layout.validate, ascending]
    rfl
  have encodes : Layout.encodeInPlace .little [name, setpoint] =
      .ok (5, [0x34, 0x12, 0, 0, 0x61, 0x62, 0, 0]) := by
    rw [Layout.encodeInPlace, valid, ascending]
    cbv
  have isOpen : client.link = some link := rfl
  obtain ⟨buffer, next, encodes', -, links, written⟩ :=
    (writeDefinitions_sends isOpen (.silent Unit) 1 [name, locked, setpoint] {}).1 valid (by decide) (by decide)
  obtain rfl : _ = buffer := (Prod.mk.inj (Except.ok.inj (encodes.symm.trans encodes'))).2
  refine ⟨next, links, written.trans ?_⟩
  decide

end ModbusTcp
