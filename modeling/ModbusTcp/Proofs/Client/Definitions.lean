import ModbusTcp.Proofs.Client.Registers
import ModbusTcp.Proofs.Register.Layout

/-!
# Definitions written and read back

A client writes definitions to a register map and reads them again.  Writing spells the words of a
request in the byte order of the connection, but register values are always spelled with the high byte
first, and the client reads them as if they were in its own byte order.

* `Layout.FitsRequest` — definitions that one request can write and one can read.
* `Layout.SpelledBy` — the words that writing definitions comes to.
* `Client.perform_writeDefinitions`, `Client.perform_readDefinitions` — the two operations, if there is
  room for their frames; without it they fail.
* `Client.perform_readDefinitions_missing` — reading where not all registers are populated.
* `Client.exists_read_written` — what each register gets.
* **`Client.read_written_definitions`** — when all the values come back.
-/

namespace ModbusTcp

/-! ### The words of definitions -/

/-- Words that spell the values of definitions in a byte order: as many as the definitions span, with
each value at the front of its registers. -/
structure Layout.SpelledBy (order : ByteOrder) (definitions : List Definition) (words : List UInt16) :
    Prop where
  length : words.length = (span definitions).2
  slice : ∀ definition ∈ definitions,
    slice (span definitions).1 (words.flatMap order.word) definition = definition.bytes order

/-- Definitions that one request can write, and one can read. -/
structure Layout.FitsRequest (definitions : List Definition) : Prop where
  valid : validate definitions = .ok ()
  positive : 1 ≤ (span definitions).2
  few : (span definitions).2 ≤ maxDefinitionSpan

theorem Layout.toNat_ofNat_span {definitions : List Definition}
    (few : (span definitions).2 ≤ maxDefinitionSpan) :
    (UInt16.ofNat (span definitions).2).toNat = (span definitions).2 := by
  rw [UInt16.toNat_ofNat']
  exact Nat.mod_eq_of_lt (Nat.lt_of_le_of_lt few (by decide))

theorem Layout.FitsRequest.count {definitions : List Definition} (fits : FitsRequest definitions) :
    1 ≤ (UInt16.ofNat (span definitions).2).toNat ∧
      (UInt16.ofNat (span definitions).2).toNat ≤ maxReadRegisters := by
  rw [toNat_ofNat_span fits.few]
  exact ⟨fits.positive, Nat.le_trans fits.few (by decide)⟩

theorem Layout.FitsRequest.span_le {definitions : List Definition} (fits : FitsRequest definitions) :
    (span definitions).1.toNat + (span definitions).2 ≤ 65536 := by
  obtain ⟨each, _⟩ := validate_eq_ok_iff.mp fits.valid
  exact Layout.span_le fun definition there => (each definition there).stop

/-- The registers of a definition, once the words have become register values. -/
theorem Layout.SpelledBy.slice_bytesOfWords {order : ByteOrder} {definitions : List Definition}
    {words : List UInt16} (spelled : SpelledBy order definitions words) {definition : Definition}
    (there : definition ∈ definitions) :
    Layout.slice (span definitions).1 (bytesOfWords words) definition =
      order.reread (definition.bytes order) := by
  rw [bytesOfWords_eq_reread order, ← spelled.slice definition there]
  exact order.reread_slice _ _ _

namespace Operation

theorem checked_eq_ok {count max : Nat} (positive : 1 ≤ count) (few : count ≤ max) :
    checked count max = .ok () := by
  rw [checked, checkCount_eq_ok_iff.mpr ⟨positive, few⟩]
  rfl

theorem build_readRange (unit : UInt8) (start : UInt16) {count : UInt16} (positive : 1 ≤ count.toNat)
    (few : count.toNat ≤ maxReadRegisters) (factory : FrameFactory) :
    (readRange unit start count).build factory = .ok (factory.readRegisters unit start count) := by
  rw [readRange, checked_eq_ok positive few]
  rfl

theorem build_writeMultiple (unit : UInt8) (start : UInt16) {words : List UInt16}
    (positive : 1 ≤ words.length) (few : words.length ≤ maxWriteRegisters) (factory : FrameFactory) :
    (writeMultiple unit start words).build factory = .ok (factory.writeMultiple unit start words) := by
  rw [writeMultiple, checked_eq_ok positive few]
  rfl

section Definitions

variable {definitions : List Definition} (order : ByteOrder) (unit : UInt8)

/-- The request that writes definitions writes the words that spell their buffer. -/
theorem build_writeDefinitions {start : UInt16} {words : List UInt16}
    (encoded : Layout.encode order (definitions.filter (·.writable)) =
      .ok (start, words.flatMap order.word))
    (positive : 1 ≤ words.length) (few : words.length ≤ maxWriteRegisters) (factory : FrameFactory) :
    (writeDefinitions order unit definitions).build factory =
      .ok (factory.writeMultiple unit start words) := by
  have half : (words.flatMap order.word).length / 2 = words.length := by
    rw [length_flatMap_word]
    omega
  have taken : takeWords order words.length (words.flatMap order.word) = .ok (words, []) := by
    have taken := takeWords_append order words []
    rwa [List.append_nil] at taken
  rw [writeDefinitions, encoded]
  show (do checked ((words.flatMap order.word).length / 2) maxWriteRegisters; _) = _
  rw [half, checked_eq_ok positive few, taken]
  exact build_writeMultiple unit start positive few factory

/-- The request that writes definitions writes words that spell them. -/
theorem exists_build_writeDefinitions (writable : ∀ definition ∈ definitions, definition.writable)
    (fits : Layout.FitsRequest definitions) :
    ∃ words, Layout.SpelledBy order definitions words ∧
      ∀ factory, (writeDefinitions order unit definitions).build factory =
        .ok (factory.writeMultiple unit (Layout.span definitions).1 words) := by
  obtain ⟨buffer, encoded, length, slices⟩ := Layout.exists_encode_eq order fits.valid
  obtain ⟨words, -, count, rfl⟩ := exists_words order length
  have all : definitions.filter (·.writable) = definitions := List.filter_eq_self.mpr writable
  have few : (Layout.span definitions).2 ≤ maxWriteRegisters := fits.few
  exact ⟨words, ⟨count, slices⟩, build_writeDefinitions order unit (by rw [all, encoded])
    (count ▸ fits.positive) (count ▸ few)⟩

/-- The request that reads definitions reads the registers that they span. -/
theorem build_readDefinitions (fits : Layout.FitsRequest definitions) (factory : FrameFactory) :
    (readDefinitions order unit definitions).build factory =
      .ok (factory.readRegisters unit (Layout.span definitions).1
        (UInt16.ofNat (Layout.span definitions).2)) := by
  obtain ⟨positive, few⟩ := fits.count
  rw [readDefinitions, fits.valid]
  show (do checked (Layout.span definitions).2 maxDefinitionSpan; _) = _
  rw [checked_eq_ok fits.positive fits.few]
  exact build_readRange unit (Layout.span definitions).1 positive few factory

variable {map : RegisterMap}

/-- What a register map makes of a request that writes definitions: words that spell them are put in the
place of those at the addresses that they span. -/
theorem exists_asks_writeDefinitions (factory : FrameFactory)
    (writable : ∀ definition ∈ definitions, definition.writable) (fits : Layout.FitsRequest definitions)
    (populated : (Registers.words? map.get? (Layout.span definitions).1
      (Layout.span definitions).2).isSome) :
    ∃ words after, Layout.SpelledBy order definitions words ∧
      after.get? = Registers.replace map.get? (Layout.span definitions).1 words ∧
      (writeDefinitions order unit definitions).Asks factory RegisterMap.service map unit
        .writeMultipleRegisters (.writeMultiple 0 []) (.multipleWritten 0 0)
        (.writeMultiple (Layout.span definitions).1 words)
        (.ok (.multipleWritten (Layout.span definitions).1 (UInt16.ofNat words.length))) after := by
  obtain ⟨words, spelled, builds⟩ := exists_build_writeDefinitions order unit writable fits
  have positive : 1 ≤ words.length := spelled.length ▸ fits.positive
  have few : words.length ≤ maxWriteRegisters := spelled.length ▸ fits.few
  rw [← spelled.length] at populated
  obtain ⟨after, answers, holds⟩ := RegisterMap.exists_answer_writeMultiple positive few populated
  refine ⟨words, after, spelled, holds, FunctionCode.isBasic_writeMultipleRegisters, rfl, ?_,
    builds factory, RegisterMap.service_eq_ok answers unit _, ?_⟩
  · exact checkCount_eq_ok_iff.mpr ⟨positive, few⟩
  · rintro _ ⟨⟩
    exact ⟨rfl, rfl⟩

/-- What a register map makes of a request that reads definitions. -/
theorem asks_readDefinitions (factory : FrameFactory) (fits : Layout.FitsRequest definitions)
    {words : List UInt16}
    (found : Registers.words? map.get? (Layout.span definitions).1 (Layout.span definitions).2 =
      some words) :
    (readDefinitions order unit definitions).Asks factory RegisterMap.service map unit
      .readHoldingRegisters (.readRegisters 0 0) (.registerValues [])
      (.readRegisters (Layout.span definitions).1 (UInt16.ofNat (Layout.span definitions).2))
      (.ok (.registerValues (bytesOfWords words))) map := by
  obtain ⟨positive, few⟩ := fits.count
  rw [← Layout.toNat_ofNat_span fits.few] at found
  exact asks_read positive few (build_readDefinitions order unit fits factory) found

/-- What a register map makes of a request that reads definitions where not all registers are populated. -/
theorem asks_readDefinitions_missing (factory : FrameFactory) (fits : Layout.FitsRequest definitions)
    (missing : Registers.words? map.get? (Layout.span definitions).1 (Layout.span definitions).2 = none) :
    (readDefinitions order unit definitions).Asks factory RegisterMap.service map unit
      .readHoldingRegisters (.readRegisters 0 0) (.registerValues [])
      (.readRegisters (Layout.span definitions).1 (UInt16.ofNat (Layout.span definitions).2))
      (.error .illegalDataAddress) map := by
  obtain ⟨positive, few⟩ := fits.count
  rw [← Layout.toNat_ofNat_span fits.few] at missing
  exact asks_read_missing positive few (build_readDefinitions order unit fits factory) missing

end Definitions

end Operation

/-! ### The two operations -/

section Steps

variable {client : Client (Connection RegisterMap)} {link : Link (Connection RegisterMap)}
  {definitions : List Definition}

/-- How long the frames of a request are that writes words, and of the answer. -/
theorem frameLength_writeMultiple (start count : UInt16) (words : List UInt16) :
    (Pdu.ofFunction .writeMultipleRegisters (.body (.writeMultiple start words))).frameLength =
        15 + 2 * words.length ∧
      (Slave.replyPdu .writeMultipleRegisters
        (.map .body (.ok (.multipleWritten start count)))).frameLength = 14 := by
  refine ⟨?_, rfl⟩
  rw [Pdu.frameLength_ofFunction, Body.measure]
  omega

/-- How long the frames of a request are that reads words, and of the answer. -/
theorem frameLength_readRegisters (start count : UInt16) {words : List UInt16}
    (few : words.length ≤ maxReadRegisters) :
    (Pdu.ofFunction .readHoldingRegisters (.body (.readRegisters start count))).frameLength = 14 ∧
      (Slave.replyPdu .readHoldingRegisters
        (.map .body (.ok (.registerValues (bytesOfWords words))))).frameLength =
          11 + 2 * words.length := by
  refine ⟨rfl, ?_⟩
  rw [Except.map, Slave.replyPdu_ok (isAnswer_bytesOfWords few).2, Pdu.frameLength_ofFunction,
    Body.measure, bytesOfWords, length_flatMap_word]
  omega

/-- Writing definitions puts words that spell them in the place of those at the addresses that they
span, and leaves the client open, if there is room for the frames. -/
theorem Client.perform_writeDefinitions (isOpen : client.OpenOn link) (unit : UInt8)
    (writable : ∀ definition ∈ definitions, definition.writable) (fits : Layout.FitsRequest definitions)
    (populated : (Registers.words? link.peer.state.get? (Layout.span definitions).1
      (Layout.span definitions).2).isSome)
    (room : 15 + 2 * (Layout.span definitions).2 ≤ link.peer.framer.maxFrame)
    (roomReply : 14 ≤ client.config.maxFrame) (endpoint : Endpoint) (waiting : Stop) :
    ∃ words next after,
      client.perform (Connection.peer (Slave.handle RegisterMap.service endpoint))
        (Operation.writeDefinitions client.config.order unit definitions) { waiting } =
          (.ok (.value ()), next) ∧
      Layout.SpelledBy client.config.order definitions words ∧
      next.OpenOn after ∧ next.config = client.config ∧ after.peer.framer = link.peer.framer ∧
      after.peer.state.get? = Registers.replace link.peer.state.get? (Layout.span definitions).1 words := by
  obtain ⟨words, map, spelled, holds, asks⟩ := Operation.exists_asks_writeDefinitions
    client.config.order unit client.factory writable fits populated
  obtain ⟨length, lengthReply⟩ := frameLength_writeMultiple (Layout.span definitions).1
    (UInt16.ofNat words.length) words
  rw [← spelled.length, ← length] at room
  rw [← lengthReply] at roomReply
  have performed := perform_slave isOpen.linkedTo asks room roomReply endpoint waiting
  exact ⟨words, _, _, performed, spelled, isOpen.exchanged unit _ _ map _, rfl, rfl, holds⟩

/-- Writing definitions fails if there is no room for the frames. -/
theorem Client.perform_writeDefinitions_of_lt (isOpen : client.OpenOn link) (unit : UInt8)
    (writable : ∀ definition ∈ definitions, definition.writable) (fits : Layout.FitsRequest definitions)
    (populated : (Registers.words? link.peer.state.get? (Layout.span definitions).1
      (Layout.span definitions).2).isSome)
    (large : link.peer.framer.maxFrame < 15 + 2 * (Layout.span definitions).2 ∨
      client.config.maxFrame < 14)
    (endpoint : Endpoint) (waiting : Stop) :
    ∃ error, (client.perform (Connection.peer (Slave.handle RegisterMap.service endpoint))
      (Operation.writeDefinitions client.config.order unit definitions) { waiting }).1 =
        .error error := by
  obtain ⟨words, map, spelled, holds, asks⟩ := Operation.exists_asks_writeDefinitions
    client.config.order unit client.factory writable fits populated
  obtain ⟨length, lengthReply⟩ := frameLength_writeMultiple (Layout.span definitions).1
    (UInt16.ofNat words.length) words
  rw [← spelled.length, ← length, ← lengthReply] at large
  exact perform_slave_of_lt isOpen.linkedTo asks large endpoint waiting

/-- Reading definitions gives them the values that the words at the addresses they span spell, once
these have become register values, if there is room for the frames. -/
theorem Client.perform_readDefinitions (linked : client.LinkedTo link) (unit : UInt8)
    (fits : Layout.FitsRequest definitions) {words : List UInt16}
    (found : Registers.words? link.peer.state.get? (Layout.span definitions).1
      (Layout.span definitions).2 = some words)
    (room : 14 ≤ link.peer.framer.maxFrame)
    (roomReply : 11 + 2 * (Layout.span definitions).2 ≤ client.config.maxFrame) (endpoint : Endpoint)
    (waiting : Stop) :
    (client.perform (Connection.peer (Slave.handle RegisterMap.service endpoint))
        (Operation.readDefinitions client.config.order unit definitions) { waiting }).1 =
      .ok (.value (definitions.map fun definition => { definition with
        register := definition.register.read client.config.order
          (Layout.slice (Layout.span definitions).1 (bytesOfWords words) definition) })) := by
  have length : words.length = (Layout.span definitions).2 := Registers.length_of_words? found
  have asks := Operation.asks_readDefinitions client.config.order unit client.factory fits found
  obtain ⟨lengthRequest, lengthReply⟩ := frameLength_readRegisters (Layout.span definitions).1
    (UInt16.ofNat (Layout.span definitions).2) (length ▸ Nat.le_trans fits.few (by decide))
  rw [← lengthRequest] at room
  rw [← length, ← lengthReply] at roomReply
  have enough : (bytesOfWords words).length = 2 * (Layout.span definitions).2 := by
    rw [bytesOfWords, length_flatMap_word, length]
  have accepted : (Operation.readDefinitions client.config.order unit definitions).outcome
      (.ok (.registerValues (bytesOfWords words))) =
        (Layout.decode client.config.order definitions (bytesOfWords words)).map .value := rfl
  have performed := perform_slave linked asks room roomReply endpoint waiting
  rw [performed, accepted, Layout.decode_eq_ok _ fits.valid (Nat.le_of_eq enough.symm)]
  rfl

/-- Reading definitions fails if there is no room for the frames. -/
theorem Client.perform_readDefinitions_of_lt (linked : client.LinkedTo link) (unit : UInt8)
    (fits : Layout.FitsRequest definitions) {words : List UInt16}
    (found : Registers.words? link.peer.state.get? (Layout.span definitions).1
      (Layout.span definitions).2 = some words)
    (large : link.peer.framer.maxFrame < 14 ∨
      client.config.maxFrame < 11 + 2 * (Layout.span definitions).2)
    (endpoint : Endpoint) (waiting : Stop) :
    ∃ error, (client.perform (Connection.peer (Slave.handle RegisterMap.service endpoint))
      (Operation.readDefinitions client.config.order unit definitions) { waiting }).1 =
        .error error := by
  have length : words.length = (Layout.span definitions).2 := Registers.length_of_words? found
  have asks := Operation.asks_readDefinitions client.config.order unit client.factory fits found
  obtain ⟨lengthRequest, lengthReply⟩ := frameLength_readRegisters (Layout.span definitions).1
    (UInt16.ofNat (Layout.span definitions).2) (length ▸ Nat.le_trans fits.few (by decide))
  rw [← length, ← lengthRequest, ← lengthReply] at large
  exact perform_slave_of_lt linked asks large endpoint waiting

/-- Reading definitions whose span is not populated is answered with an exception if there is room for
the frames, and fails otherwise. -/
theorem Client.perform_readDefinitions_missing (linked : client.LinkedTo link) (unit : UInt8)
    (fits : Layout.FitsRequest definitions)
    (missing : Registers.words? link.peer.state.get? (Layout.span definitions).1
      (Layout.span definitions).2 = none)
    (endpoint : Endpoint) (waiting : Stop) :
    let read := (client.perform (Connection.peer (Slave.handle RegisterMap.service endpoint))
      (Operation.readDefinitions client.config.order unit definitions) { waiting }).1
    (14 ≤ link.peer.framer.maxFrame → 11 ≤ client.config.maxFrame →
        read = .ok (.exception ExceptionCode.illegalDataAddress.value)) ∧
      (link.peer.framer.maxFrame < 14 ∨ client.config.maxFrame < 11 → ∃ error, read = .error error) := by
  intro read
  have asks := Operation.asks_readDefinitions_missing client.config.order unit client.factory fits missing
  constructor
  · intro room roomReply
    exact congrArg Prod.fst (perform_slave linked asks room roomReply endpoint waiting)
  · intro large
    exact perform_slave_of_lt linked asks large endpoint waiting

end Steps

/-! ### Written and read back -/

section ReadBack

variable {definitions blanks : List Definition}

theorem Layout.FitsRequest.of_bare (fits : FitsRequest definitions)
    (same : blanks.map Definition.bare = definitions.map Definition.bare) : FitsRequest blanks :=
  ⟨validate_eq_ok_of_bare same fits.valid, span_eq_of_bare same ▸ fits.positive,
    span_eq_of_bare same ▸ fits.few⟩

/-- What definitions get that are read where others of the same layout have been written: each register
the value that its bytes spell once they have become register values. -/
theorem Client.exists_read_written {client : Client (Connection RegisterMap)}
    {link : Link (Connection RegisterMap)} (isOpen : client.OpenOn link) (unit : UInt8)
    (fits : Layout.FitsRequest definitions) {words : List UInt16}
    (spelled : Layout.SpelledBy client.config.order definitions words)
    (found : Registers.words? link.peer.state.get? (Layout.span definitions).1
      (Layout.span definitions).2 = some words)
    (same : blanks.map Definition.bare = definitions.map Definition.bare)
    (room : 14 ≤ link.peer.framer.maxFrame)
    (roomReply : 11 + 2 * (Layout.span definitions).2 ≤ client.config.maxFrame) (endpoint : Endpoint)
    (waiting : Stop) :
    ∃ got, (client.perform (Connection.peer (Slave.handle RegisterMap.service endpoint))
        (Operation.readDefinitions client.config.order unit blanks) { waiting }).1 = .ok (.value got) ∧
      got.map (·.register) = definitions.map fun definition =>
        definition.register.read client.config.order
          (client.config.order.reread (definition.bytes client.config.order)) := by
  have span := Layout.span_eq_of_bare same
  rw [← span] at found roomReply
  have reads := perform_readDefinitions isOpen.linkedTo unit (fits.of_bare same) found room roomReply endpoint
    waiting
  rw [span] at reads
  refine ⟨_, reads, ?_⟩
  let order := client.config.order
  let value (definition : Definition) : Register := definition.register.read order
    (Layout.slice (Layout.span definitions).1 (bytesOfWords words) definition)
  calc
    (blanks.map fun blank => { blank with register := value blank }).map (·.register)
    _ = blanks.map value := List.map_map
    _ = definitions.map value := Layout.map_eq_of_bare (fun blank => blank.register.read_cleared order _) same
    _ = definitions.map fun definition =>
        definition.register.read order (order.reread (definition.bytes order)) := by
      apply List.map_congr_left
      intro definition there
      exact congrArg (definition.register.read order ·) (spelled.slice_bytesOfWords there)

/-- Registers that have been reread hold the values that were written exactly if the byte order is big or
the two bytes of every register are the same. -/
theorem Layout.map_read_reread_eq_iff (order : ByteOrder)
    (plain : ∀ definition ∈ definitions, definition.register.IsPlain)
    (fits : ∀ definition ∈ definitions, definition.Fits) :
    (definitions.map fun definition =>
        definition.register.read order (order.reread (definition.bytes order))) =
      definitions.map (·.register) ↔ order = .big ∨
        ∀ definition ∈ definitions, swapped (definition.bytes .little) = definition.bytes .little := by
  have each (definition : Definition) (there : definition ∈ definitions) :
      definition.register.read order (order.reread (definition.bytes order)) = definition.register ↔
        order.reread (definition.bytes order) = definition.bytes order := by
    have whole : definition.register.width + (definition.byteLength - definition.register.width) =
        2 * definition.count.toNat := Nat.add_sub_cancel' (fits definition there).width
    exact Register.read_reread_eq_iff order (plain definition there) whole
  rw [List.map_inj_left, forall₂_congr each]
  cases order with
  | big => exact iff_of_true (fun _ _ => rfl) (.inl rfl)
  | little =>
    constructor
    · exact .inr
    · rintro (other | all)
      · exact nomatch other
      · exact all

section Once

variable {client : Client (Connection RegisterMap)} {link : Link (Connection RegisterMap)}

/-- Writing definitions succeeds exactly if there is room for the frames. -/
theorem Client.writeDefinitions_succeeds_iff (isOpen : client.OpenOn link) (unit : UInt8)
    (writable : ∀ definition ∈ definitions, definition.writable) (fits : Layout.FitsRequest definitions)
    (populated : (Registers.words? link.peer.state.get? (Layout.span definitions).1
      (Layout.span definitions).2).isSome)
    (endpoint : Endpoint) (waiting : Stop) :
    (client.perform (Connection.peer (Slave.handle RegisterMap.service endpoint))
        (Operation.writeDefinitions client.config.order unit definitions) { waiting }).1 =
          .ok (.value ()) ↔
      15 + 2 * (Layout.span definitions).2 ≤ link.peer.framer.maxFrame ∧ 14 ≤ client.config.maxFrame := by
  constructor
  · intro accepted
    by_cases narrow : link.peer.framer.maxFrame < 15 + 2 * (Layout.span definitions).2 ∨
      client.config.maxFrame < 14
    · obtain ⟨error, fails⟩ := perform_writeDefinitions_of_lt isOpen unit writable fits populated narrow
        endpoint waiting
      exact nomatch accepted.symm.trans fails
    · omega
  · rintro ⟨room, roomReply⟩
    obtain ⟨_, _, _, performed, _⟩ := perform_writeDefinitions isOpen unit writable fits populated room
      roomReply endpoint waiting
    exact congrArg Prod.fst performed

/-- Definitions whose words a register map holds are read with all their values exactly if there is room
for the answer, and rereading leaves them as they are. -/
theorem Client.readDefinitions_restores_iff (isOpen : client.OpenOn link) (unit : UInt8)
    (plain : ∀ definition ∈ definitions, definition.register.IsPlain)
    (fits : Layout.FitsRequest definitions) {words : List UInt16}
    (spelled : Layout.SpelledBy client.config.order definitions words)
    (found : Registers.words? link.peer.state.get? (Layout.span definitions).1
      (Layout.span definitions).2 = some words)
    (same : blanks.map Definition.bare = definitions.map Definition.bare)
    (room : 14 ≤ link.peer.framer.maxFrame) (endpoint : Endpoint) (waiting : Stop) :
    (∃ got, (client.perform (Connection.peer (Slave.handle RegisterMap.service endpoint))
        (Operation.readDefinitions client.config.order unit blanks) { waiting }).1 = .ok (.value got) ∧
      got.map (·.register) = definitions.map (·.register)) ↔
    11 + 2 * (Layout.span definitions).2 ≤ client.config.maxFrame ∧ (client.config.order = .big ∨
      ∀ definition ∈ definitions, swapped (definition.bytes .little) = definition.bytes .little) := by
  obtain ⟨each, _⟩ := Layout.validate_eq_ok_iff.mp fits.valid
  by_cases wide : 11 + 2 * (Layout.span definitions).2 ≤ client.config.maxFrame
  · obtain ⟨got, reads, registers⟩ :=
      exists_read_written isOpen unit fits spelled found same room wide endpoint waiting
    rw [← Layout.map_read_reread_eq_iff client.config.order plain each, ← registers]
    constructor
    · rintro ⟨other, reads', all⟩
      obtain rfl : got = other := by simpa using reads.symm.trans reads'
      exact ⟨wide, all⟩
    · rintro ⟨_, all⟩
      exact ⟨got, reads, all⟩
  · rw [← Layout.span_eq_of_bare same] at found wide ⊢
    obtain ⟨error, fails⟩ := perform_readDefinitions_of_lt isOpen.linkedTo unit (fits.of_bare same) found
      (.inr (Nat.lt_of_not_le wide)) endpoint waiting
    refine iff_of_false ?_ ?_
    · rintro ⟨got, reads, _⟩
      exact nomatch reads.symm.trans fails
    · rintro ⟨there, _⟩
      exact wide there

end Once

section Opened

variable {client : Client (Connection RegisterMap)} {config : ClientConfig} {server : ServerConfig}
  {factory : FrameFactory} {map : RegisterMap}

/-- After definitions have been written the register map holds words that spell them, and the client is
still open. -/
theorem Client.exists_written (opened : client.Opened config server factory map) (unit : UInt8)
    (writable : ∀ definition ∈ definitions, definition.writable) (fits : Layout.FitsRequest definitions)
    (populated : ∀ address, (Layout.span definitions).1.toNat ≤ address.toNat →
      address.toNat < (Layout.span definitions).1.toNat + (Layout.span definitions).2 →
      (map.get? address).isSome)
    (room : 15 + 2 * (Layout.span definitions).2 ≤ server.maxFrame) (roomReply : 14 ≤ config.maxFrame)
    (endpoint : Endpoint) (waiting : Stop) :
    let written := client.perform (Connection.peer (Slave.handle RegisterMap.service endpoint))
      (.writeDefinitions config.order unit definitions) { waiting }
    ∃ words link, written.1 = .ok (.value ()) ∧ written.2.OpenOn link ∧ written.2.config = config ∧
      14 ≤ link.peer.framer.maxFrame ∧ Layout.SpelledBy config.order definitions words ∧
      Registers.words? link.peer.state.get? (Layout.span definitions).1 (Layout.span definitions).2 =
        some words := by
  intro written
  obtain ⟨link, isOpen, rfl, rfl, maxFrame⟩ := opened.exists_openOn
  rw [← maxFrame] at room
  have present := (Registers.isSome_words?_iff_populated fits.span_le).mpr populated
  obtain ⟨words, next, after, performed, spelled, stillOpen, config, framer, holds⟩ :=
    perform_writeDefinitions isOpen unit writable fits present room roomReply endpoint waiting
  obtain rfl : written.2 = next := congrArg Prod.snd performed
  refine ⟨words, after, congrArg Prod.fst performed, stillOpen, config, ?_, spelled, ?_⟩
  · rw [framer]
    omega
  · rw [holds, ← spelled.length]
    exact Registers.words?_replace _ (spelled.length ▸ fits.span_le)

/-- **What comes back of definitions that have been written.**  A client and a slave speak one byte
order, and all registers that the definitions span are populated.  Definitions with plain values are
written if there is room for the frames.  Once they have been written, definitions of the same layout are
read with all their values exactly if there is room for the answer, and the byte order is big or the two
bytes of every register are the same. -/
theorem Client.read_written_definitions (opened : client.Opened config server factory map) (unit : UInt8)
    (writable : ∀ definition ∈ definitions, definition.writable)
    (plain : ∀ definition ∈ definitions, definition.register.IsPlain)
    (fits : Layout.FitsRequest definitions)
    (populated : ∀ address, (Layout.span definitions).1.toNat ≤ address.toNat →
      address.toNat < (Layout.span definitions).1.toNat + (Layout.span definitions).2 →
      (map.get? address).isSome)
    (same : blanks.map Definition.bare = definitions.map Definition.bare) (endpoint : Endpoint)
    (waiting : Stop) :
    let peer := Connection.peer (Slave.handle RegisterMap.service endpoint)
    let written := client.perform peer (.writeDefinitions config.order unit definitions) { waiting }
    let read := written.2.perform peer (.readDefinitions config.order unit blanks) { waiting }
    (written.1 = .ok (.value ()) ↔
        15 + 2 * (Layout.span definitions).2 ≤ server.maxFrame ∧ 14 ≤ config.maxFrame) ∧
      (written.1 = .ok (.value ()) →
        ((∃ got, read.1 = .ok (.value got) ∧ got.map (·.register) = definitions.map (·.register)) ↔
          11 + 2 * (Layout.span definitions).2 ≤ config.maxFrame ∧ (config.order = .big ∨
            ∀ definition ∈ definitions, swapped (definition.bytes .little) = definition.bytes .little))) := by
  intro peer written read
  have writes : written.1 = .ok (.value ()) ↔
      15 + 2 * (Layout.span definitions).2 ≤ server.maxFrame ∧ 14 ≤ config.maxFrame := by
    obtain ⟨link, isOpen, rfl, rfl, maxFrame⟩ := opened.exists_openOn
    have present := (Registers.isSome_words?_iff_populated fits.span_le).mpr populated
    rw [← maxFrame]
    exact writeDefinitions_succeeds_iff isOpen unit writable fits present endpoint waiting
  refine ⟨writes, ?_⟩
  intro accepted
  obtain ⟨room, roomReply⟩ := writes.mp accepted
  obtain ⟨words, link, _, isOpen, config, roomRead, spelled, found⟩ :=
    exists_written opened unit writable fits populated room roomReply endpoint waiting
  rw [← config] at spelled
  have restores :=
    readDefinitions_restores_iff isOpen unit plain fits spelled found same roomRead endpoint waiting
  rwa [config] at restores

end Opened

end ReadBack

/-- In the little byte order a number whose two bytes differ is not read back, although it has been
written and definitions of the same layout are read. -/
theorem Client.read_written_swapped :
    let config : ClientConfig := { host := "device", order := .little }
    let server : ServerConfig := { order := .little }
    let map := RegisterMap.populate {} 0 [0]
    let fresh : Client (Connection RegisterMap) := { config, factory := {} }
    let client := (fresh.connect false (.established { peer := Slave.connection server {} map })).2
    let setpoint (value : Option (Number .u16)) : Definition :=
      { label := "Setpoint", address := 0, count := 1, writable := true, register := .numeric .u16 value }
    let peer := Connection.peer (Slave.handle RegisterMap.service ⟨.v4 0, 502⟩)
    let written := client.perform peer (.writeDefinitions config.order 1 [setpoint (some 0x1234)]) {}
    let read := written.2.perform peer (.readDefinitions config.order 1 [setpoint none]) {}
    client.Opened config server {} map ∧ Layout.FitsRequest [setpoint (some 0x1234)] ∧
      written.1 = .ok (.value ()) ∧
      ∃ got, read.1 = .ok (.value got) ∧ got.map (·.register) = [.numeric .u16 (some 0x3412)] := by
  intro config server map fresh client setpoint peer written read
  have opened : client.Opened config server {} map :=
    opened_connect {} map rfl ⟨[], rfl⟩ (ClientConfig.validate_default (by decide) _)
  have fits : Layout.FitsRequest [setpoint (some 0x1234)] := ⟨by cbv, by decide, by decide⟩
  have writable : ∀ definition ∈ [setpoint (some 0x1234)], definition.writable :=
    List.forall_mem_singleton.mpr rfl
  have populated : ∀ address : UInt16, 0 ≤ address.toNat → address.toNat < 0 + 1 →
      (map.get? address).isSome := fun _ => RegisterMap.isSome_get?_populate {} 0 [0] (by decide)
  obtain ⟨words, link, accepted, isOpen, same, room, spelled, found⟩ :=
    exists_written opened 1 writable fits populated (by decide) (by decide) ⟨.v4 0, 502⟩ .deadline
  rw [← same] at spelled
  have wide : 11 + 2 * (Layout.span [setpoint (some 0x1234)]).2 ≤ written.2.config.maxFrame := by
    rw [same]
    decide
  obtain ⟨got, reads, registers⟩ :=
    exists_read_written isOpen 1 fits spelled found (show [setpoint none].map _ = _ from rfl) room wide
      ⟨.v4 0, 502⟩ .deadline
  rw [same] at reads registers
  exact ⟨opened, fits, accepted, got, reads, registers.trans (by cbv)⟩

/-- In the little byte order a text and a number whose registers have the same byte twice are read back. -/
theorem Client.read_written_mirrored :
    let config : ClientConfig := { host := "device", order := .little }
    let server : ServerConfig := { order := .little }
    let map := RegisterMap.populate {} 5 [1, 2, 3, 4, 5]
    let fresh : Client (Connection RegisterMap) := { config, factory := {} }
    let client := (fresh.connect false (.established { peer := Slave.connection server {} map })).2
    let name (value : Option String) : Definition :=
      { label := "Name", address := 7, count := 3, writable := true, register := .text 5 value }
    let setpoint (value : Option (Number .u16)) : Definition :=
      { label := "Setpoint", address := 5, count := 1, writable := true, register := .numeric .u16 value }
    let definitions := [name (some "aabb"), setpoint (some 0x4242)]
    let peer := Connection.peer (Slave.handle RegisterMap.service ⟨.v4 0, 502⟩)
    let written := client.perform peer (.writeDefinitions config.order 1 definitions) {}
    let read := written.2.perform peer (.readDefinitions config.order 1 [name none, setpoint none]) {}
    client.Opened config server {} map ∧ Layout.FitsRequest definitions ∧
      written.1 = .ok (.value ()) ∧
      ∃ got, read.1 = .ok (.value got) ∧ got.map (·.register) = definitions.map (·.register) := by
  intro config server map fresh client name setpoint definitions peer written read
  have opened : client.Opened config server {} map :=
    opened_connect {} map rfl ⟨[], rfl⟩ (ClientConfig.validate_default (by decide) _)
  have ascending : Layout.sorted definitions = [setpoint (some 0x4242), name (some "aabb")] := by
    simp [Layout.sorted, definitions, setpoint, name, List.mergeSort]
  have fits : Layout.FitsRequest definitions :=
    ⟨by rw [Layout.validate, ascending]; rfl, by decide, by decide⟩
  have writable : ∀ definition ∈ definitions, definition.writable :=
    List.forall_mem_cons.mpr ⟨rfl, List.forall_mem_singleton.mpr rfl⟩
  have plain : ∀ definition ∈ definitions, definition.register.IsPlain := by
    refine List.forall_mem_cons.mpr ⟨⟨"aabb", rfl, ?_⟩, List.forall_mem_singleton.mpr rfl⟩
    exact ⟨by simp, by decide, by decide⟩
  have same : [name none, setpoint none].map Definition.bare = definitions.map Definition.bare := rfl
  have populated : ∀ address : UInt16, 5 ≤ address.toNat → address.toNat < 5 + 5 →
      (map.get? address).isSome := fun _ =>
    RegisterMap.isSome_get?_populate {} 5 [1, 2, 3, 4, 5] (by decide)
  obtain ⟨writes, reads⟩ := read_written_definitions opened 1 writable plain fits populated same
    ⟨.v4 0, 502⟩ .deadline
  have accepted : written.1 = .ok (.value ()) := writes.mpr ⟨by decide, by decide⟩
  refine ⟨opened, fits, accepted, (reads accepted).mpr ⟨by decide, .inr ?_⟩⟩
  exact List.forall_mem_cons.mpr ⟨by cbv, List.forall_mem_singleton.mpr (by cbv)⟩

end ModbusTcp
