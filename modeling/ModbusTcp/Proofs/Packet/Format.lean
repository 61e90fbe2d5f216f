import ModbusTcp.FrameFactory
import ModbusTcp.Proofs.Packet.RoundTrip

/-!
# The format of frames

Reading and writing frames undo each other, for every factory that knows the register model and any
tables of further functions.  What has been written is read back, whatever follows it.  What has been
read is written again as it stood in the input, except that a length field which has not told the truth
is corrected.

* `Packet.kind` — the kind of a packet, by its outermost layer.
* `Resolver.NamesBodies` — a frame carries a PDU, and a PDU nothing or a body;
  `Resolver.namesBodies_tables` says so of tables of bodies behind the register model.
* `Body.eq_encode_append_of_decode`, `Frame.exists_spell_of_decode` — what has been read stands in the
  input as it is written.
* `Frame.Reading` — what reading a frame can come to, whichever bytes it is read from.
* **`Frame.decode_encode_of_kind`** — reading undoes writing over the whole format.
* **`Frame.encode_of_decode`** — writing undoes reading on every input that is accepted.
-/

namespace ModbusTcp

variable {order : ByteOrder} {resolver : Resolver} {direction : Direction}

/-! ### What resolvers name -/

/-- The kind of a packet, by its outermost layer. -/
def Packet.kind : Packet → PacketKind
  | .bare (.mbap _) | .carry (.mbap _) _ => .mbap
  | .bare (.pdu _) | .carry (.pdu _) _ => .pdu
  | .body content => content.kind

namespace Resolver

/-- A frame carries a PDU, and a PDU carries nothing or a body. -/
structure NamesBodies (resolver : Resolver) : Prop where
  frame : ∀ header direction, resolver (.mbap header) direction = some (.empty .pdu)
  pdu : ∀ function direction packet, resolver (.pdu function) direction = some packet →
    ∃ content, packet = .body content

/-- What a table names is the payload of one of its lines. -/
theorem exists_mem_of_lookUp {table : List Entry} {function : UInt8} {packet : Packet}
    (found : lookUp table function direction = some packet) : ∃ entry ∈ table, entry.payload = packet := by
  obtain ⟨entry, first, same⟩ := Option.map_eq_some_iff.mp found
  exact ⟨entry, List.mem_of_find?_eq_some first, same⟩

theorem namesBodies_basic : NamesBodies basic where
  frame _ _ := rfl
  pdu function direction packet named := by
    have lines : ∀ entry ∈ basicTable, ∃ content, entry.payload = .body content := by
      simp [basicTable, Packet.empty]
    rw [basic] at named
    split at named
    · exact ⟨.exception 0, (Option.some.inj named).symm⟩
    · obtain ⟨entry, member, rfl⟩ := exists_mem_of_lookUp named
      exact lines entry member

/-- Tables of bodies behind the register model name bodies. -/
theorem namesBodies_tables {tables : List (List Entry)}
    (bodies : ∀ table ∈ tables, ∀ entry ∈ table, ∃ content, entry.payload = .body content) :
    NamesBodies (firstOf (basic :: tables.map ofTable)) where
  frame _ _ := rfl
  pdu function direction packet named := by
    obtain ⟨resolver, member, answers⟩ := List.exists_of_findSome?_eq_some named
    rcases List.mem_cons.mp member with rfl | member
    · exact namesBodies_basic.pdu function direction packet answers
    · obtain ⟨table, inside, rfl⟩ := List.mem_map.mp member
      obtain ⟨entry, line, rfl⟩ := exists_mem_of_lookUp answers
      exact bodies table inside entry line

end Resolver

/-! ### Reading undoes writing -/

/-- A PDU that carries the kind of payload that the resolver names for it is resolved. -/
theorem Pdu.resolved_of_kind (bodies : resolver.NamesBodies) {pdu : Pdu}
    (kind : pdu.payload.map Packet.kind = (resolver (.pdu pdu.function) direction).map Packet.kind)
    (fits : ∀ content, pdu.payload = some (.body content) → content.Fits) :
    pdu.Resolved resolver direction := by
  obtain ⟨function, payload⟩ := pdu
  cases named : resolver (.pdu function) direction with
  | none =>
    obtain rfl : payload = none := by simpa [named] using kind
    exact .bare named
  | some packet =>
    obtain ⟨target, rfl⟩ := bodies.pdu function direction packet named
    rw [named] at kind
    obtain ⟨carried, rfl, same⟩ := Option.map_eq_some_iff.mp kind
    -- No kind of body is the kind of an envelope.
    obtain ⟨content, rfl⟩ : ∃ content, carried = .body content := by
      match carried with
      | .body content => exact ⟨content, rfl⟩
      | .bare (.mbap _) | .bare (.pdu _) | .carry (.mbap _) _ | .carry (.pdu _) _ =>
        cases target <;> simp [Packet.kind, Body.kind] at same
    exact .carries named same.symm (fits content rfl)

/-- A frame that carries nothing and has not been read is written with its unit id, and read back. -/
theorem Frame.decode_encode_bare {header : Mbap} (fresh : header.declared = none) (suffix : Bytes) :
    decode resolver direction order ((Frame.mk header none).encode order ++ suffix) =
      .ok (⟨{ header with declared := some 1 }, none⟩, suffix) := by
  have whole : header.isCut = false := by simp [Mbap.isCut, fresh]
  have spelled : (Frame.mk header none).encode order ++ suffix =
      header.spell order 1 (header.unit :: suffix) := by
    rw [encode, toPacket, Packet.ofParts, Packet.encode, Mbap.encodeAlone, whole,
      if_neg (by decide), Mbap.encodeAbove_append]
    rfl
  rw [spelled, decode_spell_one]
  rfl

/-- **Reading undoes writing over the whole format.**  Take any factory that knows the register model and
further functions from tables, and any frame that has not been read itself and carries nothing, or a PDU
with the kind of payload that the factory names for its function and direction, of counts that fit their
fields.  Its bytes are read back as the same frame with the length that it was written with, and whatever
follows them is left alone. -/
theorem Frame.decode_encode_of_kind {factory : FrameFactory} {tables : List (List Resolver.Entry)}
    (made : factory.resolvers = Resolver.basic :: tables.map Resolver.ofTable)
    (bodies : ∀ table ∈ tables, ∀ entry ∈ table, ∃ content, entry.payload = .body content)
    (order : ByteOrder) (direction : Direction) {header : Mbap} (fresh : header.declared = none)
    {pdu? : Option Pdu}
    (kind : ∀ pdu, pdu? = some pdu →
      pdu.payload.map Packet.kind = (factory.resolver (.pdu pdu.function) direction).map Packet.kind)
    (values : ∀ pdu start words, pdu? = some pdu →
      pdu.payload = some (.body (.writeMultiple start words)) → words.length ≤ 127)
    (bytes : ∀ pdu buffer, pdu? = some pdu →
      pdu.payload = some (.body (.registerValues buffer)) → buffer.length ≤ 255)
    (suffix : Bytes) :
    let frame : Frame := ⟨header, pdu?.map Pdu.toPacket⟩
    ∃ read,
      decode factory.resolver direction order (frame.encode order ++ suffix) = .ok (read, suffix) ∧
        read.toPacket.same frame.toPacket ∧ read.payload = frame.payload ∧
        read.header = { header with declared := some frame.dataLength } := by
  intro frame
  have named : factory.resolver.NamesBodies := by
    rw [FrameFactory.resolver, made]
    exact Resolver.namesBodies_tables bodies
  cases carried : pdu? with
  | none =>
    have bare : frame = ⟨header, none⟩ := by simp [frame, carried]
    have whole : header.isCut = false := by simp [Mbap.isCut, fresh]
    rw [bare]
    refine ⟨_, decode_encode_bare fresh suffix, ?_, rfl, ?_⟩
    · simp [toPacket, Packet.ofParts, Packet.same, Packet.settled, Mbap.isCut, fresh]
    · simp [dataLength, whole]
  | some pdu =>
    have carries : frame = ⟨header, some pdu.toPacket⟩ := by simp [frame, carried]
    have fits : ∀ content, pdu.payload = some (.body content) → content.Fits := by
      intro content found
      cases content with
      | writeMultiple start words =>
        have few := values pdu start words carried found
        show 2 * words.length ≤ 255
        omega
      | registerValues buffer => exact bytes pdu buffer carried found
      | _ => trivial
    have resolved := Pdu.resolved_of_kind named (kind pdu carried) fits
    rw [carries]
    refine ⟨_, decode_encode (fun header => named.frame header direction) resolved suffix, ?_, rfl, rfl⟩
    simp [readBack, toPacket, Packet.ofParts, Packet.same, Packet.settled]

/-- A response of a function from a table: its bytes and two bytes behind them give it back. -/
theorem Frame.decode_encode_of_table :
    let factory : FrameFactory :=
      { resolvers := Resolver.basic :: [[⟨0x41, .response, .empty .registerValues⟩]].map Resolver.ofTable }
    let pdu : Pdu := ⟨0x41, some (.body (.registerValues [7, 8, 9]))⟩
    let frame : Frame := ⟨{ transactionId := 300, unit := 17 }, some pdu.toPacket⟩
    frame.encode .little = [44, 1, 0, 0, 0, 0, 6, 0, 17, 0x41, 3, 7, 8, 9] ∧
      ∃ read, decode factory.resolver .response .little (frame.encode .little ++ [1, 2]) =
          .ok (read, [1, 2]) ∧
        read.toPacket.same frame.toPacket ∧ read.payload = frame.payload ∧
        read.header = { transactionId := 300, unit := 17, declared := some 6 } := by
  intro factory pdu frame
  refine ⟨by decide, ?_⟩
  have kind : ∀ other, some pdu = some other → other.payload.map Packet.kind =
      (factory.resolver (.pdu other.function) .response).map Packet.kind := by
    rintro _ ⟨⟩
    decide
  have values : ∀ other start words, some pdu = some other →
      other.payload = some (.body (.writeMultiple start words)) → words.length ≤ 127 := by
    rintro _ _ _ ⟨⟩ ⟨⟩
  have bytes : ∀ other buffer, some pdu = some other →
      other.payload = some (.body (.registerValues buffer)) → buffer.length ≤ 255 := by
    rintro _ _ ⟨⟩ ⟨⟩
    decide
  exact decode_encode_of_kind rfl
    (by simp [Packet.empty]) .little .response rfl kind values bytes [1, 2]

/-! ### Writing undoes reading -/

/-- Two words in a row are read where they stand. -/
theorem eq_words_of_bind {α : Type} {make : UInt16 → UInt16 → α} {input rest : Bytes} {result : α}
    (read : (do
      let (first, input) ← takeWord order input
      let (second, input) ← takeWord order input
      return (make first second, input) : Except DecodeError (α × Bytes)) = .ok (result, rest)) :
    ∃ first second, result = make first second ∧
      input = order.word first ++ (order.word second ++ rest) := by
  obtain ⟨⟨first, input₁⟩, taken₁, read⟩ := exists_of_bind_eq_ok read
  obtain ⟨⟨second, input₂⟩, taken₂, read⟩ := exists_of_bind_eq_ok read
  obtain ⟨rfl, rfl⟩ := Prod.mk.inj (Except.ok.inj read)
  refine ⟨first, second, rfl, ?_⟩
  rw [eq_word_append_of_takeWord taken₁, eq_word_append_of_takeWord taken₂]

/-- A body that has been read stands in the input as it is written, is of the kind of the target, and its
counts fit. -/
theorem Body.eq_encode_append_of_decode {target content : Body} {input rest : Bytes}
    (read : target.decode order input = .ok (content, rest)) :
    input = content.encode order ++ rest ∧ target.kind = content.kind ∧ content.Fits := by
  cases target with
  | readRegisters start count =>
    obtain ⟨start, count, rfl, rfl⟩ := eq_words_of_bind read
    exact ⟨(List.append_assoc ..).symm, rfl, trivial⟩
  | writeRegister address value =>
    obtain ⟨address, value, rfl, rfl⟩ := eq_words_of_bind read
    exact ⟨(List.append_assoc ..).symm, rfl, trivial⟩
  | multipleWritten start count =>
    obtain ⟨start, count, rfl, rfl⟩ := eq_words_of_bind read
    exact ⟨(List.append_assoc ..).symm, rfl, trivial⟩
  | writeMultiple start values =>
    simp only [decode] at read
    obtain ⟨⟨start, input₁⟩, taken₁, read⟩ := exists_of_bind_eq_ok read
    obtain ⟨⟨count, input₂⟩, taken₂, read⟩ := exists_of_bind_eq_ok read
    obtain ⟨⟨byteCount, input₃⟩, taken₃, read⟩ := exists_of_bind_eq_ok read
    dsimp only at read taken₂ taken₃
    split at read
    · rename_i twice
      obtain ⟨⟨values, input₄⟩, taken₄, read⟩ := exists_of_bind_eq_ok read
      obtain ⟨rfl, rfl⟩ := Prod.mk.inj (Except.ok.inj read)
      obtain ⟨exact, spelled⟩ := eq_words_append_of_takeWords taken₄
      have small := byteCount.toNat_lt
      -- Both counts in front of the values are told from their number.
      have sameCount : UInt16.ofNat values.length = count := by rw [exact, UInt16.ofNat_toNat]
      have sameBytes : valuesByteCount values = byteCount := by
        rw [valuesByteCount, exact, ← twice, UInt8.ofNat_toNat]
      refine ⟨?_, rfl, show 2 * values.length ≤ 255 by omega⟩
      rw [eq_word_append_of_takeWord taken₁, eq_word_append_of_takeWord taken₂,
        length_of_takeByte taken₃, spelled, encode, sameCount, sameBytes]
      simp only [List.append_assoc, List.cons_append]
    · simp at read
  | registerValues bytes =>
    simp only [decode] at read
    obtain ⟨⟨byteCount, input₁⟩, taken₁, read⟩ := exists_of_bind_eq_ok read
    obtain ⟨⟨bytes, input₂⟩, taken₂, read⟩ := exists_of_bind_eq_ok read
    obtain ⟨rfl, rfl⟩ := Prod.mk.inj (Except.ok.inj read)
    obtain ⟨exact, spelled⟩ := length_of_takeBytes taken₂
    dsimp only at exact spelled
    have small := byteCount.toNat_lt
    have sameBytes : UInt8.ofNat bytes.length = byteCount := by rw [exact, UInt8.ofNat_toNat]
    refine ⟨?_, rfl, show bytes.length ≤ 255 by omega⟩
    rw [length_of_takeByte taken₁, spelled, encode, sameBytes, List.cons_append]
  | exception code =>
    simp only [decode] at read
    obtain ⟨⟨code, input₁⟩, taken₁, read⟩ := exists_of_bind_eq_ok read
    obtain ⟨rfl, rfl⟩ := Prod.mk.inj (Except.ok.inj read)
    exact ⟨length_of_takeByte taken₁, rfl, trivial⟩

/-- A PDU that has been read stands in the input as it is written, and carries what the resolver names for
it. -/
theorem Packet.exists_resolved_of_decodeInto (bodies : resolver.NamesBodies) {before : UInt8}
    {packet : Packet} {input rest : Bytes}
    (read : decodeInto resolver direction order (.bare (.pdu before)) input = .ok (packet, rest)) :
    ∃ pdu : Pdu, packet = pdu.toPacket ∧ input = pdu.toPacket.encode order ++ rest ∧
      pdu.Resolved resolver direction := by
  cases input with
  | nil =>
    rw [decodeInto] at read
    simp [Envelope.decode, takeByte, bind, Except.bind] at read
  | cons function tail =>
    rw [decodeInto_pdu] at read
    cases named : resolver (.pdu function) direction with
    | none =>
      rw [named] at read
      obtain ⟨rfl, rfl⟩ := Prod.mk.inj (Except.ok.inj read)
      exact ⟨⟨function, none⟩, rfl, rfl, .bare named⟩
    | some target =>
      obtain ⟨target, rfl⟩ := bodies.pdu function direction target named
      rw [named] at read
      dsimp only at read
      rw [decodeInto_body] at read
      cases taken : target.decode order tail with
      | error reason =>
        rw [taken] at read
        cases read
      | ok result =>
        obtain ⟨content, left⟩ := result
        rw [taken] at read
        obtain ⟨rfl, rfl⟩ := Prod.mk.inj (Except.ok.inj read)
        obtain ⟨spelled, kind, fits⟩ := Body.eq_encode_append_of_decode taken
        exact ⟨⟨function, some (.body content)⟩, rfl, congrArg (function :: ·) spelled,
          .carries named kind fits⟩

/-- A header that has been read takes a length field at least. -/
theorem Mbap.exists_spell_of_decode {target header : Mbap} {input rest : Bytes}
    (read : target.decode order input = .ok (header, rest)) :
    ∃ ids length tail, input = spell order ids length tail := by
  simp only [decode] at read
  obtain ⟨⟨_, input₁⟩, taken₁, read⟩ := exists_of_bind_eq_ok read
  obtain ⟨⟨_, input₂⟩, taken₂, read⟩ := exists_of_bind_eq_ok read
  obtain ⟨⟨_, input₃⟩, taken₃, read⟩ := exists_of_bind_eq_ok read
  obtain ⟨⟨_, input₄⟩, taken₄, _⟩ := exists_of_bind_eq_ok read
  dsimp only at taken₂ taken₃ taken₄
  apply exists_spell
  rw [eq_word_append_of_takeWord taken₁, eq_word_append_of_takeWord taken₂,
    eq_word_append_of_takeWord taken₃, eq_word_append_of_takeWord taken₄]
  simp only [List.length_append, ByteOrder.length_word]
  omega

namespace Frame

/-- What reading a frame can come to: it ends after its length field or after its unit id, or it carries a
PDU with what the resolver names for that. -/
inductive Reading (resolver : Resolver) (direction : Direction) (order : ByteOrder) :
    Bytes → Frame → Bytes → Prop
  | cut (ids : Mbap) (rest : Bytes) :
      Reading resolver direction order (ids.spell order 0 rest) ⟨headerOf ids 0 0, none⟩ rest
  | bare (ids : Mbap) (unit : UInt8) (rest : Bytes) :
      Reading resolver direction order (ids.spell order 1 (unit :: rest)) ⟨headerOf ids unit 1, none⟩ rest
  | carries (ids : Mbap) (unit : UInt8) (length : UInt16) {pdu : Pdu}
      (resolved : pdu.Resolved resolver direction) (rest : Bytes) :
      Reading resolver direction order
        (ids.spell order length (unit :: (pdu.toPacket.encode order ++ rest)))
        ⟨headerOf ids unit length, some pdu.toPacket⟩ rest

theorem reading_of_decode (bodies : resolver.NamesBodies) {input rest : Bytes} {frame : Frame}
    (read : decode resolver direction order input = .ok (frame, rest)) :
    Reading resolver direction order input frame rest := by
  obtain ⟨⟨_, _⟩, header, _⟩ := exists_of_bind_eq_ok read
  obtain ⟨ids, length, tail, rfl⟩ := Mbap.exists_spell_of_decode header
  by_cases cut : length = 0
  · subst cut
    rw [decode_spell_zero] at read
    obtain ⟨rfl, rfl⟩ := Prod.mk.inj (Except.ok.inj read)
    exact .cut ids tail
  cases tail with
  | nil => simp [Mbap.decode_spell, Mbap.takeUnit, cut, takeByte, Except.map] at header
  | cons unit tail =>
    rcases Nat.lt_or_ge 1 length.toNat with room | short
    · rw [decode_spell (UInt16.lt_iff_toNat_lt.mpr room), bodies.frame] at read
      dsimp only [Packet.empty] at read
      cases taken : Packet.decodeInto resolver direction order (.bare (.pdu 0)) tail with
      | error reason =>
        rw [taken] at read
        cases read
      | ok result =>
        rw [taken] at read
        obtain ⟨rfl, rfl⟩ := Prod.mk.inj (Except.ok.inj read)
        obtain ⟨pdu, same, rfl, resolved⟩ := Packet.exists_resolved_of_decodeInto bodies taken
        show Reading _ _ _ _ ⟨_, some result.1⟩ _
        rw [same]
        exact .carries ids unit length resolved result.2
    · obtain rfl : length = 1 := by
        have : length.toNat ≠ 0 := fun zero => cut (UInt16.toNat_inj.mp zero)
        exact UInt16.toNat_inj.mp (show length.toNat = 1 by omega)
      rw [decode_spell_one] at read
      obtain ⟨rfl, rfl⟩ := Prod.mk.inj (Except.ok.inj read)
      exact .bare ids unit tail

/-- A frame that ends after its length field is written without a unit id. -/
theorem encode_cut (order : ByteOrder) (ids : Mbap) :
    (Frame.mk (headerOf ids 0 0) none).encode order = ids.spell order 0 [] := by
  show (headerOf ids 0 0).encodeAlone order = _
  rw [Mbap.encodeAlone, if_pos (by simp [Mbap.isCut, headerOf]), Mbap.spell, List.append_nil]
  rfl

theorem encode_bare (order : ByteOrder) (ids : Mbap) (unit : UInt8) :
    (Frame.mk (headerOf ids unit 1) none).encode order = ids.spell order 1 [unit] := by
  show (headerOf ids unit 1).encodeAlone order = _
  rw [Mbap.encodeAlone, if_neg (by simp [Mbap.isCut, headerOf]), ← List.append_nil (Mbap.encodeAbove ..),
    Mbap.encodeAbove_append]
  rfl

/-- **A frame that has been read stands in the input as it is written**, with some length in its length
field. -/
theorem exists_spell_of_decode (bodies : resolver.NamesBodies) {input rest : Bytes} {frame : Frame}
    (read : decode resolver direction order input = .ok (frame, rest)) :
    ∃ ids length front, input = Mbap.spell order ids length (front ++ rest) ∧
      frame.encode order = ids.spell order (UInt16.ofNat front.length) front ∧ front.length ≤ 262 := by
  cases reading_of_decode bodies read with
  | cut ids => exact ⟨ids, 0, [], rfl, encode_cut order ids, by decide⟩
  | bare ids unit => exact ⟨ids, 1, [unit], rfl, encode_bare order ids unit, by simp⟩
  | @carries ids unit length pdu resolved =>
    have small := resolved.measure_le
    refine ⟨ids, length, unit :: pdu.toPacket.encode order, rfl, ?_, ?_⟩
    · rw [encode_eq_spell, List.length_cons, Packet.length_encode, Nat.add_comm]
      rfl
    · rw [List.length_cons, Packet.length_encode]
      omega

/-- **Writing undoes reading on every input that is accepted**, for every factory that knows the register
model and further functions from tables.  A frame that has been read measures and takes as many bytes as
reading it has consumed.  These are the bytes that stood in the input, except for the length field, which
counts what follows it; so a frame whose length field has told the truth is written byte for byte as it
was. -/
theorem encode_of_decode {factory : FrameFactory} {tables : List (List Resolver.Entry)}
    (made : factory.resolvers = Resolver.basic :: tables.map Resolver.ofTable)
    (bodies : ∀ table ∈ tables, ∀ entry ∈ table, ∃ content, entry.payload = .body content)
    {order : ByteOrder} {direction : Direction} {input rest : Bytes} {frame : Frame}
    (read : decode factory.resolver direction order input = .ok (frame, rest)) :
    ∃ consumed, input = consumed ++ rest ∧ frame.measure = consumed.length ∧
      (frame.encode order).length = consumed.length ∧
      (∀ index, index < 6 ∨ 8 ≤ index → (frame.encode order)[index]? = consumed[index]?) ∧
      8 ≤ consumed.length ∧
      order.read (((frame.encode order).drop 6).take 2) = consumed.length - 8 ∧
      (order.read ((consumed.drop 6).take 2) = consumed.length - 8 → frame.encode order = consumed) := by
  have named : factory.resolver.NamesBodies := by
    rw [FrameFactory.resolver, made]
    exact Resolver.namesBodies_tables bodies
  obtain ⟨ids, length, front, rfl, written, small⟩ := exists_spell_of_decode named read
  have field (count : UInt16) :
      order.read (((ids.spell order count front).drop 6).take 2) = count.toNat := by
    have bound := count.toNat_lt
    rw [Mbap.spell, List.drop_left' (ids.length_encodeIds order),
      List.take_left' (order.length_word count), ByteOrder.word, ByteOrder.read_write,
      Nat.mod_eq_of_lt (by omega)]
  have kept : (UInt16.ofNat front.length).toNat = front.length := by
    simp
    omega
  have measured : frame.measure = 8 + front.length := by
    rw [measure, ← Packet.length_encode order]
    exact (congrArg List.length written).trans (Mbap.length_spell ..)
  refine ⟨ids.spell order length front, by simp [Mbap.spell], ?_, ?_, ?_, ?_, ?_, ?_⟩
  · rw [measured, Mbap.length_spell]
  · rw [written, Mbap.length_spell, Mbap.length_spell]
  · intro index outside
    rw [written]
    rcases outside with before | behind
    · rw [Mbap.spell, Mbap.spell, List.getElem?_append_left (by rwa [Mbap.length_encodeIds]),
        List.getElem?_append_left (by rwa [Mbap.length_encodeIds])]
    · obtain ⟨offset, rfl⟩ := Nat.exists_eq_add_of_le behind
      rw [Mbap.getElem?_spell, Mbap.getElem?_spell]
  · rw [Mbap.length_spell]
    omega
  · rw [written, field, kept, Mbap.length_spell, Nat.add_sub_cancel_left]
  · intro honest
    rw [field, Mbap.length_spell, Nat.add_sub_cancel_left] at honest
    obtain rfl : length = UInt16.ofNat front.length :=
      UInt16.toNat_inj.mp (honest.trans kept.symm)
    exact written

/-- A request that declares two bytes more than it has is accepted, and written with its true length. -/
theorem encode_of_padded :
    let factory : FrameFactory := { resolvers := Resolver.basic :: [].map Resolver.ofTable }
    let input : Bytes := [0, 1, 0, 0, 0, 0, 0, 8, 17, 3, 0, 5, 0, 2, 0, 0]
    let frame : Frame :=
      ⟨{ transactionId := 1, unit := 17, declared := some 8 },
        some (Pdu.ofFunction .readHoldingRegisters (.body (.readRegisters 5 2))).toPacket⟩
    decode factory.resolver .command .big input = .ok (frame, [0, 0]) ∧
      frame.measure = 14 ∧ (∀ index, index < 6 ∨ 8 ≤ index →
        (frame.encode .big)[index]? = (input.take 14)[index]?) ∧
      ByteOrder.read .big (((frame.encode .big).drop 6).take 2) = 6 := by
  intro factory input frame
  have read : decode factory.resolver .command .big input = .ok (frame, [0, 0]) := by cbv
  obtain ⟨consumed, split, measured, _, same, _, field, _⟩ :=
    encode_of_decode rfl (by simp) read
  obtain rfl : consumed = input.take 14 := List.append_cancel_right (split.symm.trans rfl)
  exact ⟨read, measured, same, field⟩

end Frame

end ModbusTcp
