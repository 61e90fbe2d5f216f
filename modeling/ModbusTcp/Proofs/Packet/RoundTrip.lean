import ModbusTcp.Packet.Decode

/-!
# Reading what has been written

The bytes of a frame are three ids, a length field and a tail.  `Mbap.spell` writes them down in this
form, and every run of at least eight bytes has it, so whatever is said of spelled frames is said of all.

* `Mbap.exists_spell` — eight bytes or more are a spelled frame.
* `Frame.decode_spell` — what reading makes of a spelled frame, for any resolver.
* `Body.decode_encode`, `Packet.decodeInto_pdu` — the layers inside.
* **`Frame.decode_encode`** — a frame whose PDU carries what the resolver names is read back, and what
  follows it is left alone.
-/

namespace ModbusTcp

variable {order : ByteOrder} {resolver : Resolver} {direction : Direction}

/-! ### Spelled frames -/

/-- Two bytes or more begin with a word. -/
theorem exists_word (order : ByteOrder) {bytes : Bytes} (enough : 2 ≤ bytes.length) :
    ∃ word rest, bytes = order.word word ++ rest := by
  match bytes, enough with
  | first :: second :: rest, _ =>
    have taken : takeWord order (first :: second :: rest) =
        .ok (UInt16.ofNat (order.read [first, second]), rest) := rfl
    exact ⟨_, rest, eq_word_append_of_takeWord taken⟩

namespace Mbap

/-- The bytes of a frame with these ids, whose length field says `length` and which goes on with `tail`. -/
def spell (order : ByteOrder) (ids : Mbap) (length : UInt16) (tail : Bytes) : Bytes :=
  ids.encodeIds order ++ (order.word length ++ tail)

@[simp] theorem length_encodeIds (order : ByteOrder) (header : Mbap) :
    (header.encodeIds order).length = 6 := by
  simp [encodeIds]

@[simp] theorem length_spell (order : ByteOrder) (ids : Mbap) (length : UInt16) (tail : Bytes) :
    (ids.spell order length tail).length = 8 + tail.length := by
  simp only [spell, List.length_append, length_encodeIds, ByteOrder.length_word]
  omega

/-- What follows a spelled frame goes on with its tail. -/
theorem spell_append (ids : Mbap) (length : UInt16) (tail rest : Bytes) :
    ids.spell order length tail ++ rest = ids.spell order length (tail ++ rest) := by
  simp only [spell, List.append_assoc]

theorem drop_spell (ids : Mbap) (length : UInt16) (tail : Bytes) :
    (ids.spell order length tail).drop 8 = tail := by
  rw [spell, ← List.append_assoc]
  exact List.drop_left' (by simp)

theorem take_spell (ids : Mbap) (length : UInt16) (tail : Bytes) :
    (ids.spell order length tail).take 6 = ids.encodeIds order :=
  List.take_left' (ids.length_encodeIds order)

/-- The length field of a spelled frame. -/
theorem read_spell (ids : Mbap) (length : UInt16) (tail : Bytes) :
    order.read (((ids.spell order length tail).drop 6).take 2) = length.toNat := by
  have bound := length.toNat_lt
  rw [spell, List.drop_left' (ids.length_encodeIds order), List.take_left' (order.length_word length),
    ByteOrder.word, ByteOrder.read_write, Nat.mod_eq_of_lt (by omega)]

/-- A byte behind the length field of a spelled frame is one of its tail. -/
theorem getElem?_spell (ids : Mbap) (length : UInt16) (tail : Bytes) (index : Nat) :
    (ids.spell order length tail)[8 + index]? = tail[index]? := by
  rw [← List.getElem?_drop, drop_spell]

/-- Eight bytes or more are a spelled frame. -/
theorem exists_spell (order : ByteOrder) {bytes : Bytes} (enough : 8 ≤ bytes.length) :
    ∃ ids length tail, bytes = spell order ids length tail := by
  obtain ⟨transactionId, bytes₁, rfl⟩ := exists_word order (show 2 ≤ bytes.length by omega)
  rw [List.length_append, ByteOrder.length_word] at enough
  obtain ⟨protocolId, bytes₂, rfl⟩ := exists_word order (show 2 ≤ bytes₁.length by omega)
  rw [List.length_append, ByteOrder.length_word] at enough
  obtain ⟨protocolType, bytes₃, rfl⟩ := exists_word order (show 2 ≤ bytes₂.length by omega)
  rw [List.length_append, ByteOrder.length_word] at enough
  obtain ⟨length, tail, rfl⟩ := exists_word order (show 2 ≤ bytes₃.length by omega)
  refine ⟨{ transactionId, protocolId, protocolType }, length, tail, ?_⟩
  simp [spell, encodeIds]

/-- Reading a header off a spelled frame gives its ids and its length; the unit id is the first byte of
the tail, if the length says that there is one. -/
theorem decode_spell (order : ByteOrder) (target ids : Mbap) (length : UInt16) (tail : Bytes) :
    target.decode order (ids.spell order length tail) =
      (takeUnit target.unit length tail).map fun (unit, rest) =>
        ({ ids with unit, declared := some length }, rest) := by
  simp only [decode, spell, encodeIds, List.append_assoc, takeWord_append, bind, Except.bind]
  cases takeUnit target.unit length tail <;> rfl

/-- The bytes above a payload are those of a spelled frame. -/
theorem encodeAbove_append (order : ByteOrder) (header : Mbap) (length : Nat) (rest : Bytes) :
    header.encodeAbove order length ++ rest =
      header.spell order (UInt16.ofNat (1 + length)) (header.unit :: rest) := by
  simp [encodeAbove, spell]

end Mbap

/-! ### Frames without and with room for a PDU -/

namespace Frame

/-- The header that is read off a spelled frame with room for a unit id. -/
def headerOf (ids : Mbap) (unit : UInt8) (length : UInt16) : Mbap :=
  { ids with unit, declared := some length }

/-- A frame that ends after its length field carries nothing. -/
theorem decode_spell_zero (ids : Mbap) (tail : Bytes) :
    decode resolver direction order (ids.spell order 0 tail) =
      .ok (⟨headerOf ids 0 0, none⟩, tail) := by
  rw [decode, Mbap.decode_spell]
  rfl

/-- A frame that ends after its unit id carries nothing. -/
theorem decode_spell_one (ids : Mbap) (unit : UInt8) (tail : Bytes) :
    decode resolver direction order (ids.spell order 1 (unit :: tail)) =
      .ok (⟨headerOf ids unit 1, none⟩, tail) := by
  rw [decode, Mbap.decode_spell]
  rfl

/-- A frame with room for a PDU carries what the resolver names. -/
theorem decode_spell {length : UInt16} (room : 1 < length) (ids : Mbap) (unit : UInt8) (tail : Bytes) :
    decode resolver direction order (ids.spell order length (unit :: tail)) =
      match resolver (.mbap (headerOf ids unit length)) direction with
      | none => .ok (⟨headerOf ids unit length, none⟩, tail)
      | some payload =>
        (Packet.decodeInto resolver direction order payload tail).map fun (payload, rest) =>
          (⟨headerOf ids unit length, some payload⟩, rest) := by
  have nonzero : length ≠ 0 := by
    rintro rfl
    exact absurd room (by decide)
  have expects : (headerOf ids unit length).expectsPayload = true := by
    simpa [headerOf, Mbap.expectsPayload] using room
  rw [decode, Mbap.decode_spell, Mbap.takeUnit, if_neg nonzero]
  simp only [takeByte_cons, Except.map, bind, Except.bind]
  rw [show ({ ids with unit, declared := some length } : Mbap) = headerOf ids unit length from rfl,
    if_pos expects]
  cases resolver (.mbap (headerOf ids unit length)) direction with
  | none => rfl
  | some payload =>
    dsimp only
    cases Packet.decodeInto resolver direction order payload tail <;> rfl

end Frame

/-! ### PDUs and bodies -/

/-- Reading into an envelope takes the fields of an envelope, and perhaps a payload. -/
theorem Packet.decodeInto_ofParts (envelope : Envelope) (payload? : Option Packet) (input : Bytes) :
    decodeInto resolver direction order (.ofParts envelope payload?) input =
      match envelope.decode order input with
      | .error reason => .error reason
      | .ok (envelope', rest) =>
        if envelope'.expectsPayload then
          match resolver envelope' direction with
          | none => .ok ((ofParts envelope payload?).withEnvelope envelope', rest)
          | some payload =>
            (decodeInto resolver direction order payload rest).map fun (payload, rest) =>
              (.carry envelope' payload, rest)
        else .ok ((ofParts envelope payload?).withEnvelope envelope', rest) := by
  cases payload? <;>
  · rw [ofParts, decodeInto]
    split
    · next reason decoded => rw [decoded]
    · next envelope' rest decoded =>
      rw [decoded]
      dsimp only
      cases resolver envelope' direction with
      | none => rfl
      | some payload =>
        dsimp only
        cases decodeInto resolver direction order payload rest <;> rfl

/-- A PDU that is read carries what it has carried before, if the resolver names nothing. -/
theorem Packet.decodeInto_ofParts_pdu (function before : UInt8) (payload? : Option Packet) (tail : Bytes) :
    decodeInto resolver direction order (.ofParts (.pdu before) payload?) (function :: tail) =
      match resolver (.pdu function) direction with
      | none => .ok (.ofParts (.pdu function) payload?, tail)
      | some payload =>
        (decodeInto resolver direction order payload tail).map fun (payload, rest) =>
          (.carry (.pdu function) payload, rest) := by
  rw [decodeInto_ofParts]
  cases payload? <;> rfl

/-- Reading a PDU takes its function byte; the rest is up to the resolver. -/
theorem Packet.decodeInto_pdu (function before : UInt8) (tail : Bytes) :
    decodeInto resolver direction order (.bare (.pdu before)) (function :: tail) =
      match resolver (.pdu function) direction with
      | none => .ok (.bare (.pdu function), tail)
      | some payload =>
        (decodeInto resolver direction order payload tail).map fun (payload, rest) =>
          (.carry (.pdu function) payload, rest) :=
  decodeInto_ofParts_pdu function before none tail

/-- Reading a body is up to the body. -/
theorem Packet.decodeInto_body (target : Body) (input : Bytes) :
    decodeInto resolver direction order (.body target) input =
      (target.decode order input).map fun (content, rest) => (.body content, rest) := by
  rw [decodeInto]
  cases target.decode order input <;> rfl

/-- The counts of a body fit the one byte that they are written in. -/
def Body.Fits : Body → Prop
  | .writeMultiple _ values => 2 * values.length ≤ 255
  | .registerValues bytes => bytes.length ≤ 255
  | .readRegisters .. | .writeRegister .. | .multipleWritten .. | .exception _ => True

/-- A body that fits is read back into any body of its kind. -/
theorem Body.decode_encode {target content : Body} (kind : target.kind = content.kind)
    (fits : content.Fits) (suffix : Bytes) :
    target.decode order (content.encode order ++ suffix) = .ok (content, suffix) := by
  cases content with
  | readRegisters start count =>
    cases target <;> simp [Body.kind] at kind
    simp [decode, encode, bind, Except.bind, pure, Except.pure]
  | writeRegister address value =>
    cases target <;> simp [Body.kind] at kind
    simp [decode, encode, bind, Except.bind, pure, Except.pure]
  | writeMultiple start values =>
    cases target <;> simp [Body.kind] at kind
    have fits : 2 * values.length ≤ 255 := fits
    have count : (UInt16.ofNat values.length).toNat = values.length := by
      simp
      omega
    have bytes : (valuesByteCount values).toNat = 2 * values.length := by
      simp [valuesByteCount]
      omega
    simp [decode, encode, bind, Except.bind, pure, Except.pure, count, bytes]
  | registerValues bytes =>
    cases target <;> simp [Body.kind] at kind
    have fits : bytes.length ≤ 255 := fits
    have count : (UInt8.ofNat bytes.length).toNat = bytes.length := by
      simp
      omega
    simp [decode, encode, bind, Except.bind, pure, Except.pure, count, takeBytes_append]
  | multipleWritten start count =>
    cases target <;> simp [Body.kind] at kind
    simp [decode, encode, bind, Except.bind, pure, Except.pure]
  | exception code =>
    cases target <;> simp [Body.kind] at kind
    simp [decode, encode, bind, Except.bind, pure, Except.pure]

/-- A body that fits takes less room than a frame has. -/
theorem Body.measure_le {content : Body} (fits : content.Fits) : content.measure ≤ 260 := by
  cases content with
  | writeMultiple start values =>
    have fits : 2 * values.length ≤ 255 := fits
    simp only [measure]
    omega
  | registerValues bytes =>
    have fits : bytes.length ≤ 255 := fits
    simp only [measure]
    omega
  | _ => simp [measure]

/-! ### Whole frames -/

namespace Pdu

/-- What a PDU carries is of the kind that the resolver names for it, and its counts fit. -/
inductive Resolved (resolver : Resolver) (direction : Direction) : Pdu → Prop
  | bare {function : UInt8} (unnamed : resolver (.pdu function) direction = none) :
      Resolved resolver direction ⟨function, none⟩
  | carries {function : UInt8} {target content : Body}
      (named : resolver (.pdu function) direction = some (.body target))
      (kind : target.kind = content.kind) (fits : content.Fits) :
      Resolved resolver direction ⟨function, some (.body content)⟩

theorem Resolved.measure_le {pdu : Pdu} (resolved : pdu.Resolved resolver direction) :
    pdu.toPacket.measure ≤ 261 := by
  cases resolved with
  | bare => simp [toPacket, Packet.ofParts, Packet.measure]
  | carries _ _ fits =>
    have := Body.measure_le fits
    simp only [toPacket, Packet.ofParts, Packet.measure]
    omega

/-- A PDU that carries what the resolver names is read back. -/
theorem Resolved.decodeInto_encode {pdu : Pdu} (resolved : pdu.Resolved resolver direction)
    (before : UInt8) (suffix : Bytes) :
    Packet.decodeInto resolver direction order (.bare (.pdu before))
        (pdu.toPacket.encode order ++ suffix) = .ok (pdu.toPacket, suffix) := by
  cases resolved with
  | @bare function unnamed =>
    show Packet.decodeInto _ _ _ _ (function :: suffix) = _
    rw [Packet.decodeInto_pdu, unnamed]
    rfl
  | @carries function target content named kind fits =>
    show Packet.decodeInto _ _ _ _ (function :: (content.encode order ++ suffix)) = _
    rw [Packet.decodeInto_pdu, named]
    dsimp only
    rw [Packet.decodeInto, Body.decode_encode kind fits]
    rfl

end Pdu

namespace Frame

/-- A frame with a payload, spelled out. -/
theorem encode_eq_spell (order : ByteOrder) (header : Mbap) (payload : Packet) :
    (Frame.mk header (some payload)).encode order =
      header.spell order (UInt16.ofNat (1 + payload.measure)) (header.unit :: payload.encode order) := by
  rw [encode, toPacket, Packet.ofParts, Packet.encode, Mbap.encodeAbove_append]

/-- A frame around a PDU as it is read back: its header knows how long it was. -/
def readBack (header : Mbap) (pdu : Pdu) : Frame :=
  ⟨{ header with declared := some (UInt16.ofNat (1 + pdu.toPacket.measure)) }, some pdu.toPacket⟩

/-- **Reading undoes writing.**  A frame whose PDU carries what the resolver names is read back with the
length that was written for it, and the bytes that follow it are left. -/
theorem decode_encode {header : Mbap} {pdu : Pdu}
    (named : ∀ header, resolver (.mbap header) direction = some (.empty .pdu))
    (resolved : pdu.Resolved resolver direction) (suffix : Bytes) :
    decode resolver direction order ((Frame.mk header (some pdu.toPacket)).encode order ++ suffix) =
      .ok (readBack header pdu, suffix) := by
  have small := resolved.measure_le
  have positive := pdu.toPacket.measure_pos
  have room : 1 < UInt16.ofNat (1 + pdu.toPacket.measure) := by
    rw [UInt16.lt_iff_toNat_lt]
    simp
    omega
  rw [encode, toPacket, Packet.ofParts, Packet.encode, List.append_assoc, Mbap.encodeAbove_append,
    decode_spell room, named]
  dsimp only [Packet.empty]
  rw [resolved.decodeInto_encode]
  rfl

/-- The same with nothing behind the frame. -/
theorem decode_encode_alone {header : Mbap} {pdu : Pdu}
    (named : ∀ header, resolver (.mbap header) direction = some (.empty .pdu))
    (resolved : pdu.Resolved resolver direction) :
    decode resolver direction order ((Frame.mk header (some pdu.toPacket)).encode order) =
      .ok (readBack header pdu, []) := by
  have read : decode resolver direction order
      ((Frame.mk header (some pdu.toPacket)).encode order ++ []) = _ := decode_encode named resolved []
  rwa [List.append_nil] at read

/-- A frame that is read back is the same frame. -/
theorem same_readBack (header : Mbap) (pdu : Pdu) :
    (readBack header pdu).toPacket.same (Frame.mk header (some pdu.toPacket)).toPacket := by
  simp [readBack, toPacket, Packet.ofParts, Packet.same, Packet.settled]

end Frame

end ModbusTcp
