import ModbusTcp.Proofs.Packet.Format

/-!
# Sameness of frames

Frames are compared by what they say, and the length that was declared for a frame on the wire takes part
only where it has cut the frame before its unit id.  For frames that have been read, or that have been
built around what a factory knows, this is the same as comparing their bytes.

* `Packet.encode_settled` — what sameness leaves out is not written.
* `Frame.Arises` — frames that have been read, and frames that have been built.
* `Frame.Legible` — the three forms of such frames.
* `Frame.Legible.exists_decode_encode` — the bytes of such a frame are read back as the same frame.
* **`Frame.same_iff_encode_eq`** — two such frames are the same exactly if they have the same bytes.
-/

namespace ModbusTcp

variable {resolver : Resolver} {direction : Direction}

/-! ### The same packets have the same bytes -/

namespace Packet

theorem same_iff {left right : Packet} : left.same right ↔ left.settled = right.settled :=
  decide_eq_true_iff

theorem measure_settled (packet : Packet) : packet.settled.measure = packet.measure := by
  induction packet with
  | bare envelope =>
    cases envelope with
    | mbap header =>
      by_cases cut : header.isCut <;> simp [settled, measure, Mbap.isCut]
    | pdu function => rfl
  | carry envelope payload ih =>
    cases envelope with
    | mbap header => exact congrArg (9 + ·) ih
    | pdu function => exact congrArg (1 + ·) ih
  | body content => rfl

/-- What sameness leaves out is not written. -/
theorem encode_settled (order : ByteOrder) (packet : Packet) :
    packet.settled.encode order = packet.encode order := by
  induction packet with
  | bare envelope =>
    cases envelope with
    | mbap header =>
      -- The mark of a cut header is all that is written of a declared length.
      by_cases cut : header.isCut
      · have marked : ({ header with declared := some 0 } : Mbap).isCut = true := rfl
        simp only [settled, cut, if_true, encode, Mbap.encodeAlone, marked]
        rfl
      · have unmarked : ({ header with declared := none } : Mbap).isCut = false := rfl
        simp only [settled, cut, encode, Mbap.encodeAlone, unmarked, Bool.false_eq_true, if_false]
        rfl
    | pdu function => rfl
  | carry envelope payload ih =>
    cases envelope with
    | mbap header =>
      rw [settled, encode, encode, measure_settled, ih]
      rfl
    | pdu function => exact congrArg (function :: ·) ih
  | body content => rfl

theorem encode_eq_of_same (order : ByteOrder) {left right : Packet} (same : left.same right) :
    left.encode order = right.encode order := by
  rw [← encode_settled, same_iff.mp same, encode_settled]

end Packet

/-! ### Frames that are read and built -/

/-- A PDU that carries the kind of payload that a resolver names for it, with counts that fit their
fields. -/
structure Pdu.Suits (resolver : Resolver) (direction : Direction) (pdu : Pdu) : Prop where
  kind : pdu.payload.map Packet.kind = (resolver (.pdu pdu.function) direction).map Packet.kind
  fits : ∀ content, pdu.payload = some (.body content) → content.Fits

namespace Frame

/-- Frames that have been read, in either byte order, and frames that have been built around a PDU, anew
or in reply to any other frame. -/
inductive Arises (resolver : Resolver) (direction : Direction) : Frame → Prop
  | read {order : ByteOrder} {input rest : Bytes} {frame : Frame}
      (decoded : decode resolver direction order input = .ok (frame, rest)) :
      Arises resolver direction frame
  | built (transactionId protocolId : UInt16) (unit : UInt8) {pdu : Pdu}
      (suits : pdu.Suits resolver direction) :
      Arises resolver direction (.ofPdu transactionId protocolId unit pdu)
  | replied (request : Frame) {pdu : Pdu} (suits : pdu.Suits resolver direction) :
      Arises resolver direction (request.reply pdu)

/-- Frames that their bytes tell all about: those that end after the length field or after the unit id,
and those whose PDU carries what a resolver names for it. -/
inductive Legible (resolver : Resolver) (direction : Direction) : Frame → Prop
  | cut (ids : Mbap) : Legible resolver direction ⟨headerOf ids 0 0, none⟩
  | bare (ids : Mbap) (unit : UInt8) : Legible resolver direction ⟨headerOf ids unit 1, none⟩
  | carries (header : Mbap) {pdu : Pdu} (resolved : pdu.Resolved resolver direction) :
      Legible resolver direction ⟨header, some pdu.toPacket⟩

theorem Arises.legible (bodies : resolver.NamesBodies) {frame : Frame}
    (arises : frame.Arises resolver direction) : frame.Legible resolver direction := by
  cases arises with
  | read decoded =>
    cases reading_of_decode bodies decoded with
    | cut ids => exact .cut ids
    | bare ids unit => exact .bare ids unit
    | carries ids unit length resolved => exact .carries _ resolved
  | built transactionId protocolId unit suits =>
    exact .carries _ (Pdu.resolved_of_kind bodies suits.kind suits.fits)
  | replied request suits => exact .carries _ (Pdu.resolved_of_kind bodies suits.kind suits.fits)

/-! ### Frames with the same bytes are the same -/

/-- The bytes of a legible frame are read back as the same frame. -/
theorem Legible.exists_decode_encode (bodies : resolver.NamesBodies) {frame : Frame}
    (legible : frame.Legible resolver direction) (order : ByteOrder) :
    ∃ read, decode resolver direction order (frame.encode order) = .ok (read, []) ∧
      read.toPacket.same frame.toPacket := by
  cases legible with
  | cut ids => exact ⟨_, by rw [encode_cut, decode_spell_zero], Packet.same_iff.mpr rfl⟩
  | bare ids unit => exact ⟨_, by rw [encode_bare, decode_spell_one], Packet.same_iff.mpr rfl⟩
  | carries header resolved =>
    exact ⟨_, decode_encode_alone (fun header => bodies.frame header direction) resolved,
      same_readBack header _⟩

/-- **Two frames are the same exactly if they have the same bytes**, in either byte order and whatever
lengths were declared for them.  Take any factory that knows the register model and further functions
from tables, and any two frames that have been read with it in one direction, or that have been built,
anew or in reply, around a PDU with the kind of payload that the factory names for it and counts that fit
their fields. -/
theorem same_iff_encode_eq {factory : FrameFactory} {tables : List (List Resolver.Entry)}
    (made : factory.resolvers = Resolver.basic :: tables.map Resolver.ofTable)
    (bodies : ∀ table ∈ tables, ∀ entry ∈ table, ∃ content, entry.payload = .body content)
    {left right : Frame} (leftArises : left.Arises factory.resolver direction)
    (rightArises : right.Arises factory.resolver direction) (order : ByteOrder) :
    left.toPacket.same right.toPacket ↔ left.encode order = right.encode order := by
  have named : factory.resolver.NamesBodies := by
    rw [FrameFactory.resolver, made]
    exact Resolver.namesBodies_tables bodies
  constructor
  · exact Packet.encode_eq_of_same order
  · intro bytes
    obtain ⟨read, decoded, same⟩ := (leftArises.legible named).exists_decode_encode named order
    obtain ⟨read', decoded', same'⟩ := (rightArises.legible named).exists_decode_encode named order
    obtain rfl : read = read' := by
      rw [bytes, decoded'] at decoded
      exact (Prod.mk.inj (Except.ok.inj decoded)).1.symm
    rw [Packet.same_iff] at same same' ⊢
    exact same.symm.trans same'

/-- A request of a function from a table that was read with two bytes of padding is the one that is built
anew, as their bytes tell in the other byte order too. -/
theorem same_built_of_padded :
    let factory : FrameFactory :=
      { resolvers := Resolver.basic :: [[⟨0x41, .command, .empty .registerValues⟩]].map Resolver.ofTable }
    let pdu : Pdu := ⟨0x41, some (.body (.registerValues [7, 8]))⟩
    let read : Frame := ⟨{ transactionId := 1, unit := 17, declared := some 7 }, some pdu.toPacket⟩
    let built : Frame := .ofPdu 1 0 17 pdu
    decode factory.resolver .command .big [0, 1, 0, 0, 0, 0, 0, 7, 17, 0x41, 2, 7, 8, 0, 0] =
        .ok (read, [0, 0]) ∧ pdu.Suits factory.resolver .command ∧
      read.encode .little = built.encode .little ∧ read.toPacket.same built.toPacket := by
  intro factory pdu read built
  have decoded : decode factory.resolver .command .big [0, 1, 0, 0, 0, 0, 0, 7, 17, 0x41, 2, 7, 8, 0, 0] =
      .ok (read, [0, 0]) := by cbv
  have suits : pdu.Suits factory.resolver .command := by
    refine ⟨by decide, ?_⟩
    rintro _ ⟨⟩
    show 2 ≤ 255
    decide
  have bytes : read.encode .little = built.encode .little := by decide
  have told := same_iff_encode_eq rfl (by simp [Packet.empty]) (.read decoded) (.built 1 0 17 suits) .little
  exact ⟨decoded, suits, bytes, told.mpr bytes⟩

end Frame

end ModbusTcp
