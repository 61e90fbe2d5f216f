import ModbusTcp.Packet.Encode
import ModbusTcp.Resolver

/-!
# Reading packets

A packet is read into a packet of the same kind, the target: each layer takes its own fields from the
input, then the resolver names the next layer, until a layer carries nothing.  A header that declares
no room for a PDU is not asked for one.  Each layer takes at least one byte, so reading ends, whatever
the resolver says.

* `Packet.decodeInto`, `Packet.decode` — reading into a packet, or into the empty packet of a kind.
* `Frame.decode` — reading a frame, which by `Frame.decode_toPacket` is reading a packet that starts with a
  header.
* `Packet.missing` — how many more bytes are needed, as far as that can be told; `Packet.shortage` — by
  how many bytes a requirement exceeds what is buffered.
* `Envelope.decode_shortens`, `Body.decode_shortens` — a layer takes at least one byte.
-/

namespace ModbusTcp

namespace Mbap

/-- The unit id behind a length field, which is not there if the length is zero. -/
def takeUnit (kept : UInt8) (length : UInt16) (input : Bytes) : Except DecodeError (UInt8 × Bytes) :=
  if length = 0 then .ok (kept, input) else takeByte input

/-- Reads a header into another one.  A header that declares no data has no unit id on the wire and
keeps the one of the target. -/
def decode (order : ByteOrder) (target : Mbap) (input : Bytes) : Except DecodeError (Mbap × Bytes) := do
  let (transactionId, input) ← takeWord order input
  let (protocolId, input) ← takeWord order input
  let (protocolType, input) ← takeWord order input
  let (length, input) ← takeWord order input
  let (unit, input) ← takeUnit target.unit length input
  return ({ transactionId, protocolId, protocolType, unit, declared := some length }, input)

/-- A header expects a payload, unless it declares room for its unit id at most. -/
def expectsPayload (header : Mbap) : Bool := header.declared.all (1 < ·)

end Mbap

namespace Envelope

/-- Reads the fields of an envelope. -/
def decode (order : ByteOrder) (input : Bytes) : Envelope → Except DecodeError (Envelope × Bytes)
  | .mbap header => do
    let (header, input) ← header.decode order input
    return (.mbap header, input)
  | .pdu _ => do
    let (function, input) ← takeByte input
    return (.pdu function, input)

/-- A function byte always expects a payload, a header if it declares room for one. -/
def expectsPayload : Envelope → Bool
  | .mbap header => header.expectsPayload
  | .pdu _ => true

end Envelope

/-- Reads a body of the kind of the given one. -/
def Body.decode (order : ByteOrder) (input : Bytes) : Body → Except DecodeError (Body × Bytes)
  | .readRegisters .. => do
    let (start, input) ← takeWord order input
    let (count, input) ← takeWord order input
    return (.readRegisters start count, input)
  | .writeRegister .. => do
    let (address, input) ← takeWord order input
    let (value, input) ← takeWord order input
    return (.writeRegister address value, input)
  | .writeMultiple .. => do
    let (start, input) ← takeWord order input
    let (count, input) ← takeWord order input
    let (byteCount, input) ← takeByte input
    if byteCount.toNat = 2 * count.toNat then
      let (values, input) ← takeWords order count.toNat input
      return (.writeMultiple start values, input)
    else .error (.byteCountMismatch byteCount count)
  | .registerValues .. => do
    let (byteCount, input) ← takeByte input
    let (bytes, input) ← takeBytes byteCount.toNat input
    return (.registerValues bytes, input)
  | .multipleWritten .. => do
    let (start, input) ← takeWord order input
    let (count, input) ← takeWord order input
    return (.multipleWritten start count, input)
  | .exception .. => do
    let (code, input) ← takeByte input
    return (.exception code, input)

/-! ### Every layer takes something -/

section Shortening

variable {α : Type} {order : ByteOrder} {input rest : Bytes}

theorem takeByte_shortens {byte : UInt8} (taken : takeByte input = .ok (byte, rest)) :
    rest.length < input.length := by
  rw [length_of_takeByte taken]
  simp

theorem takeWord_shortens {word : UInt16} (taken : takeWord order input = .ok (word, rest)) :
    rest.length < input.length := by
  rw [eq_word_append_of_takeWord taken]
  simp

/-- The step that a decoder takes first has succeeded if the decoder has. -/
theorem exists_of_bind_eq_ok {β γ : Type} {step : Except DecodeError β} {next : β → Except DecodeError γ}
    {result : γ} (whole : (step >>= next) = .ok result) :
    ∃ value, step = .ok value ∧ next value = .ok result := by
  cases step with
  | error error => simp [bind, Except.bind] at whole
  | ok value => exact ⟨value, rfl, whole⟩

end Shortening

theorem Mbap.decode_shortens {order : ByteOrder} {input rest : Bytes} {target header : Mbap}
    (decoded : target.decode order input = .ok (header, rest)) : rest.length < input.length := by
  simp only [decode] at decoded
  obtain ⟨⟨_, input₁⟩, taken₁, decoded⟩ := exists_of_bind_eq_ok decoded
  obtain ⟨⟨_, input₂⟩, taken₂, decoded⟩ := exists_of_bind_eq_ok decoded
  obtain ⟨⟨_, input₃⟩, taken₃, decoded⟩ := exists_of_bind_eq_ok decoded
  obtain ⟨⟨length, input₄⟩, taken₄, decoded⟩ := exists_of_bind_eq_ok decoded
  obtain ⟨⟨_, input₅⟩, taken₅, decoded⟩ := exists_of_bind_eq_ok decoded
  simp only [pure, Except.pure, Except.ok.injEq, Prod.mk.injEq] at decoded
  have last : input₅.length ≤ input₄.length := by
    unfold takeUnit at taken₅
    split at taken₅
    · simp only [Except.ok.injEq, Prod.mk.injEq] at taken₅
      exact Nat.le_of_eq (congrArg List.length taken₅.2.symm)
    · exact Nat.le_of_lt (takeByte_shortens taken₅)
  have := takeWord_shortens taken₁
  have := takeWord_shortens taken₂
  have := takeWord_shortens taken₃
  have := takeWord_shortens taken₄
  rw [← decoded.2]
  dsimp only at *
  omega

theorem Envelope.decode_shortens {order : ByteOrder} {input rest : Bytes} {target envelope : Envelope}
    (decoded : target.decode order input = .ok (envelope, rest)) : rest.length < input.length := by
  cases target with
  | mbap header =>
    simp only [decode] at decoded
    obtain ⟨⟨_, input₁⟩, taken₁, decoded⟩ := exists_of_bind_eq_ok decoded
    simp only [pure, Except.pure, Except.ok.injEq, Prod.mk.injEq] at decoded
    rw [← decoded.2]
    exact Mbap.decode_shortens taken₁
  | pdu function =>
    simp only [decode] at decoded
    obtain ⟨⟨_, input₁⟩, taken₁, decoded⟩ := exists_of_bind_eq_ok decoded
    simp only [pure, Except.pure, Except.ok.injEq, Prod.mk.injEq] at decoded
    rw [← decoded.2]
    exact takeByte_shortens taken₁

/-! ### The chain -/

namespace Packet

/-- The packet after its envelope has been read: a header drops what it carried before, while a PDU
keeps it until a new payload has been read. -/
def withEnvelope (target : Packet) : Envelope → Packet
  | .mbap header => .bare (.mbap header)
  | .pdu function => .ofParts (.pdu function) target.payload?

/-- Reads a packet of the target's kind off the front of the input. -/
def decodeInto (resolver : Resolver) (direction : Direction) (order : ByteOrder) (target : Packet)
    (input : Bytes) : Except DecodeError (Packet × Bytes) :=
  match target with
  | .body content => do
    let (content, rest) ← content.decode order input
    return (.body content, rest)
  | .bare envelope | .carry envelope _ =>
    match _decoded : envelope.decode order input with
    | .error error => .error error
    | .ok (envelope, rest) =>
      if envelope.expectsPayload then
        match resolver envelope direction with
        | none => .ok (target.withEnvelope envelope, rest)
        | some payload => do
          let (payload, rest) ← decodeInto resolver direction order payload rest
          return (.carry envelope payload, rest)
      else .ok (target.withEnvelope envelope, rest)
termination_by input.length
decreasing_by all_goals exact Envelope.decode_shortens _decoded

/-- Reads a packet of a kind off the front of the input. -/
def decode (resolver : Resolver) (direction : Direction) (order : ByteOrder) (kind : PacketKind)
    (input : Bytes) : Except DecodeError (Packet × Bytes) :=
  decodeInto resolver direction order (.empty kind) input

end Packet

namespace Frame

/-- Reads a frame off the front of the input. -/
def decode (resolver : Resolver) (direction : Direction) (order : ByteOrder) (input : Bytes) :
    Except DecodeError (Frame × Bytes) := do
  let (header, rest) ← Mbap.decode order default input
  if header.expectsPayload then
    match resolver (.mbap header) direction with
    | none => return (⟨header, none⟩, rest)
    | some payload => do
      let (payload, rest) ← Packet.decodeInto resolver direction order payload rest
      return (⟨header, some payload⟩, rest)
  else return (⟨header, none⟩, rest)

/-- Reading a frame is reading a packet whose outermost layer is a header. -/
theorem decode_toPacket (resolver : Resolver) (direction : Direction) (order : ByteOrder)
    (input : Bytes) :
    (decode resolver direction order input).map (fun (frame, rest) => (frame.toPacket, rest)) =
      Packet.decode resolver direction order .mbap input := by
  rw [Packet.decode, Packet.empty, Packet.decodeInto, decode]
  simp only [Envelope.decode]
  cases Mbap.decode order default input with
  | error error => rfl
  | ok result =>
    obtain ⟨header, rest⟩ := result
    simp only [bind, Except.bind, pure, Except.pure]
    by_cases room : header.expectsPayload
    · have room' : (Envelope.mbap header).expectsPayload = true := room
      rw [if_pos room, if_pos room']
      cases resolver (.mbap header) direction with
      | none => rfl
      | some payload =>
        dsimp only
        cases Packet.decodeInto resolver direction order payload rest <;> rfl
    · have room' : ¬(Envelope.mbap header).expectsPayload = true := room
      rw [if_neg room, if_neg room']
      rfl

end Frame

/-! ### How much is missing -/

namespace Packet

/-- How many more bytes are required than are buffered, negative if there are too many: a signed number
of 64 bits, in which a count of `2 ^ 63` or more passes for a negative one. -/
def shortage (required buffered : Nat) : Int := ((required : Int) - buffered).bmod (2 ^ 64)

/-- For counts that fit into 63 bits the shortage is their difference. -/
theorem shortage_eq_sub {required buffered : Nat} (requiredFits : required < 2 ^ 63)
    (bufferedFits : buffered < 2 ^ 63) : shortage required buffered = (required : Int) - buffered := by
  rw [shortage]
  exact Int.bmod_eq_of_le (by omega) (by omega)

/-- How many bytes are needed beyond the `buffered` ones.  For a frame that is told from its length
field, which is looked up in the buffer; for other packets it is the measure of what they hold
already. -/
def missing (order : ByteOrder) (buffer : Bytes) (buffered : Nat) : Packet → Except DecodeError Int
  | .bare (.mbap _) | .carry (.mbap _) _ =>
    if buffered < 8 then .ok (shortage 8 buffered)
    else do
      let (length, _) ← takeWord order (buffer.drop 6)
      return shortage (8 + length.toNat) buffered
  | .bare (.pdu _) | .carry (.pdu _) _ => .ok (shortage 1 buffered)
  | .body content => .ok (shortage content.measure buffered)

end Packet

end ModbusTcp
