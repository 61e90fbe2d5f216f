import ModbusTcp.Error
import ModbusTcp.Packet.Decode

/-!
# Cutting a stream into frames

The eighth byte of a frame completes its length field, and from there on it is known where the frame
ends.  A frame is cut off a stream in one of two ways: a server collects whatever arrives in a buffer
and cuts off what is complete, a client reads no more than what its frame is missing.

* `Framer.decode`, `Framer.decodeLast` — the next frame in a buffer, and the same at the end of the
  stream.
* `pull` — reads one frame off a stream.
* `Frame.cut` — all frames of a stream; `Frame.flatten_cut` says that nothing is lost.
* `Framer.decode_shortens` — a frame that is cut off makes the buffer shorter.
-/

namespace ModbusTcp

namespace Frame

/-- The length field in the bytes of a frame, once they are enough to hold it. -/
def lengthField? (order : ByteOrder) (received : Bytes) : Option Nat :=
  match received.drop 6 with
  | first :: second :: _ => some (order.read [first, second])
  | _ => none

/-- How long the frame is, as far as its first bytes tell: it holds at least a length field. -/
def expectedLength (order : ByteOrder) (received : Bytes) : Nat :=
  match lengthField? order received with
  | some length => 8 + length
  | none => 8

/-- How many bytes the frame is missing, as far as its first bytes tell. -/
def missing (order : ByteOrder) (received : Bytes) : Nat :=
  expectedLength order received - received.length

theorem eight_le_expectedLength (order : ByteOrder) (received : Bytes) :
    8 ≤ expectedLength order received := by
  unfold expectedLength
  split <;> omega

/-- The frames of a stream, one after the other, of which the last may be cut short. -/
def cut (order : ByteOrder) (stream : Bytes) : List Bytes :=
  if stream.length = 0 then []
  else
    let length := expectedLength order stream
    stream.take length :: cut order (stream.drop length)
termination_by stream.length
decreasing_by
  have := eight_le_expectedLength order stream
  rw [List.length_drop]
  omega

/-- Cutting loses nothing. -/
theorem flatten_cut (order : ByteOrder) (stream : Bytes) : (cut order stream).flatten = stream := by
  fun_induction cut order stream with
  | case1 stream empty => simpa using empty
  | case2 stream _ length ih => rw [List.flatten_cons, ih, List.take_append_drop]

end Frame

/-! ### The frames in a buffer -/

/-- A frame that has arrived at a server: a request, or a frame whose payload is not what its function
says, of which header and function are known. -/
inductive Inbound where
  | request (frame : Frame)
  | malformed (frame : Frame)
deriving DecidableEq, Repr

/-- Why a stream cannot be cut any further. -/
inductive FramingError where
  | tooLarge (length max : Nat)
  | undecodable (reason : DecodeError)
  | bytesRemaining
deriving DecidableEq, Repr

/-- A framing error as a transport error. -/
def FramingError.toIoError : FramingError → IoError
  | .tooLarge length max => (ProtocolError.frameTooLarge length max).toIoError
  | .undecodable reason => reason.toIoError
  | .bytesRemaining => .bytesRemaining

/-- What a server has to know to cut a stream into frames. -/
structure Framer where
  order : ByteOrder
  maxFrame : Nat
  resolver : Resolver

namespace Framer

/-- What the bytes of a whole frame mean to a server. -/
def interpret (framer : Framer) (bytes : Bytes) : Except FramingError Inbound :=
  match Frame.decode framer.resolver .command framer.order bytes with
  | .ok (frame, _) => .ok (.request frame)
  | .error reason =>
    match Frame.decode .functionOnly .command framer.order bytes with
    | .ok (frame, _) => if frame.pdu?.isSome then .ok (.malformed frame) else .error (.undecodable reason)
    | .error reason => .error (.undecodable reason)

/-- Cuts the next frame off a buffer, if it is complete. -/
def decode (framer : Framer) (buffer : Bytes) : Except FramingError (Option (Inbound × Bytes)) :=
  let length := Frame.expectedLength framer.order buffer
  if framer.maxFrame < length then .error (.tooLarge length framer.maxFrame)
  else if buffer.length < length then .ok none
  else (framer.interpret (buffer.take length)).map fun frame => some (frame, buffer.drop length)

/-- Cuts the next frame off a buffer to which nothing will be added any more. -/
def decodeLast (framer : Framer) (buffer : Bytes) : Except FramingError (Option (Inbound × Bytes)) :=
  match framer.decode buffer with
  | .ok none => if buffer.isEmpty then .ok none else .error .bytesRemaining
  | result => result

/-- The bytes of a buffer to which a frame has been added. -/
def encode (framer : Framer) (buffer : Bytes) (frame : Frame) : Bytes :=
  buffer ++ frame.encode framer.order

/-- A frame that is cut off is as long as its length field says, and it is gone from the buffer. -/
theorem decode_eq_some {framer : Framer} {buffer rest : Bytes} {frame : Inbound}
    (decoded : framer.decode buffer = .ok (some (frame, rest))) :
    Frame.expectedLength framer.order buffer ≤ framer.maxFrame ∧
      Frame.expectedLength framer.order buffer ≤ buffer.length ∧
      framer.interpret (buffer.take (Frame.expectedLength framer.order buffer)) = .ok frame ∧
      rest = buffer.drop (Frame.expectedLength framer.order buffer) := by
  unfold decode at decoded
  dsimp only at decoded
  split at decoded
  · simp at decoded
  · split at decoded
    · simp at decoded
    · cases interpreted : framer.interpret (buffer.take (Frame.expectedLength framer.order buffer)) with
      | error error => simp [interpreted, Except.map] at decoded
      | ok inbound =>
        simp only [interpreted, Except.map, Except.ok.injEq, Option.some.injEq, Prod.mk.injEq] at decoded
        obtain ⟨rfl, rfl⟩ := decoded
        exact ⟨by omega, by omega, rfl, rfl⟩

theorem decode_shortens {framer : Framer} {buffer rest : Bytes} {frame : Inbound}
    (decoded : framer.decode buffer = .ok (some (frame, rest))) : rest.length < buffer.length := by
  obtain ⟨_, fits, _, rfl⟩ := decode_eq_some decoded
  have := Frame.eight_le_expectedLength framer.order buffer
  rw [List.length_drop]
  omega

end Framer

/-! ### One frame off a stream -/

/-- How reading a frame ends. -/
inductive Pull where
  /-- The frame, and what follows it on the stream. -/
  | frame (bytes rest : Bytes)
  /-- The frame is larger than allowed. -/
  | tooLarge (length max : Nat)
  /-- The stream holds no whole frame. -/
  | incomplete
deriving DecidableEq, Repr

/-- Reads what a frame is missing until nothing is, starting from what has been received of it. -/
def pullFrom (order : ByteOrder) (max : Nat) (received stream : Bytes) : Pull :=
  let wanted := Frame.missing order received
  if wanted = 0 then .frame received stream
  else if max < received.length + wanted then .tooLarge (received.length + wanted) max
  else if stream.length < wanted then .incomplete
  else pullFrom order max (received ++ stream.take wanted) (stream.drop wanted)
termination_by stream.length
decreasing_by
  rw [List.length_drop]
  omega

/-- Reads one frame off a stream. -/
def pull (order : ByteOrder) (max : Nat) (stream : Bytes) : Pull := pullFrom order max [] stream

end ModbusTcp
