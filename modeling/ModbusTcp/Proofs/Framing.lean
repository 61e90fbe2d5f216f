import ModbusTcp.Framing
import ModbusTcp.Proofs.Packet.RoundTrip

/-!
# Two ways of cutting a stream

A server feeds what arrives into a buffer and cuts off what is complete; a client reads no more than
what its frame is missing.  Both come to the same frames, however the stream is cut into chunks.

* `Frame.IsWhole` — bytes that are as long as their own length field says.
* `Framer.interpret_of_isWhole` — a whole frame always means something to a server, whatever the
  resolver: no error is left once its length has been accepted.
* `Framer.decode_eq_pull` — the next frame in a buffer is the one that reading off a stream gives.
* `Framer.feed`, `pullAll` — all frames of a stream that arrives in chunks, and of one that is read;
  `pullAll_append` and `Framer.drain_eq_pullAll` bring them together.
* **`feed_agrees_with_pullAll`** — the two ways agree on every stream and every split.
-/

namespace ModbusTcp

variable {order : ByteOrder}

/-! ### Length fields -/

namespace Frame

theorem lengthField?_spell (ids : Mbap) (length : UInt16) (tail : Bytes) :
    lengthField? order (ids.spell order length tail) = some length.toNat := by
  have skipped : (ids.spell order length tail).drop 6 = order.word length ++ tail :=
    List.drop_left' (ids.length_encodeIds order)
  obtain ⟨first, second, pair⟩ : ∃ first second, order.word length = [first, second] := by
    match order.word length, order.length_word length with
    | [first, second], _ => exact ⟨first, second, rfl⟩
  have back : order.read (order.word length) = length.toNat % 256 ^ 2 := order.read_write 2 _
  have bound := length.toNat_lt
  rw [lengthField?, skipped, pair]
  rw [pair, Nat.mod_eq_of_lt (by omega)] at back
  exact congrArg some back

theorem lengthField?_of_short {received : Bytes} (short : received.length < 8) :
    lengthField? order received = none := by
  unfold lengthField?
  split
  · rename_i first second rest skipped
    have := congrArg List.length skipped
    rw [List.length_drop, List.length_cons, List.length_cons] at this
    omega
  · rfl

@[simp] theorem expectedLength_spell (ids : Mbap) (length : UInt16) (tail : Bytes) :
    expectedLength order (ids.spell order length tail) = 8 + length.toNat := by
  rw [expectedLength, lengthField?_spell]

theorem expectedLength_of_short {received : Bytes} (short : received.length < 8) :
    expectedLength order received = 8 := by
  rw [expectedLength, lengthField?_of_short short]

/-- The first eight bytes tell how long a frame is; what follows them does not matter. -/
theorem expectedLength_append {received : Bytes} (enough : 8 ≤ received.length) (more : Bytes) :
    expectedLength order (received ++ more) = expectedLength order received := by
  obtain ⟨ids, length, tail, rfl⟩ := Mbap.exists_spell order enough
  rw [show ids.spell order length tail ++ more = ids.spell order length (tail ++ more) by
      simp [Mbap.spell],
    expectedLength_spell, expectedLength_spell]

theorem expectedLength_take {stream : Bytes} {count : Nat} (enough : 8 ≤ count) :
    expectedLength order (stream.take count) = expectedLength order stream := by
  by_cases short : stream.length < 8
  · rw [List.take_of_length_le (by omega)]
  · conv => rhs; rw [← List.take_append_drop count stream]
    rw [expectedLength_append]
    rw [List.length_take]
    omega

/-- Bytes that are as long as their own length field says. -/
def IsWhole (order : ByteOrder) (bytes : Bytes) : Prop := bytes.length = expectedLength order bytes

theorem IsWhole.eight_le {bytes : Bytes} (whole : IsWhole order bytes) : 8 ≤ bytes.length := by
  rw [whole]
  exact eight_le_expectedLength order bytes

/-- A whole frame is spelled with as much behind its length field as that says. -/
theorem IsWhole.exists_spell {bytes : Bytes} (whole : IsWhole order bytes) :
    ∃ ids length tail, bytes = Mbap.spell order ids length tail ∧ tail.length = length.toNat := by
  obtain ⟨ids, length, tail, rfl⟩ := Mbap.exists_spell order whole.eight_le
  refine ⟨ids, length, tail, rfl, ?_⟩
  rw [IsWhole, Mbap.length_spell, expectedLength_spell] at whole
  omega

/-- A frame is whole if it holds a length field and as much behind it as that says. -/
theorem isWhole_iff {bytes : Bytes} :
    IsWhole order bytes ↔
      ∃ declared, lengthField? order bytes = some declared ∧ bytes.length = 8 + declared := by
  constructor
  · intro whole
    obtain ⟨ids, length, tail, rfl, exact⟩ := whole.exists_spell
    exact ⟨_, lengthField?_spell ids length tail, by rw [Mbap.length_spell, exact]⟩
  · rintro ⟨declared, known, length⟩
    rw [IsWhole, expectedLength, known, length]

theorem isWhole_spell {ids : Mbap} {length : UInt16} {tail : Bytes}
    (exact : tail.length = length.toNat) : IsWhole order (ids.spell order length tail) := by
  rw [IsWhole, Mbap.length_spell, expectedLength_spell, exact]

/-- A whole frame ends after its length field, or after its unit id, or it holds a function byte. -/
theorem IsWhole.cases {bytes : Bytes} (whole : IsWhole order bytes) :
    (∃ ids, bytes = Mbap.spell order ids 0 []) ∨
      (∃ ids unit, bytes = Mbap.spell order ids 1 [unit]) ∨
      ∃ ids unit function body length, 1 < length ∧ length.toNat = 2 + body.length ∧
        bytes = Mbap.spell order ids length (unit :: function :: body) := by
  obtain ⟨ids, length, tail, rfl, exact⟩ := whole.exists_spell
  match tail with
  | [] =>
    obtain rfl : length = 0 := UInt16.toNat_inj.mp exact.symm
    exact .inl ⟨ids, rfl⟩
  | [unit] =>
    obtain rfl : length = 1 := UInt16.toNat_inj.mp exact.symm
    exact .inr (.inl ⟨ids, unit, rfl⟩)
  | unit :: function :: body =>
    simp only [List.length_cons] at exact
    refine .inr (.inr ⟨ids, unit, function, body, length, ?_, by omega, rfl⟩)
    rw [UInt16.lt_iff_toNat_lt]
    have : (1 : UInt16).toNat = 1 := rfl
    omega

/-- Who reads no more than what a frame is missing never reads past its end. -/
theorem length_append_le_expectedLength {received more : Bytes}
    (partly : received.length ≤ expectedLength order received)
    (missing : more.length ≤ Frame.missing order received) :
    (received ++ more).length ≤ expectedLength order (received ++ more) := by
  have least := eight_le_expectedLength order (received ++ more)
  rw [Frame.missing] at missing
  rw [List.length_append]
  by_cases short : received.length < 8
  · rw [expectedLength_of_short short] at missing
    omega
  · rw [expectedLength_append (Nat.le_of_not_lt short)]
    omega

theorem isWhole_take {stream : Bytes} (enough : expectedLength order stream ≤ stream.length) :
    IsWhole order (stream.take (expectedLength order stream)) := by
  rw [IsWhole, expectedLength_take (eight_le_expectedLength order stream), List.length_take]
  exact Nat.min_eq_left enough

/-- A whole frame in front of a stream is the first one that is cut off. -/
theorem cut_append {bytes : Bytes} (whole : IsWhole order bytes) (rest : Bytes) :
    cut order (bytes ++ rest) = bytes :: cut order rest := by
  have enough := whole.eight_le
  have same : expectedLength order (bytes ++ rest) = bytes.length := by
    rw [expectedLength_append enough, whole]
  rw [cut, if_neg (by rw [List.length_append]; omega)]
  dsimp only
  rw [same, List.take_left, List.drop_left]

/-- Whole frames in front of a stream are the first ones that are cut off. -/
theorem cut_flatten_append {frames : List Bytes} (whole : ∀ bytes ∈ frames, IsWhole order bytes)
    (rest : Bytes) : cut order (frames.flatten ++ rest) = frames ++ cut order rest := by
  induction frames with
  | nil => rfl
  | cons bytes frames ih =>
    rw [List.forall_mem_cons] at whole
    rw [List.flatten_cons, List.append_assoc, cut_append whole.1, ih whole.2, List.cons_append]

end Frame

/-- What a frame is missing is told as a signed number by the packet itself: it is the difference
between how long the frame is and what is there, negative where more is there than the frame. -/
theorem Packet.missing_eq_sub {buffer : Bytes} (header : Mbap) (fits : buffer.length < 2 ^ 63) :
    missing order buffer buffer.length (.bare (.mbap header)) =
      .ok ((Frame.expectedLength order buffer : Int) - buffer.length) := by
  by_cases short : buffer.length < 8
  · rw [missing, if_pos short, Frame.expectedLength_of_short short,
      shortage_eq_sub (by omega) fits]
  · obtain ⟨ids, length, tail, rfl⟩ := Mbap.exists_spell order (Nat.le_of_not_lt short)
    have bound := length.toNat_lt
    have skipped : (ids.spell order length tail).drop 6 = order.word length ++ tail :=
      List.drop_left' (ids.length_encodeIds order)
    rw [missing, if_neg short, skipped, takeWord_append, Frame.expectedLength_spell]
    simp only [bind, Except.bind, pure, Except.pure]
    rw [shortage_eq_sub (by omega) fits]

/-! ### One frame off a stream -/

/-- With room for a length field, reading off a stream first reads that field and then as much as it
says. -/
theorem pull_eq {max : Nat} (enough : 8 ≤ max) (stream : Bytes) :
    pull order max stream =
      if max < Frame.expectedLength order stream then .tooLarge (Frame.expectedLength order stream) max
      else if stream.length < Frame.expectedLength order stream then .incomplete
      else .frame (stream.take (Frame.expectedLength order stream))
        (stream.drop (Frame.expectedLength order stream)) := by
  rw [pull, pullFrom]
  have first : Frame.missing order [] = 8 := rfl
  simp only [first, List.length_nil, Nat.zero_add, List.nil_append]
  rw [if_neg (by decide), if_neg (by omega)]
  by_cases short : stream.length < 8
  · rw [if_pos short, Frame.expectedLength_of_short short, if_neg (by omega), if_pos short]
  · rw [if_neg short]
    -- The length field has been read: the second round reads the rest of the frame, if any.
    have same : Frame.expectedLength order (stream.take 8) = Frame.expectedLength order stream :=
      Frame.expectedLength_take (Nat.le_refl 8)
    have header : (stream.take 8).length = 8 := by
      rw [List.length_take]
      omega
    have least := Frame.eight_le_expectedLength order stream
    rw [pullFrom]
    simp only [Frame.missing, same, header, List.length_drop]
    rw [show 8 + (Frame.expectedLength order stream - 8) = Frame.expectedLength order stream by omega]
    by_cases bare : Frame.expectedLength order stream = 8
    · rw [bare, if_pos (by omega), if_neg (by omega), if_neg short]
    · rw [if_neg (by omega)]
      by_cases large : max < Frame.expectedLength order stream
      · rw [if_pos large, if_pos large]
      · rw [if_neg large, if_neg large]
        by_cases cut : stream.length < Frame.expectedLength order stream
        · rw [if_pos (by omega), if_pos cut]
        · rw [if_neg (by omega), if_neg cut]
          have joined : stream.take 8 ++ (stream.drop 8).take (Frame.expectedLength order stream - 8) =
              stream.take (Frame.expectedLength order stream) := by
            rw [← List.take_add, Nat.add_sub_cancel' least]
          rw [joined, pullFrom]
          simp only [Frame.missing, Frame.expectedLength_take least, List.length_take]
          rw [if_pos (by omega), List.drop_drop, Nat.add_sub_cancel' least]

/-- Without room for a header no frame is read. -/
theorem pull_of_lt_eight {max : Nat} (small : max < 8) (stream : Bytes) :
    pull order max stream = .tooLarge 8 max := by
  have first : Frame.missing order [] = 8 := rfl
  rw [pull, pullFrom]
  simp only [first, List.length_nil, Nat.zero_add]
  rw [if_neg (by decide), if_pos small]

/-- Where a whole frame of allowed size is in front, it is read and the rest is left. -/
theorem pull_append {max : Nat} {bytes : Bytes} (whole : Frame.IsWhole order bytes)
    (fits : bytes.length ≤ max) (rest : Bytes) :
    pull order max (bytes ++ rest) = .frame bytes rest := by
  have enough := whole.eight_le
  have same : Frame.expectedLength order (bytes ++ rest) = bytes.length := by
    rw [Frame.expectedLength_append enough, whole]
  rw [pull_eq (by omega), same, if_neg (by omega), List.length_append, if_neg (by omega),
    List.take_left, List.drop_left]

section Inversion

variable {max : Nat} {stream : Bytes}

/-- What has been read is a whole frame of allowed size. -/
theorem isWhole_of_pull (enough : 8 ≤ max) {bytes rest : Bytes}
    (pulled : pull order max stream = .frame bytes rest) :
    Frame.IsWhole order bytes ∧ bytes.length ≤ max ∧ stream = bytes ++ rest := by
  rw [pull_eq enough] at pulled
  split at pulled
  · simp at pulled
  · split at pulled
    · simp at pulled
    · rename_i fits complete
      simp only [Pull.frame.injEq] at pulled
      obtain ⟨rfl, rfl⟩ := pulled
      refine ⟨Frame.isWhole_take (by omega), ?_, (List.take_append_drop _ _).symm⟩
      rw [List.length_take]
      omega

theorem pull_eq_tooLarge_iff (enough : 8 ≤ max) {length limit : Nat} :
    pull order max stream = .tooLarge length limit ↔
      length = Frame.expectedLength order stream ∧ limit = max ∧ max < length := by
  rw [pull_eq enough]
  split
  · simp only [Pull.tooLarge.injEq]
    constructor
    · rintro ⟨rfl, rfl⟩
      exact ⟨rfl, rfl, by assumption⟩
    · rintro ⟨rfl, rfl, _⟩
      exact ⟨rfl, rfl⟩
  · refine ⟨fun impossible => ?_, fun ⟨same, _, large⟩ => ?_⟩
    · split at impossible <;> simp at impossible
    · omega

/-- More bytes do not make a frame smaller that is too large. -/
theorem pull_append_of_tooLarge (enough : 8 ≤ max) {length limit : Nat}
    (pulled : pull order max stream = .tooLarge length limit) (more : Bytes) :
    pull order max (stream ++ more) = .tooLarge length limit := by
  rw [pull_eq_tooLarge_iff enough] at pulled ⊢
  obtain ⟨rfl, rfl, large⟩ := pulled
  -- Its length field is there already, or it would not be known to be too large.
  have known : 8 ≤ stream.length := by
    rcases Nat.lt_or_ge stream.length 8 with short | known
    · rw [Frame.expectedLength_of_short short] at large
      omega
    · exact known
  exact ⟨(Frame.expectedLength_append known more).symm, rfl, large⟩

theorem pull_eq_incomplete_iff (enough : 8 ≤ max) :
    pull order max stream = .incomplete ↔
      Frame.expectedLength order stream ≤ max ∧ stream.length < Frame.expectedLength order stream := by
  rw [pull_eq enough]
  split
  · simp
    omega
  · split
    · simp
      omega
    · simp
      omega

end Inversion

theorem pull_nil {max : Nat} (enough : 8 ≤ max) : pull order max [] = .incomplete := by
  refine (pull_eq_incomplete_iff enough).mpr ?_
  rw [Frame.expectedLength_of_short (by decide)]
  exact ⟨enough, by decide⟩

/-- A frame that has been read is gone from the stream. -/
theorem pull_shortens {max : Nat} {stream bytes rest : Bytes}
    (pulled : pull order max stream = .frame bytes rest) : rest.length < stream.length := by
  by_cases enough : 8 ≤ max
  · obtain ⟨whole, _, rfl⟩ := isWhole_of_pull enough pulled
    have := whole.eight_le
    rw [List.length_append]
    omega
  · rw [pull, pullFrom] at pulled
    have first : Frame.missing order [] = 8 := rfl
    simp only [first, List.length_nil, Nat.zero_add] at pulled
    rw [if_neg (by decide), if_pos (by omega)] at pulled
    simp at pulled

/-! ### One frame off a buffer -/

theorem Frame.decode_functionOnly {direction : Direction} {length : UInt16} (room : 1 < length)
    (ids : Mbap) (unit function : UInt8) (body : Bytes) :
    decode .functionOnly direction order (ids.spell order length (unit :: function :: body)) =
      .ok (⟨headerOf ids unit length, some (.bare (.pdu function))⟩, body) := by
  rw [decode_spell room]
  dsimp only [Resolver.functionOnly, Packet.empty]
  rw [Packet.decodeInto_pdu]
  rfl

namespace Framer

/-- **A whole frame always means something to a server**, whatever its resolver says: if there is room
for a function byte it is there, so that reading no further than that succeeds. -/
theorem interpret_of_isWhole (framer : Framer) {bytes : Bytes}
    (whole : Frame.IsWhole framer.order bytes) : ∃ inbound, framer.interpret bytes = .ok inbound := by
  rcases whole.cases with ⟨ids, rfl⟩ | ⟨ids, unit, rfl⟩ | ⟨ids, unit, function, body, length, room, _, rfl⟩
  · exact ⟨_, by rw [interpret, Frame.decode_spell_zero]⟩
  · exact ⟨_, by rw [interpret, Frame.decode_spell_one]⟩
  · rw [interpret]
    cases Frame.decode framer.resolver .command framer.order
        (ids.spell framer.order length (unit :: function :: body)) with
    | ok result => exact ⟨_, rfl⟩
    | error reason =>
      rw [Frame.decode_functionOnly room]
      exact ⟨_, rfl⟩

/-- The next frame in a buffer is the one that reading off a stream gives. -/
theorem decode_eq_pull (framer : Framer) (enough : 8 ≤ framer.maxFrame) (buffer : Bytes) :
    framer.decode buffer =
      match pull framer.order framer.maxFrame buffer with
      | .frame bytes rest => (framer.interpret bytes).map fun inbound => some (inbound, rest)
      | .tooLarge length max => .error (.tooLarge length max)
      | .incomplete => .ok none := by
  rw [pull_eq enough, decode]
  split
  · rfl
  · split
    · rfl
    · rfl

/-- What an attempt to cut off a frame gives, and what it leaves in the buffer.  The bytes of a frame
are taken out before they are interpreted. -/
def cutOff (framer : Framer) (buffer : Bytes) : Except FramingError (Option Inbound) × Bytes :=
  let length := Frame.expectedLength framer.order buffer
  if framer.maxFrame < length then (.error (.tooLarge length framer.maxFrame), buffer)
  else if buffer.length < length then (.ok none, buffer)
  else ((framer.interpret (buffer.take length)).map some, buffer.drop length)

/-- **A frame that is too large is the only error**, and it leaves the buffer as it was. -/
theorem cutOff_of_decode_eq_error {framer : Framer} {buffer : Bytes} {error : FramingError}
    (failed : framer.decode buffer = .error error) :
    framer.cutOff buffer = (.error error, buffer) ∧
      error = .tooLarge (Frame.expectedLength framer.order buffer) framer.maxFrame ∧
      framer.maxFrame < Frame.expectedLength framer.order buffer := by
  rw [decode] at failed
  rw [cutOff]
  split at failed
  · rename_i large
    simp only [Except.error.injEq] at failed
    subst failed
    exact ⟨by rw [if_pos large], rfl, large⟩
  · split at failed
    · simp at failed
    · rename_i complete
      obtain ⟨inbound, interpreted⟩ :=
        framer.interpret_of_isWhole (Frame.isWhole_take (Nat.le_of_not_lt complete))
      simp [interpreted, Except.map] at failed

end Framer

/-! ### All frames that are read off a stream -/

/-- What reading frame after frame off a stream comes to: the frames, what is left of the stream behind
them, and, if the next frame is too large, how long it is and how long it may be. -/
structure Pulled where
  frames : List Bytes := []
  rest : Bytes
  stop : Option (Nat × Nat) := none

/-- The same with frames in front. -/
def Pulled.behind (pulled : Pulled) (frames : List Bytes) : Pulled :=
  { pulled with frames := frames ++ pulled.frames }

/-- Reads frames off a stream until there is no whole one of allowed size left. -/
def pullAll (order : ByteOrder) (max : Nat) (stream : Bytes) : Pulled :=
  match _pulled : pull order max stream with
  | .frame bytes rest => (pullAll order max rest).behind [bytes]
  | .tooLarge length limit => { rest := stream, stop := some (length, limit) }
  | .incomplete => { rest := stream }
termination_by stream.length
decreasing_by exact pull_shortens _pulled

section PullAll

variable {max : Nat} {stream : Bytes}

theorem pullAll_of_frame {bytes rest : Bytes} (pulled : pull order max stream = .frame bytes rest) :
    pullAll order max stream = (pullAll order max rest).behind [bytes] := by
  rw [pullAll]
  split <;> simp_all

theorem pullAll_of_tooLarge {length limit : Nat}
    (pulled : pull order max stream = .tooLarge length limit) :
    pullAll order max stream = { rest := stream, stop := some (length, limit) } := by
  rw [pullAll]
  split <;> simp_all

theorem pullAll_of_incomplete (pulled : pull order max stream = .incomplete) :
    pullAll order max stream = { rest := stream } := by
  rw [pullAll]
  split <;> simp_all

/-- Reading loses nothing. -/
theorem flatten_pullAll (enough : 8 ≤ max) (stream : Bytes) :
    (pullAll order max stream).frames.flatten ++ (pullAll order max stream).rest = stream := by
  fun_induction pullAll order max stream with
  | case1 stream bytes rest pulled ih =>
    obtain ⟨_, _, rfl⟩ := isWhole_of_pull enough pulled
    simp only [Pulled.behind, List.flatten_append, List.flatten_singleton, List.append_assoc, ih]
  | case2 | case3 => rfl

/-- What is read is whole frames of allowed size. -/
theorem isWhole_of_mem_pullAll (enough : 8 ≤ max) {bytes : Bytes}
    (member : bytes ∈ (pullAll order max stream).frames) :
    Frame.IsWhole order bytes ∧ bytes.length ≤ max := by
  fun_induction pullAll order max stream with
  | case1 stream first rest pulled ih =>
    obtain ⟨whole, fits, _⟩ := isWhole_of_pull enough pulled
    rcases List.mem_append.mp member with found | found
    · rw [List.mem_singleton.mp found]
      exact ⟨whole, fits⟩
    · exact ih found
  | case2 | case3 => simp at member

/-- Reading stops before a frame that is too large, or where the next frame is not complete. -/
theorem stop_pullAll (stream : Bytes) :
    pull order max (pullAll order max stream).rest =
      match (pullAll order max stream).stop with
      | some (length, limit) => .tooLarge length limit
      | none => .incomplete := by
  fun_induction pullAll order max stream with
  | case1 stream bytes rest pulled ih => exact ih
  | case2 stream length limit pulled => exact pulled
  | case3 stream pulled => exact pulled

theorem stop_pullAll_eq_some_iff (enough : 8 ≤ max) {length limit : Nat} :
    (pullAll order max stream).stop = some (length, limit) ↔
      length = Frame.expectedLength order (pullAll order max stream).rest ∧ limit = max ∧
        max < length := by
  rw [← pull_eq_tooLarge_iff enough, stop_pullAll]
  split
  · rename_i other bound stopped
    rw [stopped]
    simp
  · rename_i stopped
    rw [stopped]
    simp

/-- Reading goes on where it has stopped, unless it was before a frame that is too large. -/
theorem pullAll_append (enough : 8 ≤ max) (stream more : Bytes) :
    pullAll order max (stream ++ more) =
      match (pullAll order max stream).stop with
      | some _ => { pullAll order max stream with rest := (pullAll order max stream).rest ++ more }
      | none =>
        (pullAll order max ((pullAll order max stream).rest ++ more)).behind
          (pullAll order max stream).frames := by
  fun_induction pullAll order max stream with
  | case1 stream bytes rest pulled ih =>
    obtain ⟨whole, fits, rfl⟩ := isWhole_of_pull enough pulled
    rw [List.append_assoc, pullAll_of_frame (pull_append whole fits (rest ++ more)), ih]
    cases stopped : (pullAll order max rest).stop <;> simp [Pulled.behind, stopped]
  | case2 stream length limit pulled =>
    exact pullAll_of_tooLarge (pull_append_of_tooLarge enough pulled more)
  | case3 stream pulled => rfl

end PullAll

/-! ### All frames in a buffer that is filled in chunks -/

/-- What cutting frames out of a buffer comes to: the frames, what is left in the buffer, the error
that has ended it, and the chunks that had not arrived by then. -/
structure Fed where
  items : List Inbound := []
  buffer : Bytes
  error : Option FramingError := none
  unfed : List Bytes := []

/-- The same with frames in front. -/
def Fed.behind (fed : Fed) (items : List Inbound) : Fed := { fed with items := items ++ fed.items }

namespace Framer

/-- Cuts frames off a buffer until there is no whole one left. -/
def drain (framer : Framer) (buffer : Bytes) : Fed :=
  match _decoded : framer.decode buffer with
  | .error error => { buffer, error := some error }
  | .ok none => { buffer }
  | .ok (some (item, rest)) => (framer.drain rest).behind [item]
termination_by buffer.length
decreasing_by exact decode_shortens _decoded

/-- Adds the chunks of a stream to a buffer, one after the other, and drains it after each of them,
until there is an error. -/
def feed (framer : Framer) (buffer : Bytes) : List Bytes → Fed
  | [] => { buffer }
  | chunk :: chunks =>
    let drained := framer.drain (buffer ++ chunk)
    match drained.error with
    | some _ => { drained with unfed := chunks }
    | none => (framer.feed drained.buffer chunks).behind drained.items

end Framer

/-- Frames cut out of a buffer are the meaning of frames read off a stream, what is left of the two is
the same, and so is the error. -/
structure Fed.Agrees (framer : Framer) (fed : Fed) (pulled : Pulled) : Prop where
  items : pulled.frames.map framer.interpret = fed.items.map .ok
  rest : pulled.rest = fed.buffer ++ fed.unfed.flatten
  error : fed.error = pulled.stop.map fun (length, max) => .tooLarge length max

/-- Frames that mean something in front do not disturb the agreement. -/
theorem Fed.Agrees.behind {framer : Framer} {fed : Fed} {pulled : Pulled}
    (agrees : fed.Agrees framer pulled) {items : List Inbound} {frames : List Bytes}
    (same : frames.map framer.interpret = items.map .ok) :
    (fed.behind items).Agrees framer (pulled.behind frames) where
  items := by
    rw [Pulled.behind, Fed.behind, List.map_append, List.map_append, same, agrees.items]
  rest := agrees.rest
  error := agrees.error

section Feeding

variable {framer : Framer}

/-- Draining a buffer gives what reading off the same bytes gives. -/
theorem Framer.drain_agrees (enough : 8 ≤ framer.maxFrame) (buffer : Bytes) :
    (framer.drain buffer).Agrees framer (pullAll framer.order framer.maxFrame buffer) := by
  fun_induction framer.drain buffer with
  | case1 buffer error failed =>
    obtain ⟨_, rfl, large⟩ := cutOff_of_decode_eq_error failed
    rw [pullAll_of_tooLarge ((pull_eq_tooLarge_iff enough).mpr ⟨rfl, rfl, large⟩)]
    exact ⟨rfl, by simp, rfl⟩
  | case2 buffer nothing =>
    rw [decode_eq_pull framer enough] at nothing
    split at nothing
    · rename_i bytes rest pulled
      cases interpreted : framer.interpret bytes <;> simp [interpreted, Except.map] at nothing
    · simp at nothing
    · rename_i pulled
      rw [pullAll_of_incomplete pulled]
      exact ⟨rfl, by simp, rfl⟩
  | case3 buffer item rest decoded ih =>
    obtain ⟨fits, complete, interpreted, rfl⟩ := decode_eq_some decoded
    have whole := Frame.isWhole_take complete
    have short : (buffer.take (Frame.expectedLength framer.order buffer)).length ≤ framer.maxFrame := by
      rw [List.length_take]
      omega
    have pulled := pull_append whole short (buffer.drop (Frame.expectedLength framer.order buffer))
    rw [List.take_append_drop] at pulled
    rw [pullAll_of_frame pulled]
    exact ih.behind (by rw [List.map_singleton, List.map_singleton, interpreted])

/-- Draining a buffer leaves no chunk unfed: there is none. -/
theorem Framer.unfed_drain (buffer : Bytes) : (framer.drain buffer).unfed = [] := by
  fun_induction framer.drain buffer with
  | case1 | case2 => rfl
  | case3 buffer item rest decoded ih => exact ih

/-- Without an error all chunks are fed. -/
theorem Framer.unfed_feed_of_error_eq_none {chunks : List Bytes} {buffer : Bytes}
    (fine : (framer.feed buffer chunks).error = none) : (framer.feed buffer chunks).unfed = [] := by
  induction chunks generalizing buffer with
  | nil => rfl
  | cons chunk chunks ih =>
    rw [feed] at fine ⊢
    cases failed : (framer.drain (buffer ++ chunk)).error with
    | some error => simp [failed] at fine
    | none =>
      simp only [failed] at fine ⊢
      exact ih fine

/-- Feeding a buffer from which nothing can be cut off gives what reading off all bytes gives. -/
theorem Framer.feed_agrees (enough : 8 ≤ framer.maxFrame) (chunks : List Bytes) (buffer : Bytes)
    (idle : pull framer.order framer.maxFrame buffer = .incomplete) :
    (framer.feed buffer chunks).Agrees framer
      (pullAll framer.order framer.maxFrame (buffer ++ chunks.flatten)) := by
  induction chunks generalizing buffer with
  | nil =>
    rw [List.flatten_nil, List.append_nil, pullAll_of_incomplete idle]
    exact ⟨rfl, by simp [feed], rfl⟩
  | cons chunk chunks ih =>
    have drained : Fed.Agrees framer _ _ := framer.drain_agrees enough (buffer ++ chunk)
    have left : pull framer.order framer.maxFrame _ = _ := stop_pullAll (buffer ++ chunk)
    have error := drained.error
    have rest := drained.rest
    rw [unfed_drain, List.flatten_nil, List.append_nil] at rest
    rw [List.flatten_cons, ← List.append_assoc, pullAll_append enough, feed]
    dsimp only
    cases stopped : (pullAll framer.order framer.maxFrame (buffer ++ chunk)).stop with
    | some stop =>
      -- Draining has ended with an error, and what has not arrived by then stays unfed.
      rw [stopped] at error
      rw [error]
      refine ⟨drained.items, ?_, rfl⟩
      rw [rest]
      rfl
    | none =>
      rw [stopped] at left error
      rw [error]
      show ((framer.feed _ chunks).behind _).Agrees framer (Pulled.behind _ _)
      rw [rest] at left ⊢
      exact (ih _ left).behind drained.items

end Feeding

/-- **The two ways of cutting a stream agree**, on every stream, for every split of it into chunks and
whatever the resolver knows.  Feeding the chunks to a buffer gives, frame by frame, the meaning of what
reading off the stream gives; each frame is as long as its own length field says, and nothing behind it
is touched.  Both stop before the same frame, exactly if that declares more than there is room for, and
else go on until what is left is no whole frame; and no other error ever comes out of a buffer, which
then is as it was. -/
theorem feed_agrees_with_pullAll (framer : Framer) (enough : 8 ≤ framer.maxFrame)
    (chunks : List Bytes) :
    let fed := framer.feed [] chunks
    let pulled := pullAll framer.order framer.maxFrame chunks.flatten
    pulled.frames.map framer.interpret = fed.items.map .ok ∧
      (∀ bytes ∈ pulled.frames, ∃ declared,
        Frame.lengthField? framer.order bytes = some declared ∧
          bytes.length = 8 + declared ∧ bytes.length ≤ framer.maxFrame) ∧
      pulled.frames.flatten ++ pulled.rest = chunks.flatten ∧
      fed.buffer ++ fed.unfed.flatten = pulled.rest ∧
      fed.error = pulled.stop.map (fun (length, max) => .tooLarge length max) ∧
      (∀ length max, pulled.stop = some (length, max) ↔
        ∃ declared, Frame.lengthField? framer.order pulled.rest = some declared ∧
          length = 8 + declared ∧ max = framer.maxFrame ∧ framer.maxFrame - 8 < declared) ∧
      (fed.error = none →
        fed.unfed = [] ∧ fed.buffer.length < Frame.expectedLength framer.order fed.buffer) ∧
      ∀ buffer error, framer.decode buffer = .error error →
        error = .tooLarge (Frame.expectedLength framer.order buffer) framer.maxFrame ∧
          framer.cutOff buffer = (.error error, buffer) := by
  intro fed pulled
  have agrees : fed.Agrees framer pulled := framer.feed_agrees enough chunks [] (pull_nil enough)
  have left : pull framer.order framer.maxFrame pulled.rest = _ := stop_pullAll chunks.flatten
  refine ⟨agrees.items, ?_, flatten_pullAll enough _, agrees.rest.symm, agrees.error, ?_, ?_, ?_⟩
  · intro bytes member
    obtain ⟨whole, fits⟩ := isWhole_of_mem_pullAll enough member
    obtain ⟨declared, known, length⟩ := Frame.isWhole_iff.mp whole
    exact ⟨declared, known, length, fits⟩
  · intro length max
    rw [stop_pullAll_eq_some_iff enough, Frame.expectedLength]
    cases known : Frame.lengthField? framer.order pulled.rest with
    | none =>
      refine ⟨fun ⟨eight, _, large⟩ => ?_, fun ⟨declared, impossible, _⟩ => nomatch impossible⟩
      dsimp only at eight
      omega
    | some declared =>
      constructor
      · rintro ⟨rfl, rfl, large⟩
        dsimp only at large ⊢
        exact ⟨declared, rfl, rfl, rfl, by omega⟩
      · rintro ⟨_, same, rfl, rfl, large⟩
        obtain rfl := Option.some.inj same
        exact ⟨rfl, rfl, by omega⟩
  · intro fine
    have unfed : fed.unfed = [] := framer.unfed_feed_of_error_eq_none fine
    have rest : pulled.rest = fed.buffer := by
      rw [agrees.rest, unfed, List.flatten_nil, List.append_nil]
    have stopped : pulled.stop = none := by
      have error : fed.error = _ := agrees.error
      rw [fine] at error
      exact Option.map_eq_none_iff.mp error.symm
    rw [stopped] at left
    rw [rest] at left
    exact ⟨unfed, ((pull_eq_incomplete_iff enough).mp left).2⟩
  · intro buffer error failed
    obtain ⟨unchanged, same, _⟩ := Framer.cutOff_of_decode_eq_error failed
    exact ⟨same, unchanged⟩

/-- Two requests and a frame that declares too much, in three chunks of which the first ends within a
length field: both ways find the two requests and stop before the third frame. -/
theorem feed_agrees_on_split_frames :
    let framer : Framer := ⟨.big, 16, .withTables []⟩
    let first : Bytes := [0, 1, 0, 0, 0, 0, 0, 0]
    let second : Bytes := [0, 2, 0, 0, 0, 0, 0, 6, 1, 3, 0, 0, 0, 1]
    let third : Bytes := [0, 3, 0, 0, 0, 0, 0, 9, 1, 3]
    let chunks := [first ++ second.take 7, second.drop 7 ++ third.take 9, third.drop 9]
    8 ≤ framer.maxFrame ∧
      (framer.feed [] chunks).items.map .ok = [first, second].map framer.interpret ∧
      (framer.feed [] chunks).error = some (.tooLarge 17 16) ∧
      (framer.feed [] chunks).buffer ++ (framer.feed [] chunks).unfed.flatten = third := by
  intro framer first second third chunks
  have read : pullAll .big 16 (first ++ (second ++ third)) =
      { frames := [first, second], rest := third, stop := some (17, 16) } := by
    have last : pull .big 16 third = .tooLarge 17 16 := by cbv
    rw [pullAll_of_frame (show pull .big 16 _ = .frame first (second ++ third) by cbv),
      pullAll_of_frame (show pull .big 16 _ = .frame second third by cbv), pullAll_of_tooLarge last]
    rfl
  have agrees := feed_agrees_with_pullAll framer (by decide) chunks
  have same : pullAll framer.order framer.maxFrame chunks.flatten = _ := read
  dsimp only at agrees
  rw [same] at agrees
  exact ⟨by decide, agrees.1.symm, agrees.2.2.2.2.1, agrees.2.2.2.1⟩

end ModbusTcp
