import ModbusTcp.Error
import ModbusTcp.Proofs.Packet.Extension

/-!
# Reading level by level

What a packet carries is named by tables from bytes that have just been read, and a table may name envelopes, so
that it is the input that says how deep a chain is.  Each level takes a byte before it asks for the next one; so
reading ends, and a chain has no more levels than bytes.  What has been read depends on the bytes that have been taken
and on none behind them.

* `Packet.readLevel`, `Packet.decodeInto_eq` — one level of reading, and reading as a recursion over levels.
* `Packet.decodeInto_induction` — the induction that goes with it.
* `Packet.decodeWithin`, `Packet.decodeWithin_eq` — reading that gives up below so many levels, and when it does
  not.
* `Takes` — a reader takes bytes off the front of its input, one at least, and does not look behind them;
  `Packet.takes_readLevel`, `Packet.takes_decodeInto`.
* `Packet.depth_lt_of_decodeInto` — how many levels a chain has.
* `DecodeError.Grounded`, `Packet.failsGrounded_decodeInto` — what there is in the input when reading fails.
* `Resolver.Plain` — resolvers made of the register model and of tables of empty packets.
* **`Packet.reading_ends`** — all of it.
-/

namespace ModbusTcp

variable {resolver : Resolver} {direction : Direction} {order : ByteOrder}

/-- What has been said of a value has been said of one that was read, and the same bytes are left. -/
theorem exists_of_map_eq_ok {α β : Type} {found : Except DecodeError (α × Bytes)} {result : β} {rest : Bytes}
    (say : α → β) (whole : (found.map fun (value, rest) => (say value, rest)) = .ok (result, rest)) :
    ∃ value, found = .ok (value, rest) ∧ say value = result := by
  cases found with
  | error reason => cases whole
  | ok pair =>
    obtain ⟨rfl, rfl⟩ := Prod.mk.inj (Except.ok.inj whole)
    exact ⟨pair.1, rfl, rfl⟩

/-! ### Levels -/

namespace Packet

/-- A packet is an envelope, with or without a payload, or a body. -/
theorem exists_parts (packet : Packet) :
    (∃ envelope payload?, packet = .ofParts envelope payload?) ∨ ∃ content, packet = .body content := by
  cases packet with
  | bare envelope => exact .inl ⟨envelope, none, rfl⟩
  | carry envelope payload => exact .inl ⟨envelope, some payload, rfl⟩
  | body content => exact .inr ⟨content, rfl⟩

/-- What one level of reading comes to: a packet, or an envelope that asks for a payload. -/
inductive Level where
  | complete (packet : Packet)
  | asks (envelope : Envelope) (payload : Packet)

/-- What an envelope that has been read into the target comes to. -/
def levelOf (resolver : Resolver) (direction : Direction) (target : Packet) (envelope : Envelope) : Level :=
  match if envelope.expectsPayload then resolver envelope direction else none with
  | some payload => .asks envelope payload
  | none => .complete (target.withEnvelope envelope)

/-- Reads the outermost layer of a packet into the target, and what follows it is left. -/
def readLevel (resolver : Resolver) (direction : Direction) (order : ByteOrder) (target : Packet) (input : Bytes) :
    Except DecodeError (Level × Bytes) :=
  match target with
  | .body content => (content.decode order input).map fun (content, rest) => (.complete (.body content), rest)
  | .bare envelope | .carry envelope _ =>
    (envelope.decode order input).map fun (envelope, rest) => (target.levelOf resolver direction envelope, rest)

theorem readLevel_ofParts (envelope : Envelope) (payload? : Option Packet) (input : Bytes) :
    readLevel resolver direction order (.ofParts envelope payload?) input =
      (envelope.decode order input).map fun (found, rest) =>
        ((ofParts envelope payload?).levelOf resolver direction found, rest) := by
  cases payload? <;> rfl

/-- Goes on behind a level that has been read, if it asks for a payload. -/
def readBelow (resolver : Resolver) (direction : Direction) (order : ByteOrder) :
    Level × Bytes → Except DecodeError (Packet × Bytes)
  | (.complete packet, rest) => .ok (packet, rest)
  | (.asks envelope payload, rest) =>
    (decodeInto resolver direction order payload rest).map fun (payload, rest) => (.carry envelope payload, rest)

/-- Reading is reading a level and going on behind it. -/
theorem decodeInto_eq (target : Packet) (input : Bytes) :
    decodeInto resolver direction order target input =
      (readLevel resolver direction order target input).bind (readBelow resolver direction order) := by
  rcases target.exists_parts with ⟨envelope, payload?, rfl⟩ | ⟨content, rfl⟩
  · rw [decodeInto_ofParts, readLevel_ofParts]
    cases envelope.decode order input with
    | error reason => rfl
    | ok result =>
      obtain ⟨found, rest⟩ := result
      show _ = readBelow resolver direction order ((ofParts envelope payload?).levelOf resolver direction found, rest)
      rw [levelOf]
      dsimp only
      by_cases expects : found.expectsPayload
      · rw [if_pos expects, if_pos expects]
        cases resolver found direction <;> rfl
      · rw [if_neg expects, if_neg expects]
        rfl
  · rw [decodeInto_body, readLevel]
    cases content.decode order input <;> rfl

end Packet

/-! ### Taking bytes off the front -/

/-- A reader takes bytes off the front of its input, one at least, and what follows them does not matter to it. -/
def Takes {α : Type} (read : Bytes → Except DecodeError (α × Bytes)) : Prop :=
  ∀ input value rest, read input = .ok (value, rest) →
    ∃ taken, input = taken ++ rest ∧ 0 < taken.length ∧ ∀ other, read (taken ++ other) = .ok (value, other)

/-- A reader takes what another one takes if it only says differently what that is. -/
theorem Takes.map {α β : Type} {read : Bytes → Except DecodeError (α × Bytes)} (takes : Takes read)
    (say : α → β) : Takes fun input => (read input).map fun (value, rest) => (say value, rest) := by
  intro input value rest result
  obtain ⟨found, known, rfl⟩ := exists_of_map_eq_ok say result
  obtain ⟨taken, split, something, again⟩ := takes _ _ _ known
  refine ⟨taken, split, something, fun other => ?_⟩
  dsimp only
  rw [again]
  rfl

theorem Body.takes_decode (target : Body) : Takes fun input => target.decode order input := by
  intro input content rest read
  obtain ⟨spelled, kind, fits⟩ := eq_encode_append_of_decode read
  refine ⟨content.encode order, spelled, ?_, decode_encode kind fits⟩
  rw [length_encode]
  exact (Packet.body content).measure_pos

/-- A unit id is taken off the front of the tail, or there is none. -/
theorem Mbap.exists_front_of_takeUnit {kept unit : UInt8} {length : UInt16} {tail rest : Bytes}
    (taken : takeUnit kept length tail = .ok (unit, rest)) :
    ∃ front, tail = front ++ rest ∧ ∀ other, takeUnit kept length (front ++ other) = .ok (unit, other) := by
  simp only [takeUnit] at taken ⊢
  split at taken
  · next cut =>
    obtain ⟨rfl, rfl⟩ := Prod.mk.inj (Except.ok.inj taken)
    exact ⟨[], rfl, fun other => if_pos cut⟩
  · next whole => exact ⟨[unit], length_of_takeByte taken, fun other => if_neg whole⟩

theorem Mbap.takes_decode (target : Mbap) : Takes fun input => target.decode order input := by
  intro input header rest read
  obtain ⟨ids, length, tail, rfl⟩ := exists_spell_of_decode read
  dsimp only at read ⊢
  rw [decode_spell] at read
  obtain ⟨unit, taken, rfl⟩ :=
    exists_of_map_eq_ok (fun unit => ({ ids with unit, declared := some length } : Mbap)) read
  obtain ⟨front, rfl, again⟩ := exists_front_of_takeUnit taken
  refine ⟨ids.spell order length front, (spell_append ids length front rest).symm, ?_, fun other => ?_⟩
  · rw [length_spell]
    omega
  · rw [spell_append, decode_spell, again]
    rfl

theorem takes_takeByte : Takes takeByte := by
  intro input byte rest read
  exact ⟨[byte], length_of_takeByte read, Nat.one_pos, fun other => rfl⟩

theorem Envelope.takes_decode (target : Envelope) : Takes fun input => target.decode order input := by
  cases target with
  | mbap header => exact header.takes_decode.map Envelope.mbap
  | pdu function => exact takes_takeByte.map Envelope.pdu

/-- A level takes something before it asks for a payload. -/
theorem Packet.takes_readLevel (target : Packet) :
    Takes fun input => readLevel resolver direction order target input := by
  cases target with
  | body content => exact content.takes_decode.map fun content => Level.complete (.body content)
  | bare envelope => exact envelope.takes_decode.map (levelOf resolver direction (.bare envelope))
  | carry envelope payload => exact envelope.takes_decode.map (levelOf resolver direction (.carry envelope payload))

/-! ### The recursion -/

namespace Packet

/-- What holds of every level, given that it holds of the payload that the level asks for, holds of all reading. -/
theorem decodeInto_induction {motive : Packet → Bytes → Except DecodeError (Packet × Bytes) → Prop}
    (error : ∀ target input reason, readLevel resolver direction order target input = .error reason →
      motive target input (.error reason))
    (complete : ∀ target input packet rest,
      readLevel resolver direction order target input = .ok (.complete packet, rest) →
        motive target input (.ok (packet, rest)))
    (asks : ∀ target input envelope payload rest,
      readLevel resolver direction order target input = .ok (.asks envelope payload, rest) →
        motive payload rest (decodeInto resolver direction order payload rest) →
        motive target input ((decodeInto resolver direction order payload rest).map fun (payload, rest) =>
          (.carry envelope payload, rest)))
    (target : Packet) (input : Bytes) : motive target input (decodeInto resolver direction order target input) := by
  -- A level leaves less than there was, so the induction is on how many bytes there are.
  induction size : input.length using Nat.strongRecOn generalizing target input with
  | _ bound ih =>
  rw [decodeInto_eq]
  cases level : readLevel resolver direction order target input with
  | error reason => exact error target input reason level
  | ok result =>
    obtain ⟨level', rest⟩ := result
    cases level' with
    | complete packet => exact complete target input packet rest level
    | asks envelope payload =>
      obtain ⟨taken, rfl, something, _⟩ := takes_readLevel target input _ _ level
      have shorter : rest.length < bound := by
        rw [← size, List.length_append]
        omega
      exact asks target _ envelope payload rest level (ih rest.length shorter payload rest rfl)

/-- Reads with at most so many levels, one inside the other, and gives up below them. -/
def decodeWithin (resolver : Resolver) (direction : Direction) (order : ByteOrder) :
    Nat → Packet → Bytes → Option (Except DecodeError (Packet × Bytes))
  | 0, _, _ => none
  | levels + 1, target, input =>
    match readLevel resolver direction order target input with
    | .error reason => some (.error reason)
    | .ok (.complete packet, rest) => some (.ok (packet, rest))
    | .ok (.asks envelope payload, rest) =>
      (decodeWithin resolver direction order levels payload rest).map
        (Except.map fun (payload, rest) => (.carry envelope payload, rest))

/-- Reading needs one level more than there are bytes at most. -/
theorem decodeWithin_eq {levels : Nat} {target : Packet} {input : Bytes} (enough : input.length < levels) :
    decodeWithin resolver direction order levels target input =
      some (decodeInto resolver direction order target input) := by
  refine decodeInto_induction
    (motive := fun target input result => ∀ levels, input.length < levels →
      decodeWithin resolver direction order levels target input = some result)
    ?_ ?_ ?_ target input levels enough
  · rintro target input reason level (_ | levels) enough
    · cases enough
    · rw [decodeWithin, level]
  · rintro target input packet rest level (_ | levels) enough
    · cases enough
    · rw [decodeWithin, level]
  · rintro target input envelope payload rest level ih (_ | levels) enough
    · cases enough
    · obtain ⟨taken, rfl, something, _⟩ := takes_readLevel target input _ _ level
      have fewer : rest.length < levels := by
        rw [List.length_append] at enough
        omega
      rw [decodeWithin, level]
      dsimp only
      rw [ih levels fewer]
      rfl

/-! ### What has been read -/

/-- Reading takes bytes off the front of the input, whatever the resolver says, and what follows them does not
matter. -/
theorem takes_decodeInto (target : Packet) : Takes fun input => decodeInto resolver direction order target input := by
  intro input
  refine decodeInto_induction
    (motive := fun target input result => ∀ packet rest, result = .ok (packet, rest) →
      ∃ taken, input = taken ++ rest ∧ 0 < taken.length ∧
        ∀ other, decodeInto resolver direction order target (taken ++ other) = .ok (packet, other))
    ?_ ?_ ?_ target input
  · intro target input reason level packet rest read
    cases read
  · intro target input packet rest level packet' rest' read
    obtain ⟨rfl, rfl⟩ := Prod.mk.inj (Except.ok.inj read)
    obtain ⟨taken, split, something, again⟩ := takes_readLevel target input _ _ level
    refine ⟨taken, split, something, fun other => ?_⟩
    rw [decodeInto_eq]
    exact congrArg (Except.bind · _) (again other)
  · intro target input envelope payload rest level ih packet rest' read
    obtain ⟨inner, below, rfl⟩ := exists_of_map_eq_ok (Packet.carry envelope) read
    obtain ⟨taken, rfl, something, again⟩ := takes_readLevel target input _ _ level
    obtain ⟨further, rfl, _, againBelow⟩ := ih inner rest' below
    refine ⟨taken ++ further, (List.append_assoc ..).symm, ?_, fun other => ?_⟩
    · rw [List.length_append]
      omega
    · dsimp only at again
      rw [decodeInto_eq, List.append_assoc, again]
      show (decodeInto _ _ _ payload (further ++ other)).map _ = _
      rw [againBelow]
      rfl

theorem depth_pos (packet : Packet) : 0 < packet.depth := by
  cases packet <;> exact Nat.succ_pos _

theorem depth_of_payload? {packet : Packet} (unladen : packet.payload? = none) : packet.depth = 1 := by
  cases packet with
  | carry envelope payload => cases unladen
  | bare envelope => rfl
  | body content => rfl

/-- An envelope that has been read into a packet carries at most what that has carried. -/
theorem depth_withEnvelope_le (target : Packet) (envelope : Envelope) :
    (target.withEnvelope envelope).depth ≤ target.depth := by
  cases envelope with
  | mbap header => exact target.depth_pos
  | pdu function => cases target <;> exact Nat.le_refl _

/-- A level that asks for a payload asks for what the resolver names, and a packet that is complete is no deeper than
the target. -/
theorem levelOf_cases (target : Packet) (envelope : Envelope) :
    (∃ payload, target.levelOf resolver direction envelope = .asks envelope payload ∧
        resolver envelope direction = some payload) ∨
      ∃ packet, target.levelOf resolver direction envelope = .complete packet ∧ packet.depth ≤ target.depth := by
  rw [levelOf]
  split
  · next payload asked =>
    split at asked
    · exact .inl ⟨payload, rfl, asked⟩
    · cases asked
  · exact .inr ⟨_, rfl, target.depth_withEnvelope_le envelope⟩

theorem readLevel_cases {target : Packet} {input rest : Bytes} {level : Level}
    (read : readLevel resolver direction order target input = .ok (level, rest)) :
    (∃ envelope payload, level = .asks envelope payload ∧ resolver envelope direction = some payload) ∨
      ∃ packet, level = .complete packet ∧ packet.depth ≤ target.depth := by
  rcases target.exists_parts with ⟨envelope, payload?, rfl⟩ | ⟨content, rfl⟩
  · rw [readLevel_ofParts] at read
    obtain ⟨found, _, rfl⟩ := exists_of_map_eq_ok (levelOf resolver direction (.ofParts envelope payload?)) read
    rcases levelOf_cases (ofParts envelope payload?) found with ⟨payload, level, named⟩ | complete
    · exact .inl ⟨found, payload, level, named⟩
    · exact .inr complete
  · obtain ⟨content, _, rfl⟩ := exists_of_map_eq_ok (fun content => Level.complete (.body content)) read
    exact .inr ⟨_, rfl, Nat.le_refl _⟩

/-- A chain has at most as many levels as bytes have been taken for it, if the resolver names packets that carry
nothing yet.  What the target has carried may be there besides. -/
theorem depth_lt_of_decodeInto (empty : resolver.NamesEmpty) {target packet : Packet} {input rest : Bytes}
    (read : decodeInto resolver direction order target input = .ok (packet, rest)) :
    packet.depth + rest.length < input.length + target.depth := by
  refine decodeInto_induction
    (motive := fun target input result => ∀ packet rest, result = .ok (packet, rest) →
      packet.depth + rest.length < input.length + target.depth)
    ?_ ?_ ?_ target input packet rest read
  · intro target input reason level packet rest read
    cases read
  · intro target input packet rest level packet' rest' read
    obtain ⟨rfl, rfl⟩ := Prod.mk.inj (Except.ok.inj read)
    obtain ⟨taken, rfl, something, _⟩ := takes_readLevel target input _ _ level
    rcases readLevel_cases level with ⟨envelope, payload, asks, _⟩ | ⟨packet, complete, depth⟩
    · cases asks
    · cases complete
      rw [List.length_append]
      omega
  · intro target input envelope payload rest level ih packet rest' read
    obtain ⟨inner, below, rfl⟩ := exists_of_map_eq_ok (Packet.carry envelope) read
    obtain ⟨taken, rfl, something, _⟩ := takes_readLevel target input _ _ level
    have inside : inner.depth + rest'.length < rest.length + payload.depth := ih inner rest' below
    have single : payload.depth = 1 := by
      rcases readLevel_cases level with ⟨_, _, asks, named⟩ | ⟨packet, complete, _⟩
      · cases asks
        exact depth_of_payload? (empty _ _ _ named)
      · cases complete
    have positive := target.depth_pos
    show inner.depth + 1 + rest'.length < _
    rw [List.length_append]
    omega

end Packet

/-! ### Why reading fails -/

/-- An error has a ground in the input.  The input may end too early, whatever stands in it; but a byte count is
complained of only if it stands there, behind a start and a register count whose double it is not. -/
inductive DecodeError.Grounded (order : ByteOrder) (input : Bytes) : DecodeError → Prop
  | endOfInput : Grounded order input .endOfInput
  | byteCountMismatch (front rest : Bytes) (start registers : UInt16) (byteCount : UInt8)
      (spelled : input = front ++ (order.word start ++ (order.word registers ++ byteCount :: rest)))
      (differ : byteCount.toNat ≠ 2 * registers.toNat) :
      Grounded order input (.byteCountMismatch byteCount registers)

theorem DecodeError.Grounded.behind {input : Bytes} {reason : DecodeError} (grounded : reason.Grounded order input)
    (before : Bytes) : reason.Grounded order (before ++ input) := by
  cases grounded with
  | endOfInput => exact .endOfInput
  | byteCountMismatch front rest start registers byteCount spelled differ =>
    refine .byteCountMismatch (before ++ front) rest start registers byteCount ?_ differ
    rw [spelled, List.append_assoc]

/-- A reader fails for errors alone that have a ground in the given bytes. -/
def FailsGrounded {α : Type} (order : ByteOrder) (whole : Bytes) (result : Except DecodeError α) : Prop :=
  ∀ reason, result = .error reason → reason.Grounded order whole

namespace FailsGrounded

variable {α β : Type} {whole input : Bytes}

theorem ok (value : α) : FailsGrounded order whole (.ok value) := by
  intro reason failed
  cases failed

theorem error {reason : DecodeError} (grounded : reason.Grounded order whole) :
    FailsGrounded order whole (.error reason : Except DecodeError α) := by
  intro _ failed
  cases failed
  exact grounded

theorem bind {result : Except DecodeError α} (fails : FailsGrounded order whole result)
    {next : α → Except DecodeError β}
    (others : ∀ value, result = .ok value → FailsGrounded order whole (next value)) :
    FailsGrounded order whole (result >>= next) := by
  cases result with
  | ok value => exact others value rfl
  | error reason => exact error (fails reason rfl)

theorem map {result : Except DecodeError α} (fails : FailsGrounded order whole result) (say : α → β) :
    FailsGrounded order whole (result.map say) := by
  cases result with
  | ok value => exact ok (say value)
  | error reason => exact error (fails reason rfl)

theorem takeByte : FailsGrounded order whole (takeByte input) := by
  cases input with
  | nil => exact error .endOfInput
  | cons byte rest => exact ok _

theorem takeWord : FailsGrounded order whole (takeWord order input) := by
  match input with
  | [] | [_] => exact error .endOfInput
  | _ :: _ :: _ => exact ok _

theorem takeBytes {count : Nat} : FailsGrounded order whole (takeBytes count input) := by
  rw [ModbusTcp.takeBytes]
  split
  · exact ok _
  · exact error .endOfInput

theorem takeWords {count : Nat} : FailsGrounded order whole (takeWords order count input) := by
  induction count generalizing input with
  | zero => exact ok _
  | succ count ih => exact takeWord.bind fun _ _ => ih.bind fun _ _ => ok _

end FailsGrounded

theorem Body.failsGrounded_decode (target : Body) (input : Bytes) :
    FailsGrounded order input (target.decode order input) := by
  cases target with
  | readRegisters start count => exact .bind .takeWord fun _ _ => .bind .takeWord fun _ _ => .ok _
  | writeRegister address value => exact .bind .takeWord fun _ _ => .bind .takeWord fun _ _ => .ok _
  | multipleWritten start count => exact .bind .takeWord fun _ _ => .bind .takeWord fun _ _ => .ok _
  | registerValues bytes => exact .bind .takeByte fun _ _ => .bind .takeBytes fun _ _ => .ok _
  | exception code => exact .bind .takeByte fun _ _ => .ok _
  | writeMultiple start values =>
    refine .bind .takeWord fun (start, behindStart) startTaken => ?_
    refine .bind .takeWord fun (registers, behindRegisters) registersTaken => ?_
    refine .bind .takeByte fun (byteCount, rest) byteCountTaken => ?_
    dsimp only at registersTaken byteCountTaken ⊢
    split
    · exact .bind .takeWords fun _ _ => .ok _
    · next differ =>
      refine .error (.byteCountMismatch [] rest start registers byteCount ?_ differ)
      rw [List.nil_append, eq_word_append_of_takeWord startTaken, eq_word_append_of_takeWord registersTaken,
        length_of_takeByte byteCountTaken]

theorem Envelope.failsGrounded_decode (target : Envelope) (input : Bytes) :
    FailsGrounded order input (target.decode order input) := by
  cases target with
  | pdu function => exact .bind .takeByte fun _ _ => .ok _
  | mbap header =>
    have unit (kept : UInt8) (length : UInt16) (tail : Bytes) :
        FailsGrounded order input (Mbap.takeUnit kept length tail) := by
      rw [Mbap.takeUnit]
      split
      · exact .ok _
      · exact .takeByte
    have decoded : FailsGrounded order input (header.decode order input) :=
      .bind .takeWord fun _ _ => .bind .takeWord fun _ _ => .bind .takeWord fun _ _ => .bind .takeWord fun _ _ =>
        .bind (unit _ _ _) fun _ _ => .ok _
    exact .bind decoded fun _ _ => .ok _

namespace Packet

theorem failsGrounded_readLevel (target : Packet) (input : Bytes) :
    FailsGrounded order input (readLevel resolver direction order target input) := by
  cases target with
  | body content => exact (content.failsGrounded_decode input).map _
  | bare envelope | carry envelope payload => exact (envelope.failsGrounded_decode input).map _

theorem failsGrounded_decodeInto (target : Packet) (input : Bytes) :
    FailsGrounded order input (decodeInto resolver direction order target input) := by
  refine decodeInto_induction (motive := fun _ input result => FailsGrounded order input result) ?_ ?_ ?_ target input
  · intro target input reason level
    exact .error (failsGrounded_readLevel target input reason level)
  · intro target input packet rest level
    exact .ok _
  · intro target input envelope payload rest level below
    obtain ⟨taken, rfl, _⟩ := takes_readLevel target input _ _ level
    exact .map (fun reason failed => (below reason failed).behind taken) _

end Packet

/-! ### Chains of any depth -/

namespace Resolver

/-- A resolver is made of the register model and of tables of empty packets, which may be envelopes. -/
inductive Plain : Resolver → Prop
  | basic : Plain .basic
  | table {lines : List Entry} (empty : ∀ line ∈ lines, ∃ kind, line.payload = .empty kind) :
      Plain (.ofTable lines)
  | listed {resolvers : List Resolver} (plain : ∀ resolver ∈ resolvers, Plain resolver) :
      Plain (.firstOf resolvers)

theorem Plain.namesEmpty {resolver : Resolver} (plain : resolver.Plain) : resolver.NamesEmpty := by
  induction plain with
  | basic => exact namesEmpty_basic
  | table empty =>
    refine namesEmpty_ofTable fun line member => ?_
    obtain ⟨kind, same⟩ := empty line member
    rw [same, Packet.payload?_empty]
  | listed _ ih => exact namesEmpty_firstOf ih

end Resolver

/-- **Reading ends and makes nothing up**, for resolvers made of the register model and of any tables, also such that
name frames and PDUs inside PDUs, and for all bytes.  Each level takes a byte or more before it asks for a payload, so
that one level more than there are bytes is always enough.  If reading succeeds, what it leaves is the end of the
input; the packet depends on the bytes in front of it alone, and it has no more levels than these are bytes, apart
from what the target has carried before.  If it fails, the input has ended, or a byte count stands in it that
contradicts its register count. -/
theorem Packet.reading_ends (plain : resolver.Plain) (direction : Direction) (order : ByteOrder) (target : Packet)
    (input : Bytes) :
    (∀ layer bytes envelope payload rest,
      readLevel resolver direction order layer bytes = .ok (.asks envelope payload, rest) →
        rest <:+ bytes ∧ rest.length < bytes.length) ∧
    (∀ levels, input.length < levels →
      decodeWithin resolver direction order levels target input =
        some (decodeInto resolver direction order target input)) ∧
    (∀ packet rest, decodeInto resolver direction order target input = .ok (packet, rest) →
      ∃ taken, input = taken ++ rest ∧ packet.depth < taken.length + target.depth ∧
        (target.payload? = none → packet.depth ≤ taken.length) ∧
        ∀ other, decodeInto resolver direction order target (taken ++ other) = .ok (packet, other)) ∧
    ∀ reason, decodeInto resolver direction order target input = .error reason →
      reason.Grounded order input ∧
        (reason = .endOfInput ∧ reason.toIoError.kind = .unexpectedEof ∨
          reason ≠ .endOfInput ∧ reason.toIoError.kind = .invalidData) := by
  refine ⟨?_, fun levels enough => decodeWithin_eq enough, ?_, ?_⟩
  · intro layer bytes envelope payload rest level
    obtain ⟨taken, rfl, something, _⟩ := takes_readLevel layer bytes _ _ level
    refine ⟨List.suffix_append taken rest, ?_⟩
    rw [List.length_append]
    omega
  · intro packet rest read
    obtain ⟨taken, rfl, _, again⟩ := takes_decodeInto target input packet rest read
    have deep := depth_lt_of_decodeInto plain.namesEmpty read
    rw [List.length_append] at deep
    refine ⟨taken, rfl, by omega, fun unladen => ?_, again⟩
    rw [depth_of_payload? unladen] at deep
    omega
  · intro reason failed
    refine ⟨failsGrounded_decodeInto target input reason failed, ?_⟩
    cases reason with
    | endOfInput => exact .inl ⟨rfl, rfl⟩
    | byteCountMismatch byteCount registers => exact .inr ⟨DecodeError.noConfusion, rfl⟩

/-- Tables by which a PDU carries a PDU or a frame.  A chain of seven levels is read, whatever follows it; and of a
PDU that goes on and on each byte is a level of its own, until there are none, so that one level less would not do. -/
theorem Packet.reading_ends_of_nested :
    let resolver : Resolver :=
      .firstOf [.basic, .ofTable [⟨0x41, .command, .empty .pdu⟩, ⟨0x42, .command, .empty .mbap⟩]]
    let chain : Bytes := [0, 1, 0, 0, 0, 0, 0, 18, 1, 0x41, 0x41, 0x42, 0, 2, 0, 0, 0, 0, 0, 6, 9, 3, 0, 5, 0, 6]
    let inner : Packet := .carry (.mbap { transactionId := 2, unit := 9, declared := some 6 })
      (.carry (.pdu 3) (.body (.readRegisters 5 6)))
    let packet : Packet := .carry (.mbap { transactionId := 1, unit := 1, declared := some 18 })
      (.carry (.pdu 0x41) (.carry (.pdu 0x41) (.carry (.pdu 0x42) inner)))
    resolver.Plain ∧ packet.depth = 7 ∧
      (∀ other, decodeInto resolver .command .big (.empty .mbap) (chain ++ other) = .ok (packet, other)) ∧
      decodeInto resolver .command .big (.empty .pdu) [0x41, 0x41, 0x41] = .error .endOfInput ∧
      decodeWithin resolver .command .big 3 (.empty .pdu) [0x41, 0x41, 0x41] = none := by
  intro resolver chain inner packet
  have plain : resolver.Plain := by
    refine .listed fun part member => ?_
    rcases List.mem_cons.mp member with rfl | member
    · exact .basic
    · obtain rfl := List.mem_singleton.mp member
      refine .table fun line member => ?_
      rcases List.mem_cons.mp member with rfl | member
      · exact ⟨.pdu, rfl⟩
      · obtain rfl := List.mem_singleton.mp member
        exact ⟨.mbap, rfl⟩
  refine ⟨plain, rfl, ?_, ?_, by cbv⟩
  · obtain ⟨-, enough, succeeds, -⟩ := reading_ends plain .command .big (.empty .mbap) chain
    have within : decodeWithin resolver .command .big 27 (.empty .mbap) chain = some (.ok (packet, [])) := by cbv
    have read : decodeInto resolver .command .big (.empty .mbap) chain = .ok (packet, []) :=
      Option.some.inj ((enough 27 (by decide)).symm.trans within)
    obtain ⟨taken, whole, -, -, again⟩ := succeeds packet [] read
    rw [List.append_nil] at whole
    exact whole ▸ again
  · obtain ⟨-, enough, -⟩ := reading_ends plain .command .big (.empty .pdu) [0x41, 0x41, 0x41]
    have within : decodeWithin resolver .command .big 4 (.empty .pdu) [0x41, 0x41, 0x41] =
        some (.error .endOfInput) := by cbv
    exact Option.some.inj ((enough 4 (by decide)).symm.trans within)

end ModbusTcp
