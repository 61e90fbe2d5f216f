import ModbusTcp.Proofs.Packet.Sameness
import ModbusTcp.Proofs.Packet.Places

/-!
# Reading into used packets

A packet is read into another one of its kind, and what that has held before should be gone then.  A body is
replaced as a whole, and a header drops what it has carried.  Two things are not replaced: a PDU carries what it
has carried if the resolver names nothing for its function, and a header that is cut before its unit id has the
unit id that was there.  The one is written with the packet, the other is not.

* `Packet.KeepsPayload`, `Packet.KeepsUnit` — when something of the used packet is left.
* `Packet.decodeInto_cut`, `Packet.decodeInto_congr` — headers that are cut, and those that are not.
* `Packet.Reread`, `Packet.exists_reread` — what reading into a used packet can come to, and that this is all.
* **`Packet.decodeInto_used`** — when the packet is the same as one that has been read into an empty one, and
  when it has the same bytes.
-/

namespace ModbusTcp

namespace Packet

variable {resolver : Resolver} {direction : Direction} {order : ByteOrder}

/-- A PDU with a payload is read over, and the resolver names none for the function that is read. -/
def KeepsPayload (resolver : Resolver) (direction : Direction) (target : Packet) (input : Bytes) : Prop :=
  ∃ before function payload, target = .carry (.pdu before) payload ∧ input[0]? = some function ∧
    resolver (.pdu function) direction = none

/-- A header with a unit id is read over, and the one that is read is cut before its own. -/
def KeepsUnit (order : ByteOrder) (target : Packet) (input : Bytes) : Prop :=
  ∃ header, target.envelope? = some (.mbap header) ∧ header.unit ≠ 0 ∧ order.wordAt input 6 = 0

/-! ### Bodies and headers -/

/-- A body is read over as a whole. -/
theorem decodeInto_body_eq (content : Body) (input : Bytes) :
    decodeInto resolver direction order (.body content) input =
      decode resolver direction order content.kind input := by
  cases content <;>
  · rw [decode, Body.kind, empty, decodeInto_body, decodeInto_body]
    rfl

/-- A header that is cut keeps the unit id of the one that it is read into. -/
theorem decodeInto_cut (before ids : Mbap) (payload? : Option Packet) (tail : Bytes) :
    decodeInto resolver direction order (.ofParts (.mbap before) payload?) (ids.spell order 0 tail) =
      .ok (.bare (.mbap (Frame.headerOf ids before.unit 0)), tail) := by
  have decoded : (Envelope.mbap before).decode order (ids.spell order 0 tail) =
      .ok (.mbap (Frame.headerOf ids before.unit 0), tail) := by
    rw [Envelope.decode, Mbap.decode_spell]
    rfl
  rw [decodeInto_ofParts, decoded]
  rfl

/-- A header that is not cut does not depend on the one that it is read into. -/
theorem decode_spell_congr (before other ids : Mbap) {length : UInt16} (whole : length ≠ 0) (tail : Bytes) :
    before.decode order (ids.spell order length tail) = other.decode order (ids.spell order length tail) := by
  rw [Mbap.decode_spell, Mbap.decode_spell, Mbap.takeUnit, Mbap.takeUnit, if_neg whole, if_neg whole]

/-- Nothing but the fields of a header can be left of a frame. -/
theorem decodeInto_congr {before other : Mbap} {input : Bytes}
    (same : before.decode order input = other.decode order input) (payload? : Option Packet) :
    decodeInto resolver direction order (.ofParts (.mbap before) payload?) input =
      decodeInto resolver direction order (.bare (.mbap other)) input := by
  show _ = decodeInto resolver direction order (.ofParts (.mbap other) none) input
  rw [decodeInto_ofParts, decodeInto_ofParts, Envelope.decode, Envelope.decode, same]
  cases other.decode order input <;> rfl

/-! ### What is left -/

/-- What reading into a used packet can come to, next to what reading into an empty one comes to. -/
inductive Reread (resolver : Resolver) (direction : Direction) (order : ByteOrder) (target : Packet)
    (input : Bytes) : Packet → Packet → Prop
  /-- Nothing of the used packet is left. -/
  | clean (packet : Packet) (noPayload : ¬target.KeepsPayload resolver direction input)
      (noUnit : ¬target.KeepsUnit order input) : Reread resolver direction order target input packet packet
  /-- Its payload is left, behind another function. -/
  | payload (function : UInt8) (payload : Packet) (keeps : target.KeepsPayload resolver direction input) :
      Reread resolver direction order target input (.carry (.pdu function) payload) (.bare (.pdu function))
  /-- Its unit id is left, in a header that has none of its own. -/
  | unit (ids : Mbap) {unit : UInt8} (nonzero : unit ≠ 0)
      (noPayload : ¬target.KeepsPayload resolver direction input) (keeps : target.KeepsUnit order input) :
      Reread resolver direction order target input (.bare (.mbap (Frame.headerOf ids unit 0)))
        (.bare (.mbap (Frame.headerOf ids 0 0)))

section Reread

variable {packet fresh : Packet} {input rest : Bytes}

theorem exists_reread_pdu (before : UInt8) (payload? : Option Packet)
    (read : decodeInto resolver direction order (.ofParts (.pdu before) payload?) input = .ok (packet, rest)) :
    ∃ fresh, decode resolver direction order .pdu input = .ok (fresh, rest) ∧
      Reread resolver direction order (.ofParts (.pdu before) payload?) input packet fresh := by
  have noUnit : ¬(ofParts (.pdu before) payload?).KeepsUnit order input := by
    rintro ⟨header, outermost, _⟩
    cases payload? <;> cases outermost
  cases input with
  | nil =>
    rw [decodeInto_ofParts] at read
    cases read
  | cons function tail =>
    rw [decodeInto_ofParts_pdu] at read
    rw [decode, empty, decodeInto_pdu]
    cases named : resolver (.pdu function) direction with
    | some target =>
      rw [named] at read
      refine ⟨packet, read, .clean packet ?_ noUnit⟩
      rintro ⟨_, function', _, _, there, declined⟩
      obtain rfl : function = function' := Option.some.inj there
      cases named.symm.trans declined
    | none =>
      rw [named] at read
      obtain ⟨rfl, rfl⟩ := Prod.mk.inj (Except.ok.inj read)
      refine ⟨_, rfl, ?_⟩
      cases payload? with
      | some payload => exact .payload function payload ⟨before, function, payload, rfl, rfl, named⟩
      | none =>
        refine .clean _ ?_ noUnit
        rintro ⟨_, _, _, used, _⟩
        cases used

theorem exists_reread_mbap (before : Mbap) (payload? : Option Packet)
    (read : decodeInto resolver direction order (.ofParts (.mbap before) payload?) input = .ok (packet, rest)) :
    ∃ fresh, decode resolver direction order .mbap input = .ok (fresh, rest) ∧
      Reread resolver direction order (.ofParts (.mbap before) payload?) input packet fresh := by
  have noPayload : ¬(ofParts (.mbap before) payload?).KeepsPayload resolver direction input := by
    rintro ⟨_, _, _, used, _⟩
    cases payload? <;> cases used
  have outermost : (ofParts (.mbap before) payload?).envelope? = some (.mbap before) := by
    cases payload? <;> rfl
  -- A header has been read, whatever it was read into, so there is a length field to look at.
  obtain ⟨ids, length, tail, rfl⟩ : ∃ ids length tail, input = Mbap.spell order ids length tail := by
    rw [decodeInto_ofParts, Envelope.decode] at read
    cases decoded : before.decode order input with
    | ok result => exact Mbap.exists_spell_of_decode decoded
    | error reason =>
      rw [decoded] at read
      cases read
  have field : order.wordAt (ids.spell order length tail) 6 = length :=
    ByteOrder.wordAt_append _ (ids.length_encodeIds order) _ _
  by_cases cut : length = 0
  · subst cut
    rw [decodeInto_cut] at read
    obtain ⟨rfl, rfl⟩ := Prod.mk.inj (Except.ok.inj read)
    have fresh : decode resolver direction order .mbap (ids.spell order 0 tail) =
        .ok (.bare (.mbap (Frame.headerOf ids 0 0)), tail) := decodeInto_cut default ids none tail
    refine ⟨_, fresh, ?_⟩
    by_cases zero : before.unit = 0
    · rw [zero]
      refine .clean _ noPayload ?_
      rintro ⟨header, same, nonzero, _⟩
      cases outermost.symm.trans same
      exact nonzero zero
    · exact .unit ids zero noPayload ⟨before, outermost, zero, field⟩
  · refine ⟨packet, ?_, .clean packet noPayload ?_⟩
    · rw [decodeInto_congr (decode_spell_congr before default ids cut tail)] at read
      exact read
    · rintro ⟨_, _, _, zero⟩
      exact cut (field.symm.trans zero)

/-- This is all that reading into a used packet can come to, and reading into an empty one succeeds with it. -/
theorem exists_reread {target : Packet}
    (read : decodeInto resolver direction order target input = .ok (packet, rest)) :
    ∃ fresh, decode resolver direction order target.kind input = .ok (fresh, rest) ∧
      Reread resolver direction order target input packet fresh := by
  cases target with
  | bare envelope =>
    cases envelope with
    | mbap header => exact exists_reread_mbap header none read
    | pdu function => exact exists_reread_pdu function none read
  | carry envelope payload =>
    cases envelope with
    | mbap header => exact exists_reread_mbap header (some payload) read
    | pdu function => exact exists_reread_pdu function (some payload) read
  | body content =>
    rw [decodeInto_body_eq] at read
    refine ⟨packet, read, .clean packet ?_ ?_⟩
    · rintro ⟨_, _, _, used, _⟩
      cases used
    · rintro ⟨_, outermost, _⟩
      cases outermost

/-- **When reading into a used packet is reading into an empty one**, for any resolver and whatever the packet has
held before.  If it succeeds, so does reading the same bytes into the empty packet of the kind, and the two
packets are the same, even in the lengths that were declared for them, unless a payload or a unit id is left.
They have the same bytes unless a payload is left. -/
theorem decodeInto_used {target : Packet}
    (read : decodeInto resolver direction order target input = .ok (packet, rest)) :
    ∃ fresh, decode resolver direction order target.kind input = .ok (fresh, rest) ∧
      (packet.same fresh ↔ ¬target.KeepsPayload resolver direction input ∧ ¬target.KeepsUnit order input) ∧
      (packet.same fresh → packet = fresh) ∧
      ∀ written, packet.encode written = fresh.encode written ↔
        ¬target.KeepsPayload resolver direction input := by
  obtain ⟨fresh, decoded, reread⟩ := exists_reread read
  refine ⟨fresh, decoded, ?_⟩
  cases reread with
  | clean packet noPayload noUnit =>
    exact ⟨iff_of_true (same_iff.mpr rfl) ⟨noPayload, noUnit⟩, fun _ => rfl,
      fun _ => iff_of_true rfl noPayload⟩
  | payload function payload keeps =>
    have differs : ¬(carry (.pdu function) payload).same (.bare (.pdu function)) := by
      rw [same_iff, settled, settled]
      exact Packet.noConfusion
    refine ⟨iff_of_false differs fun none => none.1 keeps, fun same => absurd same differs, fun written => ?_⟩
    refine iff_of_false (fun equal => ?_) (not_not_intro keeps)
    -- What is left would have to be written as nothing, but every packet takes a byte.
    have nothing : payload.encode written = [] := (List.cons.inj equal).2
    have positive := payload.measure_pos
    rw [← length_encode written, nothing] at positive
    exact Nat.lt_irrefl 0 positive
  | @unit ids unit nonzero noPayload keeps =>
    have differs : ¬(bare (.mbap (Frame.headerOf ids unit 0))).same (.bare (.mbap (Frame.headerOf ids 0 0))) := by
      rw [same_iff]
      intro equal
      exact nonzero (congrArg Mbap.unit (Envelope.mbap.inj (Packet.bare.inj equal)))
    exact ⟨iff_of_false differs fun none => none.2 keeps, fun same => absurd same differs,
      fun _ => iff_of_true rfl noPayload⟩

end Reread

/-- A header that has served another unit is read again, and this time it is cut: the unit is still there, but
not among the bytes. -/
theorem decodeInto_used_of_cut :
    let used : Packet := .bare (.mbap { transactionId := 5, unit := 7 })
    let input : Bytes := [0, 1, 0, 0, 0, 0, 0, 0]
    ∃ packet fresh,
      decodeInto (.withTables []) .command .big used input = .ok (packet, []) ∧
      decode (.withTables []) .command .big .mbap input = .ok (fresh, []) ∧
      ¬packet.same fresh ∧ ∀ order : ByteOrder, packet.encode order = fresh.encode order := by
  intro used input
  have read : decodeInto (.withTables []) .command .big used input =
      .ok (.bare (.mbap (Frame.headerOf { transactionId := 1 } 7 0)), []) :=
    decodeInto_cut { transactionId := 5, unit := 7 } { transactionId := 1 } none []
  obtain ⟨fresh, decoded, same, -, written⟩ := decodeInto_used read
  refine ⟨_, fresh, read, decoded, fun equal => ?_, fun order => (written order).mpr ?_⟩
  · exact (same.mp equal).2 ⟨_, rfl, by decide, by decide⟩
  · rintro ⟨_, _, _, carries, _⟩
    exact Packet.noConfusion carries

/-- A PDU that has carried a request to read is read again, with a function that the resolver does not know: the
request to read is still there, and is written behind the function. -/
theorem decodeInto_keeps_payload :
    let used : Packet := .carry (.pdu 3) (.body (.readRegisters 1 2))
    let input : Bytes := [0x41]
    ∃ packet fresh,
      decodeInto (.withTables []) .command .big used input = .ok (packet, []) ∧
      decode (.withTables []) .command .big .pdu input = .ok (fresh, []) ∧
      ¬packet.same fresh ∧ packet.encode .big = [0x41, 0, 1, 0, 2] ∧ fresh.encode .big = [0x41] := by
  refine ⟨.carry (.pdu 0x41) (.body (.readRegisters 1 2)), .bare (.pdu 0x41), ?_, ?_, by decide, by decide,
    by decide⟩
  · exact decodeInto_ofParts_pdu 0x41 3 (some (.body (.readRegisters 1 2))) []
  · exact decodeInto_pdu 0x41 0 []

end Packet

end ModbusTcp
