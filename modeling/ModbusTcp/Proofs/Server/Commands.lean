import ModbusTcp.Proofs.Packet.Places
import ModbusTcp.Proofs.Server.Replies

/-!
# The requests that a server takes

What a server with the register model makes of a whole frame, told from where its bytes stand: which
frames carry no PDU, which functions take a body, how long that has to be, and which of its counts have to
agree.

* `Inbound.ofBody` — a function that takes a body is a request with it, and malformed without it.
* `Body.readRegisters?`, `Body.writeRegister?`, `Body.writeMultiple?` — the bodies that some bytes hold.
* `Framer.interpret_eq_ofBody` — a frame with such a function.
* **`Framer.decode_command`** — all whole frames, with anything behind them.
-/

namespace ModbusTcp

/-! ### Bodies told from their places -/

/-- What a frame is whose function takes a body: a request with that body, and malformed if its bytes
hold none. -/
def Inbound.ofBody (header : Mbap) (function : UInt8) : Option Body → Inbound
  | some content => .request ⟨header, some (Pdu.mk function (some (.body content))).toPacket⟩
  | none => .malformed ⟨header, some (Pdu.mk function none).toPacket⟩

namespace Body

variable {order : ByteOrder} {bytes : Bytes}

/-- Which registers some bytes ask for: the start and the count are their first two words. -/
def readRegisters? (order : ByteOrder) (bytes : Bytes) : Option Body :=
  if 4 ≤ bytes.length then some (.readRegisters (order.wordAt bytes 0) (order.wordAt bytes 2)) else none

/-- Which register some bytes write: the address and the value are their first two words. -/
def writeRegister? (order : ByteOrder) (bytes : Bytes) : Option Body :=
  if 4 ≤ bytes.length then some (.writeRegister (order.wordAt bytes 0) (order.wordAt bytes 2)) else none

/-- Which registers some bytes write: their first two words are the start and the count, the fifth byte
counts the bytes of the values, and these follow. -/
def writeMultiple? (order : ByteOrder) (bytes : Bytes) : Option Body :=
  let count := (order.wordAt bytes 2).toNat
  let byteCount := (bytes[4]?.getD 0).toNat
  if 5 ≤ bytes.length ∧ byteCount = 2 * count ∧ byteCount ≤ bytes.length - 5 then
    some (.writeMultiple (order.wordAt bytes 0) (order.wordsAt bytes 5 count))
  else none

/-- What is read into a body, without what follows it. -/
def read? (order : ByteOrder) (bytes : Bytes) (target : Body) : Option Body :=
  (target.decode order bytes).toOption.map (·.1)

theorem read?_readRegisters (start count : UInt16) :
    (readRegisters start count).read? order bytes = readRegisters? order bytes := by
  have decoded : (readRegisters start count).decode order bytes = _ :=
    takeTwoWords_eq readRegisters order bytes
  rw [read?, decoded, readRegisters?]
  split <;> rfl

theorem read?_writeRegister (address value : UInt16) :
    (writeRegister address value).read? order bytes = writeRegister? order bytes := by
  have decoded : (writeRegister address value).decode order bytes = _ :=
    takeTwoWords_eq writeRegister order bytes
  rw [read?, decoded, writeRegister?]
  split <;> rfl

theorem read?_writeMultiple (start : UInt16) (values : List UInt16) :
    (writeMultiple start values).read? order bytes = writeMultiple? order bytes := by
  rw [read?, decode_writeMultiple, writeMultiple?]
  cases counted : bytes[4]? with
  | none =>
    have short : bytes.length ≤ 4 := List.getElem?_eq_none_iff.mp counted
    rw [if_neg (by omega)]
    rfl
  | some byteCount =>
    have there : 4 < bytes.length := (List.getElem?_eq_some_iff.mp counted).1
    dsimp only [Option.getD_some]
    by_cases twice : byteCount.toNat = 2 * (order.wordAt bytes 2).toNat
    · rw [if_pos twice]
      by_cases enough : 5 + byteCount.toNat ≤ bytes.length
      · rw [if_pos enough, if_pos ⟨there, twice, by omega⟩]
        rfl
      · rw [if_neg enough, if_neg (by omega)]
        rfl
    · rw [if_neg twice, if_neg fun granted => twice granted.2.1]
      rfl

end Body

/-! ### Whole frames -/

namespace Framer

variable {framer : Framer} {ids : Mbap} {length : UInt16} {unit function : UInt8} {body : Bytes}

/-- A server with the register model knows that frames carry PDUs. -/
theorem basic_mbap (basic : framer.resolver = Resolver.basic) (header : Mbap) :
    framer.resolver (.mbap header) .command = some (.empty .pdu) := by
  rw [basic]
  rfl

/-- A frame whose function takes a body is what the bytes behind the function byte hold. -/
theorem interpret_eq_ofBody (basic : framer.resolver = Resolver.basic) (room : 1 < length) {target : Body}
    (named : Resolver.basic (.pdu function) .command = some (.body target)) :
    framer.interpret (ids.spell framer.order length (unit :: function :: body)) =
      .ok (.ofBody (Frame.headerOf ids unit length) function (target.read? framer.order body)) := by
  rw [interpret_spell (basic_mbap basic) room, basic, named]
  dsimp only
  rw [Packet.decodeInto_body, Body.read?]
  cases target.decode framer.order body with
  | ok result => rfl
  | error reason => rfl

/-- A frame whose function is not known is a request without a body. -/
theorem interpret_of_unnamed (basic : framer.resolver = Resolver.basic) (room : 1 < length)
    (unnamed : Resolver.basic (.pdu function) .command = none) :
    framer.interpret (ids.spell framer.order length (unit :: function :: body)) =
      .ok (.request ⟨Frame.headerOf ids unit length, some (Pdu.mk function none).toPacket⟩) := by
  rw [interpret_spell (basic_mbap basic) room, basic, unnamed]
  rfl

/-- A whole frame of allowed size is cut off, whatever follows it. -/
theorem decode_append {frame : Bytes} (whole : Frame.IsWhole framer.order frame)
    (fits : frame.length ≤ framer.maxFrame) {inbound : Inbound}
    (interpreted : framer.interpret frame = .ok inbound) (rest : Bytes) :
    framer.decode (frame ++ rest) = .ok (some (inbound, rest)) := by
  rw [decode_eq_pull framer (Nat.le_trans whole.eight_le fits), pull_append whole fits]
  dsimp only
  rw [interpreted]
  rfl

/-- What a frame is that goes on behind its function byte. -/
theorem exists_interpret_spell (basic : framer.resolver = Resolver.basic) (room : 1 < length) (ids : Mbap)
    (unit function : UInt8) (body : Bytes) :
    let header := Frame.headerOf ids unit length
    ∃ inbound, framer.interpret (ids.spell framer.order length (unit :: function :: body)) = .ok inbound ∧
      (function = 0x03 ∨ function = 0x04 →
        inbound = .ofBody header function (Body.readRegisters? framer.order body)) ∧
      (function = 0x06 → inbound = .ofBody header function (Body.writeRegister? framer.order body)) ∧
      (function = 0x10 → inbound = .ofBody header function (Body.writeMultiple? framer.order body)) ∧
      (function ∉ [0x03, 0x04, 0x06, 0x10] →
        inbound = .request ⟨header, some (Pdu.mk function none).toPacket⟩) := by
  intro header
  by_cases reads : function = 0x03 ∨ function = 0x04
  · have named : Resolver.basic (.pdu function) .command = some (.body (.readRegisters 0 0)) := by
      rcases reads with rfl | rfl <;> rfl
    refine ⟨_, interpret_eq_ofBody basic room named, ?_, ?_, ?_, ?_⟩
    · intro _
      rw [Body.read?_readRegisters]
    · rintro rfl
      exact absurd reads (by decide)
    · rintro rfl
      exact absurd reads (by decide)
    · intro unknown
      exact absurd (by simpa using Or.imp_right .inl reads) unknown
  by_cases writes : function = 0x06
  · subst writes
    refine ⟨_, interpret_eq_ofBody basic room FunctionCode.isBasic_writeSingleRegister.command,
      fun other => absurd other reads, ?_, fun other => absurd other (by decide),
      fun unknown => absurd (by decide) unknown⟩
    intro _
    rw [Body.read?_writeRegister]
  by_cases writesMultiple : function = 0x10
  · subst writesMultiple
    refine ⟨_, interpret_eq_ofBody basic room FunctionCode.isBasic_writeMultipleRegisters.command,
      fun other => absurd other reads, fun other => absurd other writes, ?_,
      fun unknown => absurd (by decide) unknown⟩
    intro _
    rw [Body.read?_writeMultiple]
  have unknown : function ∉ [0x03, 0x04, 0x06, 0x10] := by
    simpa using ⟨fun same => reads (.inl same), fun same => reads (.inr same), writes, writesMultiple⟩
  exact ⟨_, interpret_of_unnamed basic room (Resolver.lookUp_basicTable_of_unknown unknown .command),
    fun other => absurd other reads, fun other => absurd other writes,
    fun other => absurd other writesMultiple, fun _ => rfl⟩

/-- **A server takes exactly the requests of the register model.**  A whole frame of allowed size is cut
off, nothing behind it is looked at, and it comes to no error.  Without room for a function byte it is a
request without a PDU.  The functions that read registers and the one that writes a single register take
two words; the one that writes several takes two words, a byte count that is twice the second word, and as
many bytes as that says; what follows is padding.  Where the bytes do not hold that, the frame is malformed,
and all but the function byte is dropped.  Every other function is a request without a body. -/
theorem decode_command (default : framer.resolver = FrameFactory.resolver {}) {frame : Bytes}
    {declared : Nat} (known : Frame.lengthField? framer.order frame = some declared)
    (whole : frame.length = 8 + declared) (fits : frame.length ≤ framer.maxFrame) :
    let header := Frame.headerAt framer.order frame
    let body := frame.drop 10
    ∃ inbound, (∀ rest, framer.decode (frame ++ rest) = .ok (some (inbound, rest))) ∧
      (declared < 2 → inbound = .request ⟨header, none⟩) ∧
      (2 ≤ declared → ∃ function, frame[9]? = some function ∧
        (function = 0x03 ∨ function = 0x04 →
          inbound = .ofBody header function (Body.readRegisters? framer.order body)) ∧
        (function = 0x06 → inbound = .ofBody header function (Body.writeRegister? framer.order body)) ∧
        (function = 0x10 → inbound = .ofBody header function (Body.writeMultiple? framer.order body)) ∧
        (function ∉ [0x03, 0x04, 0x06, 0x10] →
          inbound = .request ⟨header, some (Pdu.mk function none).toPacket⟩)) := by
  intro header body
  have basic : framer.resolver = Resolver.basic := default.trans (Resolver.firstOf_singleton _)
  have isWhole : Frame.IsWhole framer.order frame := Frame.isWhole_iff.mpr ⟨declared, known, whole⟩
  rcases isWhole.cases with
    ⟨ids, rfl⟩ | ⟨ids, unit, rfl⟩ | ⟨ids, unit, function, tail, length, room, exact, rfl⟩
  · have interpreted : framer.interpret (ids.spell framer.order 0 []) = .ok (.request ⟨header, none⟩) := by
      rw [interpret, Frame.decode_spell_zero, show header = _ from Frame.headerAt_spell ..]
      rfl
    rw [Mbap.length_spell, List.length_nil] at whole
    exact ⟨_, decode_append isWhole fits interpreted, fun _ => rfl, fun _ => by omega⟩
  · have interpreted : framer.interpret (ids.spell framer.order 1 [unit]) =
        .ok (.request ⟨header, none⟩) := by
      rw [interpret, Frame.decode_spell_one, show header = _ from Frame.headerAt_spell ..]
      rfl
    rw [Mbap.length_spell, List.length_singleton] at whole
    exact ⟨_, decode_append isWhole fits interpreted, fun _ => rfl, fun _ => by omega⟩
  · obtain ⟨inbound, interpreted, cases⟩ := exists_interpret_spell basic room ids unit function tail
    rw [Mbap.length_spell, List.length_cons, List.length_cons] at whole
    refine ⟨inbound, decode_append isWhole fits interpreted, fun _ => by omega, fun _ => ?_⟩
    refine ⟨function, Mbap.getElem?_spell ids _ _ 1, ?_⟩
    have behind : body = tail := by
      show (ids.spell framer.order length (unit :: function :: tail)).drop (8 + 2) = tail
      rw [← List.drop_drop, Mbap.drop_spell]
      rfl
    rw [show header = _ from Frame.headerAt_spell .., behind]
    exact cases

/-- Two registers are to be written, and a byte of padding follows.  If the byte count is not the double
of the register count, the same frame is malformed. -/
theorem decode_command_of_padded :
    let framer : Framer := ⟨.big, 64, FrameFactory.resolver {}⟩
    let header : Mbap := { transactionId := 7, unit := 1, declared := some 12 }
    let frame (byteCount : UInt8) : Bytes :=
      [0, 7, 0, 0, 0, 0, 0, 12, 1, 0x10, 0, 5, 0, 2, byteCount, 0, 1, 0, 2, 0xFF]
    framer.decode (frame 4 ++ [0, 8]) =
        .ok (some (.request
          ⟨header, some (.carry (.pdu 0x10) (.body (.writeMultiple 5 [1, 2])))⟩, [0, 8])) ∧
      framer.decode (frame 3 ++ [0, 8]) =
        .ok (some (.malformed ⟨header, some (.bare (.pdu 0x10))⟩, [0, 8])) := by
  intro framer header frame
  have decoded (byteCount : UInt8) (inbound : Inbound)
      (expected : Inbound.ofBody header 0x10
        (Body.writeMultiple? .big [0, 5, 0, 2, byteCount, 0, 1, 0, 2, 0xFF]) = inbound) :
      framer.decode (frame byteCount ++ [0, 8]) = .ok (some (inbound, [0, 8])) := by
    have known : Frame.lengthField? framer.order (frame byteCount) = some 12 := rfl
    have fits : (frame byteCount).length ≤ framer.maxFrame := show 20 ≤ 64 by decide
    obtain ⟨found, decoded, -, taken⟩ := decode_command rfl known rfl fits
    obtain ⟨function, stands, -, -, writes, -⟩ := taken (by decide)
    obtain rfl : 0x10 = function := Option.some.inj stands
    rw [decoded, ← expected, writes rfl]
    rfl
  exact ⟨decoded 4 _ rfl, decoded 3 _ rfl⟩

end Framer

end ModbusTcp
