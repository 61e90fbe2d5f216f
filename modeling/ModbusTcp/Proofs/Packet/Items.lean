import ModbusTcp.Packet.Items
import ModbusTcp.Proofs.Bytes.Stream
import ModbusTcp.Proofs.Packet.RoundTrip

/-!
# Packets are as long as they are measured

The measure of a packet is computed from its layers, and so are the length fields of its headers, before a byte
of it is written.  What is written then agrees with both: the space that has been measured is filled to its
end, and each length field counts the bytes that follow it.

* `Packet.flatMap_items` — the items of a packet spell its bytes.
* `FixedBuffer.putItems_eq`, `Packet.writeTo_eq` — items and packets in a space of a fixed size.
* `Packet.layers`, `Packet.isSuffix_of_mem_layers` — the layers of a chain, each with all that it carries.
* `Packet.Fits`, `Frame.exists_encode_eq_of_fits` — when the length field of a header is right.
* **`Packet.encode_fills`** — all of it, for every chain of layers.
-/

namespace ModbusTcp

variable {order : ByteOrder}

/-! ### Items -/

@[simp] theorem Item.encode_word (order : ByteOrder) (value : UInt16) :
    (Item.word value).encode order = order.word value := by
  have bound := value.toNat_lt
  show order.write 2 (BitVec.ofNat 16 value.toNat).toNat = order.write 2 value.toNat
  rw [BitVec.toNat_ofNat, Nat.mod_eq_of_lt bound]

@[simp] theorem Item.encode_byte (order : ByteOrder) (value : UInt8) :
    (Item.byte value).encode order = [value] := by
  have bound := value.toNat_lt
  have spelled : order.write 1 value.toNat = [value] := by
    cases order with
    | big => simp [ByteOrder.write, ByteOrder.ascending]
    | little => simp [ByteOrder.write, ByteOrder.ascending]
  show order.write 1 (BitVec.ofNat 8 value.toNat).toNat = _
  rw [BitVec.toNat_ofNat, Nat.mod_eq_of_lt bound, spelled]

theorem Body.flatMap_items (order : ByteOrder) (content : Body) :
    content.items.flatMap (Item.encode order) = content.encode order := by
  cases content with
  | writeMultiple start values => simp [items, encode, List.flatMap_map]
  | registerValues bytes =>
    rw [items, List.flatMap_cons, Item.encode_byte, List.flatMap_singleton]
    rfl
  | _ => simp [items, encode]

/-- The items of a packet spell its bytes. -/
theorem Packet.flatMap_items (order : ByteOrder) (packet : Packet) :
    packet.items.flatMap (Item.encode order) = packet.encode order := by
  induction packet with
  | bare envelope =>
    cases envelope with
    | mbap header =>
      by_cases cut : header.isCut
      · simp [items, ownItems, Frame.headerItems, Frame.dataLength, encode, Mbap.encodeAlone,
          Mbap.encodeIds, cut]
      · simp [items, ownItems, Frame.headerItems, Frame.dataLength, encode, Mbap.encodeAlone,
          Mbap.encodeAbove, Mbap.encodeIds, cut]
    | pdu function => simp [items, ownItems, encode]
  | carry envelope payload ih =>
    rw [items, List.flatMap_append, ih]
    cases envelope with
    | mbap header =>
      simp [ownItems, Frame.headerItems, Frame.dataLength, encode, Mbap.encodeAbove, Mbap.encodeIds]
    | pdu function => simp [ownItems, encode]
  | body content => exact content.flatMap_items order

/-! ### Buffers -/

theorem Packet.appendTo_eq (order : ByteOrder) (packet : Packet) (buffer : Bytes) :
    packet.appendTo order buffer = buffer ++ packet.encode order := by
  rw [← flatMap_items]
  exact Item.appendAll_eq order buffer packet.items

namespace FixedBuffer

/-- Bytes are put in one piece as they are in two. -/
theorem put_append (buffer : FixedBuffer) (front back : Bytes) :
    buffer.put (front ++ back) = buffer.put front >>= fun buffer => buffer.put back := by
  by_cases fits : front.length ≤ buffer.remaining
  · -- What the front leaves free is what the back has to fit into.
    have left : (buffer.free.drop front.length).length = buffer.remaining - front.length := List.length_drop
    rw [put, put, if_pos fits, List.length_append]
    show _ = put { written := buffer.written ++ front, free := buffer.free.drop front.length } back
    rw [put]
    by_cases fits' : front.length + back.length ≤ buffer.remaining
    · have rest : back.length ≤ (buffer.free.drop front.length).length := by omega
      rw [if_pos fits', remaining, if_pos rest, List.append_assoc, List.drop_drop]
    · have rest : ¬back.length ≤ (buffer.free.drop front.length).length := by omega
      rw [if_neg fits', remaining, if_neg rest]
  · have both : ¬front.length + back.length ≤ buffer.remaining := by omega
    rw [put, put, if_neg fits, List.length_append, if_neg both]
    rfl

/-- Items fit exactly if all their bytes do. -/
theorem putItems_eq (order : ByteOrder) (buffer : FixedBuffer) (items : List Item) :
    buffer.putItems order items = buffer.put (items.flatMap (Item.encode order)) := by
  induction items generalizing buffer with
  | nil => simp [putItems, put]
  | cons item items ih =>
    rw [List.flatMap_cons, put_append, ← funext ih]
    rfl

end FixedBuffer

/-- A packet fits exactly if there is as much room as it measures. -/
theorem Packet.writeTo_eq (order : ByteOrder) (packet : Packet) (buffer : FixedBuffer) :
    packet.writeTo order buffer =
      if packet.measure ≤ buffer.remaining then
        some { written := buffer.written ++ packet.encode order, free := buffer.free.drop packet.measure }
      else none := by
  rw [writeTo, FixedBuffer.putItems_eq, flatMap_items, FixedBuffer.put, length_encode]

/-! ### Layers -/

namespace Packet

/-- The layers of a chain from the outermost on, each with all that it carries. -/
def layers : Packet → List Packet
  | .bare envelope => [.bare envelope]
  | .carry envelope payload => .carry envelope payload :: payload.layers
  | .body content => [.body content]

/-- What a layer and all below it write stands at the end of what the chain writes. -/
theorem isSuffix_of_mem_layers (order : ByteOrder) {packet inner : Packet} (there : inner ∈ packet.layers) :
    inner.encode order <:+ packet.encode order := by
  induction packet with
  | bare envelope =>
    obtain rfl := List.mem_singleton.mp there
    exact List.suffix_refl _
  | carry envelope payload ih =>
    rcases List.mem_cons.mp there with rfl | below
    · exact List.suffix_refl _
    · refine (ih below).trans ?_
      cases envelope with
      | mbap header => exact List.suffix_append _ _
      | pdu function => exact List.suffix_cons _ _
  | body content =>
    obtain rfl := List.mem_singleton.mp there
    exact List.suffix_refl _

/-- All counts and lengths fit their fields: those of the bodies, and the data length of each header. -/
def Fits : Packet → Prop
  | .bare _ => True
  | .carry (.mbap _) payload => 1 + payload.measure ≤ 65535 ∧ payload.Fits
  | .carry (.pdu _) payload => payload.Fits
  | .body content => content.Fits

theorem Fits.of_mem_layers {packet inner : Packet} (fits : packet.Fits) (there : inner ∈ packet.layers) :
    inner.Fits := by
  induction packet with
  | bare envelope =>
    obtain rfl := List.mem_singleton.mp there
    exact fits
  | carry envelope payload ih =>
    rcases List.mem_cons.mp there with rfl | below
    · exact fits
    · cases envelope with
      | mbap header => exact ih fits.2 below
      | pdu function => exact ih fits below
  | body content =>
    obtain rfl := List.mem_singleton.mp there
    exact fits

end Packet

/-- The length field of a frame that fits counts the bytes that follow it. -/
theorem Frame.exists_encode_eq_of_fits (order : ByteOrder) {frame : Frame} (fits : frame.toPacket.Fits) :
    ∃ rest, frame.encode order = frame.header.spell order frame.dataLength rest ∧
      frame.dataLength.toNat = rest.length := by
  obtain ⟨header, payload⟩ := frame
  cases payload with
  | none =>
    by_cases cut : header.isCut
    · refine ⟨[], ?_, ?_⟩
      · show header.encodeAlone order = _
        rw [Mbap.encodeAlone, if_pos cut, dataLength, if_pos cut, Mbap.spell, List.append_nil]
      · rw [dataLength, if_pos cut]
        rfl
    · refine ⟨[header.unit], ?_, ?_⟩
      · show header.encodeAlone order = _
        rw [Mbap.encodeAlone, if_neg cut, dataLength, if_neg cut, Mbap.encodeAbove, List.append_assoc]
        rfl
      · rw [dataLength, if_neg cut]
        rfl
  | some payload =>
    have small : 1 + payload.measure ≤ 65535 := fits.1
    refine ⟨header.unit :: payload.encode order, encode_eq_spell order header payload, ?_⟩
    show (UInt16.ofNat (1 + payload.measure)).toNat = _
    rw [UInt16.toNat_ofNat', List.length_cons, Packet.length_encode]
    omega

/-- **What is written of a packet is as long as has been measured**, in either byte order and for every chain of
layers whose counts and lengths fit their fields.  It is put behind what a growing buffer holds; a space of that
size is filled to its end, and in less room it does not fit.  Each header in the chain has a length field that
counts the bytes that follow it, to the end. -/
theorem Packet.encode_fills (order : ByteOrder) {packet : Packet} (fits : packet.Fits) (before space : Bytes) :
    packet.appendTo order before = before ++ packet.encode order ∧
      (packet.encode order).length = packet.measure ∧
      (space.length = packet.measure →
        packet.writeTo order { written := before, free := space } =
          some { written := before ++ packet.encode order, free := [] }) ∧
      (space.length < packet.measure → packet.writeTo order { written := before, free := space } = none) ∧
      ∀ frame : Frame, frame.toPacket ∈ packet.layers →
        ∃ above rest, packet.encode order = above ++ frame.header.spell order frame.dataLength rest ∧
          frame.dataLength.toNat = rest.length := by
  refine ⟨packet.appendTo_eq order before, packet.length_encode order, ?_, ?_, ?_⟩
  · intro enough
    have room : packet.measure ≤ space.length := by omega
    rw [writeTo_eq]
    show (if packet.measure ≤ space.length then _ else none) = _
    rw [if_pos room, ← enough, List.drop_length]
  · intro tooSmall
    have tight : ¬packet.measure ≤ space.length := by omega
    rw [writeTo_eq]
    exact if_neg tight
  · intro frame there
    obtain ⟨above, split⟩ := isSuffix_of_mem_layers order there
    obtain ⟨rest, spelled, counted⟩ := Frame.exists_encode_eq_of_fits order (fits.of_mem_layers there)
    refine ⟨above, rest, ?_, counted⟩
    rw [← spelled]
    exact split.symm

/-- A frame whose PDU carries a header that was cut behind its length field, in a buffer behind two bytes. -/
theorem Packet.encode_fills_of_cut_inside :
    ∃ packet : Packet, packet.Fits ∧ packet.measure = 18 ∧
      packet.writeTo .little { written := [1, 2], free := List.replicate 18 0xFF } =
        some { written := [1, 2, 7, 0, 0, 0, 0, 0, 10, 0, 5, 0x41, 9, 0, 0, 0, 0, 0, 0, 0], free := [] } ∧
      packet.writeTo .little { written := [1, 2], free := List.replicate 17 0xFF } = none := by
  have fits : (Packet.carry (.mbap { transactionId := 7, unit := 5 })
      (.carry (.pdu 0x41) (.bare (.mbap { transactionId := 9, declared := some 0 })))).Fits :=
    ⟨by decide, trivial⟩
  have filled := encode_fills .little fits [1, 2]
  exact ⟨_, fits, rfl, (filled (List.replicate 18 0xFF)).2.2.1 (by decide),
    (filled (List.replicate 17 0xFF)).2.2.2.1 (by decide)⟩

end ModbusTcp
