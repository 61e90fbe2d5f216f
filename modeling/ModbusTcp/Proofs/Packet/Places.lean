import ModbusTcp.Proofs.Packet.RoundTrip

/-!
# Where the fields of a packet stand

A decoder takes field after field off the front of its input.  Here the same is told without taking
anything: which bytes a field is, counted from the start, and how many there have to be.

* `ByteOrder.wordAt`, `ByteOrder.wordsAt` — the words at an offset.
* `takeWord_eq`, `takeWords_eq`, `takeTwoWords_eq` — what is taken stands at the start, if there is enough.
* `Body.decode_writeMultiple`, `Body.decode_registerValues` — when a body can be read, and what it is; bodies
  of two words are `takeTwoWords_eq`.
* `Frame.headerAt` — the header of a frame; `Frame.headerAt_spell` finds it in a spelled one.
-/

namespace ModbusTcp

variable {order : ByteOrder} {bytes : Bytes}

/-! ### Words at an offset -/

namespace ByteOrder

/-- The word at an offset of some bytes. -/
def wordAt (order : ByteOrder) (bytes : Bytes) (offset : Nat) : UInt16 :=
  UInt16.ofNat (order.read ((bytes.drop offset).take 2))

/-- So many words, from an offset of some bytes on. -/
def wordsAt (order : ByteOrder) (bytes : Bytes) (offset count : Nat) : List UInt16 :=
  (List.range count).map fun index => order.wordAt bytes (offset + 2 * index)

theorem wordAt_drop (skipped offset : Nat) :
    order.wordAt (bytes.drop skipped) offset = order.wordAt bytes (skipped + offset) := by
  rw [wordAt, wordAt, List.drop_drop]

theorem wordsAt_drop (skipped offset count : Nat) :
    order.wordsAt (bytes.drop skipped) offset count = order.wordsAt bytes (skipped + offset) count := by
  rw [wordsAt, wordsAt]
  apply List.map_congr_left
  intro index _
  rw [wordAt_drop, Nat.add_assoc]

/-- The first word, and those behind it. -/
theorem wordsAt_succ (offset count : Nat) :
    order.wordsAt bytes offset (count + 1) =
      order.wordAt bytes offset :: order.wordsAt bytes (offset + 2) count := by
  rw [wordsAt, List.range_succ_eq_map, List.map_cons, List.map_map, wordsAt]
  congr 1
  apply List.map_congr_left
  intro index _
  rw [Function.comp_apply]
  congr 1
  omega

/-- A word stands behind the bytes that have been written in front of it. -/
theorem wordAt_append (front : Bytes) {offset : Nat} (width : front.length = offset) (word : UInt16)
    (rest : Bytes) : order.wordAt (front ++ (order.word word ++ rest)) offset = word := by
  have bound := word.toNat_lt
  rw [wordAt, List.drop_left' width, List.take_left' (order.length_word word), ByteOrder.word,
    order.read_write, Nat.mod_eq_of_lt (by omega), UInt16.ofNat_toNat]

end ByteOrder

/-! ### What is taken -/

theorem takeByte_eq (bytes : Bytes) :
    takeByte bytes = match bytes[0]? with
      | some byte => .ok (byte, bytes.drop 1)
      | none => .error .endOfInput := by
  cases bytes <;> rfl

theorem takeWord_eq (order : ByteOrder) (bytes : Bytes) :
    takeWord order bytes =
      if 2 ≤ bytes.length then .ok (order.wordAt bytes 0, bytes.drop 2) else .error .endOfInput := by
  match bytes with
  | [] | [_] => rfl
  | first :: second :: rest => rw [if_pos (by simp)]; rfl

theorem takeWords_eq (order : ByteOrder) (count : Nat) (bytes : Bytes) :
    takeWords order count bytes =
      if 2 * count ≤ bytes.length then .ok (order.wordsAt bytes 0 count, bytes.drop (2 * count))
      else .error .endOfInput := by
  induction count generalizing bytes with
  | zero => rw [if_pos (Nat.zero_le _)]; rfl
  | succ count ih =>
    rw [takeWords, takeWord_eq]
    by_cases first : 2 ≤ bytes.length
    · rw [if_pos first]
      show (takeWords order count (bytes.drop 2) >>= _) = _
      rw [ih, List.length_drop]
      by_cases enough : 2 * (count + 1) ≤ bytes.length
      · rw [if_pos (by omega), if_pos enough, ByteOrder.wordsAt_succ, ByteOrder.wordsAt_drop,
          List.drop_drop, Nat.mul_succ, Nat.add_comm (2 * count) 2]
        rfl
      · rw [if_neg (by omega), if_neg enough]
        rfl
    · rw [if_neg first, if_neg (by omega)]
      rfl

/-- Two words in a row. -/
theorem takeTwoWords_eq {α : Type} (make : UInt16 → UInt16 → α) (order : ByteOrder) (bytes : Bytes) :
    (do
      let (first, input) ← takeWord order bytes
      let (second, input) ← takeWord order input
      return (make first second, input) : Except DecodeError (α × Bytes)) =
      if 4 ≤ bytes.length then
        .ok (make (order.wordAt bytes 0) (order.wordAt bytes 2), bytes.drop 4)
      else .error .endOfInput := by
  rw [takeWord_eq]
  by_cases first : 2 ≤ bytes.length
  · rw [if_pos first]
    show (takeWord order (bytes.drop 2) >>= _) = _
    rw [takeWord_eq, List.length_drop, ByteOrder.wordAt_drop, List.drop_drop]
    by_cases second : 4 ≤ bytes.length
    · rw [if_pos (by omega), if_pos second]
      rfl
    · rw [if_neg (by omega), if_neg second]
      rfl
  · rw [if_neg first, if_neg (by omega)]
    rfl

/-! ### Bodies -/

namespace Body

/-- Words to be written are counted twice, in registers and in bytes; the counts have to agree, and the
words have to be there. -/
theorem decode_writeMultiple (start : UInt16) (values : List UInt16) (order : ByteOrder) (bytes : Bytes) :
    (writeMultiple start values).decode order bytes =
      match bytes[4]? with
      | none => .error .endOfInput
      | some byteCount =>
        let count := order.wordAt bytes 2
        if byteCount.toNat = 2 * count.toNat then
          if 5 + byteCount.toNat ≤ bytes.length then
            .ok (.writeMultiple (order.wordAt bytes 0) (order.wordsAt bytes 5 count.toNat),
              bytes.drop (5 + byteCount.toNat))
          else .error .endOfInput
        else .error (.byteCountMismatch byteCount count) := by
  rw [decode, takeWord_eq]
  by_cases first : 2 ≤ bytes.length
  · rw [if_pos first]
    show (takeWord order (bytes.drop 2) >>= _) = _
    rw [takeWord_eq, List.length_drop, ByteOrder.wordAt_drop, Nat.add_zero, List.drop_drop]
    by_cases second : 4 ≤ bytes.length
    · rw [if_pos (by omega)]
      show (takeByte (bytes.drop 4) >>= _) = _
      rw [takeByte_eq, List.getElem?_drop, List.drop_drop]
      cases counted : bytes[4]? with
      | none => rfl
      | some byteCount =>
        show (if byteCount.toNat = 2 * (order.wordAt bytes 2).toNat then _ else _) = _
        dsimp only
        by_cases twice : byteCount.toNat = 2 * (order.wordAt bytes 2).toNat
        · have there : 4 < bytes.length := (List.getElem?_eq_some_iff.mp counted).1
          rw [if_pos twice, if_pos twice, takeWords_eq, List.length_drop, twice]
          by_cases enough : 5 + 2 * (order.wordAt bytes 2).toNat ≤ bytes.length
          · rw [if_pos (by omega), if_pos enough, ByteOrder.wordsAt_drop, List.drop_drop]
            rfl
          · rw [if_neg (by omega), if_neg enough]
            rfl
        · rw [if_neg twice, if_neg twice]
    · rw [if_neg (by omega), List.getElem?_eq_none (by omega)]
      rfl
  · rw [if_neg first, List.getElem?_eq_none (by omega)]
    rfl

/-- Register values are as many bytes as the first one says. -/
theorem decode_registerValues (values : Bytes) (order : ByteOrder) (bytes : Bytes) :
    (registerValues values).decode order bytes =
      match bytes[0]? with
      | none => .error .endOfInput
      | some count =>
        if 1 + count.toNat ≤ bytes.length then
          .ok (.registerValues ((bytes.drop 1).take count.toNat), bytes.drop (1 + count.toNat))
        else .error .endOfInput := by
  match bytes with
  | [] => rfl
  | count :: rest =>
    show (takeBytes count.toNat rest >>= _) = if 1 + count.toNat ≤ rest.length + 1 then _ else _
    rw [takeBytes]
    by_cases enough : count.toNat ≤ rest.length
    · rw [if_pos enough, if_pos (by omega), Nat.add_comm 1, List.drop_succ_cons]
      rfl
    · rw [if_neg enough, if_neg (by omega)]
      rfl

end Body

/-! ### Headers -/

namespace Frame

/-- The header that stands at the start of a frame, whose unit id is zero if it is not there. -/
def headerAt (order : ByteOrder) (bytes : Bytes) : Mbap where
  transactionId := order.wordAt bytes 0
  protocolId := order.wordAt bytes 2
  protocolType := order.wordAt bytes 4
  unit := bytes[8]?.getD 0
  declared := some (order.wordAt bytes 6)

/-- The header of a spelled frame has its ids, its length and the first byte of its tail. -/
theorem headerAt_spell (order : ByteOrder) (ids : Mbap) (length : UInt16) (tail : Bytes) :
    headerAt order (ids.spell order length tail) = headerOf ids (tail[0]?.getD 0) length := by
  have unit : (ids.spell order length tail)[8]? = tail[0]? := Mbap.getElem?_spell ids length tail 0
  rw [headerAt, unit, headerOf]
  congr 1
  · rw [Mbap.spell, Mbap.encodeIds, List.append_assoc, List.append_assoc]
    exact ByteOrder.wordAt_append [] rfl _ _
  · rw [Mbap.spell, Mbap.encodeIds, List.append_assoc, List.append_assoc]
    exact ByteOrder.wordAt_append _ (order.length_word _) _ _
  · rw [Mbap.spell, Mbap.encodeIds, List.append_assoc]
    exact ByteOrder.wordAt_append _ (by simp) _ _
  · rw [Mbap.spell]
    exact congrArg some (ByteOrder.wordAt_append _ (ids.length_encodeIds order) _ _)

end Frame

end ModbusTcp
