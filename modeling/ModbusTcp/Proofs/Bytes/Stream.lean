import ModbusTcp.Bytes.Cursor

/-!
# Streams of items

Numbers of all types and runs of raw bytes are written one behind the other, and nothing between them says where one
ends and the next begins.  A reader that knows their shapes finds them again.  In the other byte order the buffer is
the same, except that the bytes of each number stand in it the other way round.

* `Item.appendAll`, `Cursor.readAll` — items at the end of a buffer that grows, and items from a position on.
* `Cursor.read_encode`, `Cursor.readAll_encode` — an item, and a list of them, read where they have been written.
* `Item.Shape.turned`, `Item.turnedAll` — what the other byte order makes of the bytes of an item, and of a buffer.
* `Item.encode_other` — so it does.
* **`Item.readAll_appendAll`** — a stream of items is read back, and what the byte order does to it.
-/

namespace ModbusTcp

/-! ### Writing and reading in a row -/

/-- A buffer that grows, after items have been written to it. -/
def Item.appendAll (order : ByteOrder) (buffer : Bytes) (items : List Item) : Bytes :=
  items.foldl (fun buffer item => buffer ++ item.encode order) buffer

theorem Item.appendAll_eq (order : ByteOrder) (buffer : Bytes) (items : List Item) :
    appendAll order buffer items = buffer ++ items.flatMap (Item.encode order) := by
  induction items generalizing buffer with
  | nil => exact (List.append_nil buffer).symm
  | cons item items ih =>
    show appendAll order (buffer ++ item.encode order) items = _
    rw [ih, List.flatMap_cons, List.append_assoc]

namespace Cursor

variable {order : ByteOrder} {cursor : Cursor} {rest : Bytes}

/-- Reads items of the given shapes one after the other, up to the first that fails. -/
def readAll (order : ByteOrder) (cursor : Cursor) : List Item.Shape → Except DecodeError (List Item) × Cursor
  | [] => (.ok [], cursor)
  | shape :: shapes =>
    match cursor.read order shape with
    | (.error error, cursor) => (.error error, cursor)
    | (.ok item, cursor) =>
      let (items, cursor) := cursor.readAll order shapes
      (items.map (item :: ·), cursor)

/-- An item is read where it has been written, and the cursor stands behind it then. -/
theorem read_encode {item : Item} (ahead : cursor.data.drop cursor.position = item.encode order ++ rest) :
    cursor.read order item.shape =
      (.ok item, { cursor with position := cursor.position + (item.encode order).length }) := by
  rw [read, ahead, Item.take_encode, Item.length_encode]

/-- Items are read where they have been written one behind the other. -/
theorem readAll_encode {items : List Item}
    (ahead : cursor.data.drop cursor.position = items.flatMap (Item.encode order) ++ rest) :
    cursor.readAll order (items.map Item.shape) =
      (.ok items, { cursor with position := cursor.position + (items.flatMap (Item.encode order)).length }) := by
  induction items generalizing cursor with
  | nil => rfl
  | cons item items ih =>
    rw [List.flatMap_cons, List.append_assoc] at ahead
    -- What is ahead of the cursor behind the first item.
    have behind : cursor.data.drop (cursor.position + (item.encode order).length) =
        items.flatMap (Item.encode order) ++ rest := by
      rw [← List.drop_drop, ahead, List.drop_left]
    rw [List.map_cons, readAll, read_encode ahead]
    dsimp only
    rw [ih behind, List.flatMap_cons, List.length_append, ← Nat.add_assoc]
    rfl

end Cursor

/-! ### The other byte order -/

/-- A single byte is the same from both ends. -/
theorem reverse_of_length_le_one {bytes : Bytes} (single : bytes.length ≤ 1) : bytes.reverse = bytes := by
  match bytes, single with
  | [], _ => rfl
  | [_], _ => rfl

/-- The spelling of a number in one byte order is that in the other one, reversed. -/
theorem ByteOrder.write_other {order other : ByteOrder} (differ : other ≠ order) (width value : Nat) :
    other.write width value = (order.write width value).reverse := by
  cases order <;> cases other
  · exact absurd rfl differ
  · exact (List.reverse_reverse _).symm
  · rfl
  · exact absurd rfl differ

namespace Item

/-- The bytes of an item in the other byte order: those of a number are reversed, if there are several; a single byte
and raw bytes stay. -/
def Shape.turned : Shape → Bytes → Bytes
  | .number type, bytes => if 1 < type.size then bytes.reverse else bytes
  | .raw _, bytes => bytes

/-- A buffer of items in the other byte order: each item stays in its place. -/
def turnedAll : List Shape → Bytes → Bytes
  | [], bytes => bytes
  | shape :: shapes, bytes => shape.turned (bytes.take shape.size) ++ turnedAll shapes (bytes.drop shape.size)

theorem encode_other {order other : ByteOrder} (differ : other ≠ order) (item : Item) :
    item.encode other = item.shape.turned (item.encode order) := by
  cases item with
  | raw bytes => rfl
  | number type value =>
    show other.write type.size value.toNat =
      if 1 < type.size then (order.write type.size value.toNat).reverse else order.write type.size value.toNat
    rw [ByteOrder.write_other differ]
    by_cases several : 1 < type.size
    · rw [if_pos several]
    · have single : (order.write type.size value.toNat).length ≤ 1 := by
        rw [ByteOrder.length_write]
        omega
      rw [if_neg several, reverse_of_length_le_one single]

theorem flatMap_encode_other {order other : ByteOrder} (differ : other ≠ order) (items : List Item) :
    items.flatMap (encode other) = turnedAll (items.map shape) (items.flatMap (encode order)) := by
  induction items with
  | nil => rfl
  | cons item items ih =>
    have width : (item.encode order).length = item.shape.size := item.length_encode order
    rw [List.flatMap_cons, List.flatMap_cons, List.map_cons, turnedAll, List.take_left' width,
      List.drop_left' width, encode_other differ, ih]

theorem length_flatMap_encode (order other : ByteOrder) (items : List Item) :
    (items.flatMap (encode other)).length = (items.flatMap (encode order)).length := by
  rw [List.length_flatMap, List.length_flatMap]
  simp only [length_encode]

/-- **A stream of items is read back, and swapping reverses each number in its place.**  Take any items, which are
numbers of the ten types by their bits, bytes and words among them, and runs of raw bytes, and write them to an empty
buffer.  Reading their shapes in the same byte order gives the same items, and the reader stands at the end of the data
then.  In the other byte order the buffer is as long, and it is the same, except that the bytes of each number with
several bytes are reversed. -/
theorem readAll_appendAll (order : ByteOrder) (items : List Item) :
    let written (order : ByteOrder) : Bytes := appendAll order [] items
    Cursor.readAll order { data := written order } (items.map shape) =
        (.ok items, { data := written order, position := (written order).length }) ∧
      ∀ other : ByteOrder, (written other).length = (written order).length ∧
        written other = if other = order then written order else turnedAll (items.map shape) (written order) := by
  intro written
  have spelled (order : ByteOrder) : written order = items.flatMap (encode order) := appendAll_eq order [] items
  refine ⟨?_, fun other => ⟨?_, ?_⟩⟩
  · have ahead : (written order).drop 0 = items.flatMap (encode order) ++ [] := by
      rw [List.drop_zero, List.append_nil, spelled]
    rw [Cursor.readAll_encode ahead, Nat.zero_add, ← spelled]
  · rw [spelled, spelled, length_flatMap_encode order other]
  · split
    · next same => rw [same]
    · next differ => rw [spelled, spelled, flatMap_encode_other differ]

/-- A float that is not a number, raw bytes and a word, behind a single byte. -/
example :
    let items : List Item :=
      [.byte 0xAB, .number .f32 (.ofNat .f32 0x7FA00001), .raw [1, 2, 3], .word 0x1234]
    appendAll .big [] items = [0xAB, 0x7F, 0xA0, 0, 1, 1, 2, 3, 0x12, 0x34] ∧
      appendAll .little [] items = [0xAB, 1, 0, 0xA0, 0x7F, 1, 2, 3, 0x34, 0x12] := by
  decide

end Item

end ModbusTcp
