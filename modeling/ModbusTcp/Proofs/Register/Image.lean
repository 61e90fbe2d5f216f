import ModbusTcp.Proofs.Register.InPlace

/-!
# The image of definitions in a buffer

The buffer that definitions are encoded to is known byte by byte: the value of each definition stands at its
place, and there are zeros wherever no value stands.  So it depends on nothing but the places and the bytes of
the values, and not on the order in which they have been written.

* `Register.Spells` — the bytes of a register, told without the encoder.
* `Layout.Image`, `Layout.Image.unique` — what a buffer holds, which is all that there is in it.
* `Layout.exists_encode_image` — the buffer of an accepted layout is its image.
* `Layout.encode_eq_of_prints` — definitions that print the same bytes at the same places.
* **`Layout.encodeInPlace_image`** — what encoding gives, and that nothing is written elsewhere.
-/

namespace ModbusTcp

/-! ### The bytes of a register -/

/-- The bytes of a text of a fixed length: those of its UTF-8 form as far as there is room, with a question
mark for each one that is not ASCII, and zeros behind them. -/
structure FixedText.Spells (length : Nat) (text : String) (bytes : Bytes) : Prop where
  length_eq : bytes.length = length
  sign : ∀ index byte, index < length → (utf8 text)[index]? = some byte →
    bytes[index]? = some (if byte < 0x80 then byte else 0x3F)
  filling : ∀ index, index < length → (utf8 text).length ≤ index → bytes[index]? = some 0

/-- The bytes of a register: a number is what they spell in the byte order, a text is spelled byte by byte,
and without a value there are zeros. -/
inductive Register.Spells (order : ByteOrder) (bytes : Bytes) : Register → Prop
  | number {type : NumericType} {number : Number type} (length : bytes.length = type.size)
      (value : order.read bytes = number.toNat) : Spells order bytes (.numeric type (some number))
  | noNumber {type : NumericType} (zeros : bytes = List.replicate type.size 0) :
      Spells order bytes (.numeric type none)
  | text {length : Nat} {text : String} (spells : FixedText.Spells length text bytes) :
      Spells order bytes (.text length (some text))
  | noText {length : Nat} (zeros : bytes = List.replicate length 0) : Spells order bytes (.text length none)

theorem FixedText.spells_encode (length : Nat) (text : String) : Spells length text (encode length text) where
  length_eq := length_encode length text
  sign := by
    intro index byte inside there
    have bound := (List.getElem?_eq_some_iff.mp there).1
    rw [encode, List.getElem?_append_left (by simp only [List.length_map, List.length_take]; omega),
      List.getElem?_map, List.getElem?_take_of_lt inside, there]
    rfl
  filling := by
    intro index inside behind
    have short : (((utf8 text).take length).map asciiByte).length = (utf8 text).length := by
      rw [List.length_map, List.length_take]
      omega
    rw [encode, List.getElem?_append_right (by omega), List.getElem?_replicate, if_pos (by omega)]

theorem FixedText.encode_empty (length : Nat) : encode length "" = List.replicate length 0 := by
  simp [encode, utf8]

theorem Number.read_encode {type : NumericType} (order : ByteOrder) (number : Number type) :
    order.read (number.encode order) = number.toNat := by
  have bound := number.isLt
  rw [Nat.pow_mul] at bound
  rw [encode, order.read_write, Nat.mod_eq_of_lt bound]

/-- The bytes that a register is encoded to are its own. -/
theorem Register.spells_encode (order : ByteOrder) (register : Register) :
    register.Spells order (register.encode order) := by
  cases register with
  | numeric type value =>
    cases value with
    | none => exact .noNumber rfl
    | some number => exact .number (number.length_encode order) (number.read_encode order)
  | text length value =>
    cases value with
    | none => exact .noText (FixedText.encode_empty length)
    | some text => exact .text (FixedText.spells_encode length text)

/-! ### The bytes of a buffer -/

namespace Layout

variable {order : ByteOrder} {definitions left right : List Definition} {buffer : Bytes}

/-- A buffer that holds each value at its place, and zeros wherever no value stands. -/
structure Image (order : ByteOrder) (definitions : List Definition) (buffer : Bytes) : Prop where
  length : buffer.length = 2 * (span definitions).2
  value : ∀ definition ∈ definitions,
    (buffer.drop (offset (span definitions).1 definition)).take definition.register.width =
      definition.register.encode order
  zero : ∀ position, position < buffer.length →
    (∀ definition ∈ definitions, position < offset (span definitions).1 definition ∨
      offset (span definitions).1 definition + definition.register.width ≤ position) →
    buffer[position]? = some 0

/-- The buffer of an accepted layout is its image. -/
theorem exists_encode_image (order : ByteOrder) (valid : validate definitions = .ok ()) :
    ∃ buffer, encode order definitions = .ok ((span definitions).1, buffer) ∧
      Image order definitions buffer := by
  have each (definition : Definition) (there : definition ∈ sorted definitions) :=
    fits_within_of_mem_sorted valid there
  obtain ⟨fits, apart⟩ := validate_eq_ok_iff.mp valid
  let zeros : Bytes := List.replicate (2 * (span definitions).2) 0
  have covers : zeros.length = 2 * (span definitions).2 := List.length_replicate
  have length : (fill order (span definitions).1 zeros (sorted definitions)).length =
      2 * (span definitions).2 := length_fill covers each
  refine ⟨_, encode_eq_fill order valid, length, ?_, ?_⟩
  · intro definition there
    have own : slice (span definitions).1 (fill order (span definitions).1 zeros (sorted definitions))
        definition = definition.register.encode order ++ _ :=
      slice_fill covers each apart (mem_sorted.mpr there)
    have front := congrArg (List.take definition.register.width) own
    rwa [slice, List.take_take, Nat.min_eq_left (fits definition there).width,
      List.take_left' (Register.length_encode order _)] at front
  · intro position inside outside
    rw [getElem?_fill_of_outside covers each fun definition there => outside definition (mem_sorted.mp there),
      List.getElem?_replicate, if_pos (length ▸ inside)]

/-- A byte of a value is the same in every image. -/
theorem Image.getElem?_of_inside (image : Image order definitions buffer) {definition : Definition}
    (there : definition ∈ definitions) {index : Nat} (inside : index < definition.register.width) :
    buffer[offset (span definitions).1 definition + index]? = (definition.register.encode order)[index]? := by
  rw [← image.value definition there, List.getElem?_take_of_lt inside, List.getElem?_drop]

/-- A position in a buffer is one of a value, or outside all of them. -/
theorem inside_or_outside (base : UInt16) (definitions : List Definition) (position : Nat) :
    (∃ definition ∈ definitions, ∃ index < definition.register.width,
        position = offset base definition + index) ∨
      ∀ definition ∈ definitions, position < offset base definition ∨
        offset base definition + definition.register.width ≤ position := by
  by_cases covered : ∃ definition ∈ definitions, offset base definition ≤ position ∧
    position < offset base definition + definition.register.width
  · obtain ⟨definition, there, start, stop⟩ := covered
    obtain ⟨index, rfl⟩ := Nat.exists_eq_add_of_le start
    exact .inl ⟨definition, there, index, Nat.lt_of_add_lt_add_left stop, rfl⟩
  · refine .inr fun definition there => ?_
    by_cases before : position < offset base definition
    · exact .inl before
    · exact .inr (Nat.le_of_not_lt fun stop =>
        covered ⟨definition, there, Nat.le_of_not_lt before, stop⟩)

/-- There is one image at most. -/
theorem Image.unique {buffer' : Bytes} (image : Image order definitions buffer)
    (image' : Image order definitions buffer') : buffer = buffer' := by
  have length : buffer.length = buffer'.length := image.length.trans image'.length.symm
  apply List.ext_getElem?
  intro position
  rcases inside_or_outside (span definitions).1 definitions position with
    ⟨definition, there, index, inside, rfl⟩ | outside
  · rw [image.getElem?_of_inside there inside, image'.getElem?_of_inside there inside]
  · by_cases inside : position < buffer.length
    · rw [image.zero position inside outside, image'.zero position (length ▸ inside) outside]
    · have behind := Nat.le_of_not_lt inside
      rw [List.getElem?_eq_none behind, List.getElem?_eq_none (length ▸ behind)]

/-- What a definition adds to an image: the bytes of its value, and where they go. -/
def print (order : ByteOrder) (definition : Definition) : UInt16 × Bytes :=
  (definition.address, definition.register.encode order)

theorem offset_eq_of_print {left right : Definition} (same : print order left = print order right)
    (base : UInt16) : offset base left = offset base right := by
  have address : left.address = right.address := congrArg Prod.fst same
  rw [offset, offset, address]

theorem width_eq_of_print {left right : Definition} (same : print order left = print order right) :
    left.register.width = right.register.width := by
  have bytes := congrArg (fun print => print.2.length) same
  simpa only [print, Register.length_encode] using bytes

/-- An image depends on the span and on what the definitions print. -/
theorem Image.of_prints (sameSpan : span left = span right)
    (prints : ∀ mark, mark ∈ left.map (print order) ↔ mark ∈ right.map (print order))
    (image : Image order left buffer) : Image order right buffer where
  length := sameSpan ▸ image.length
  value := by
    intro definition there
    obtain ⟨other, there', same⟩ := List.mem_map.mp ((prints _).mpr (List.mem_map_of_mem there))
    rw [← sameSpan, ← offset_eq_of_print same, ← width_eq_of_print same, image.value other there']
    exact congrArg Prod.snd same
  zero := by
    intro position inside outside
    refine image.zero position inside fun definition there => ?_
    obtain ⟨other, there', same⟩ := List.mem_map.mp ((prints _).mp (List.mem_map_of_mem there))
    rw [sameSpan, ← offset_eq_of_print same, ← width_eq_of_print same]
    exact outside other there'

/-- Accepted layouts with one span that print the same bytes at the same places have the same buffer. -/
theorem encode_eq_of_prints (valid : validate left = .ok ()) (valid' : validate right = .ok ())
    (sameSpan : span left = span right)
    (prints : ∀ mark, mark ∈ left.map (print order) ↔ mark ∈ right.map (print order)) :
    encode order left = encode order right := by
  obtain ⟨buffer, encoded, image⟩ := exists_encode_image order valid
  obtain ⟨buffer', encoded', image'⟩ := exists_encode_image order valid'
  rw [encoded, encoded', sameSpan, (image.of_prints sameSpan prints).unique image']

/-! ### What encoding gives -/

/-- The span starts at the address of one of the definitions. -/
theorem exists_address_eq_start (nonempty : definitions ≠ []) :
    ∃ definition ∈ definitions, definition.address = (span definitions).1 := by
  cases ascending : sorted definitions with
  | nil => exact absurd (ascending ▸ sorted_perm definitions).nil_eq.symm nonempty
  | cons first others =>
    exact ⟨first, mem_sorted.mp (ascending ▸ List.mem_cons_self), address_of_sorted_cons ascending⟩

/-- **What encoding gives**, if the layout is accepted.  Nothing is written outside the buffer, which starts at
the lowest address and holds as many registers as the definitions span.  The bytes of each value stand at the
place of its definition, and all others are zeros. -/
theorem encodeInPlace_image (order : ByteOrder) (valid : validate definitions = .ok ()) :
    let start := (span definitions).1
    let count := (span definitions).2
    let place (definition : Definition) := 2 * (definition.address.toNat - start.toNat)
    (∀ definition ∈ definitions, start ≤ definition.address) ∧
      (definitions ≠ [] → ∃ definition ∈ definitions, definition.address = start) ∧
      ∃ buffer, encodeInPlace order definitions = .ok (start, buffer) ∧ buffer.length = 2 * count ∧
        (∀ definition ∈ definitions, definition.register.Spells order
          ((buffer.drop (place definition)).take definition.register.width)) ∧
        ∀ position, position < 2 * count →
          (∀ definition ∈ definitions, position < place definition ∨
            place definition + definition.register.width ≤ position) →
          buffer[position]? = some 0 := by
  intro start count place
  obtain ⟨buffer, encoded, image⟩ := exists_encode_image order valid
  have inPlace : encodeInPlace order definitions = .ok (start, buffer) := by
    rw [encodeInPlace_eq, encoded]
  refine ⟨?_, exists_address_eq_start, buffer, inPlace, image.length, ?_, ?_⟩
  · intro definition there
    exact UInt16.le_iff_toNat_le.mpr (within_of_mem there).start
  · intro definition there
    show definition.register.Spells order ((buffer.drop (offset start definition)).take _)
    rw [image.value definition there]
    exact definition.register.spells_encode order
  · intro position inside outside
    exact image.zero position (image.length ▸ inside) outside

/-- A text that is cut within a sign of two bytes, listed before a number of one byte, with a gap between
them: the slack behind both and the gap are zeros. -/
theorem encodeInPlace_image_of_cut :
    let name : Definition := { label := "Name", address := 7, count := 2, register := .text 2 (some "aé") }
    let level : Definition := { label := "Level", address := 5, count := 1, register := .numeric .u8 (some 9) }
    validate [name, level] = .ok () ∧
      ∃ buffer, encodeInPlace .little [name, level] = .ok (5, buffer) ∧ buffer.length = 8 ∧
        (.text 2 (some "aé") : Register).Spells .little ((buffer.drop 4).take 2) ∧
        (∀ position ∈ [1, 2, 3, 6, 7], buffer[position]? = some 0) := by
  intro name level
  have ascending : sorted [name, level] = [level, name] := by
    simp [sorted, level, name, List.mergeSort]
  have valid : validate [name, level] = .ok () := by
    rw [validate, ascending]
    rfl
  obtain ⟨-, -, buffer, encoded, length, value, zero⟩ := encodeInPlace_image .little valid
  have outside : ∀ position ∈ [1, 2, 3, 6, 7], position < 8 ∧ ∀ definition ∈ [name, level],
      position < 2 * (definition.address.toNat - 5) ∨
        2 * (definition.address.toNat - 5) + definition.register.width ≤ position := by
    decide
  refine ⟨valid, buffer, encoded, length, value name List.mem_cons_self, fun position there => ?_⟩
  exact zero position (outside position there).1 (outside position there).2

end Layout

end ModbusTcp
