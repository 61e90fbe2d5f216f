import ModbusTcp.Proofs.Register.Image

/-!
# Buffers decoded and encoded again

Definitions that have got their values from a buffer know the bytes of these values and nothing else of the
buffer.  So encoding them gives the bytes back, except that a text does not know the bytes that are not ASCII,
and leaves zeros wherever no value stands.

* `Register.kept`, `Register.encode_read` — what a register keeps of each of its bytes.
* `Layout.Restores` — what is left of a buffer; `Layout.Restores.eq_iff` tells when it is all of it.
* `Layout.exists_encode_restores` — this is what encoding gives.
* **`Layout.encodeInPlace_decodeInPlace`** — the same byte by byte, for decoding and encoding in place.
-/

namespace ModbusTcp

/-! ### Registers -/

namespace Register

/-- What a register keeps of a byte of its value: all of it, but a text has a question mark for one that is not
ASCII. -/
def kept : Register → UInt8 → UInt8
  | .numeric .. => id
  | .text .. => FixedText.asciiByte

theorem width_read (order : ByteOrder) (bytes : Bytes) (register : Register) :
    (register.read order bytes).width = register.width := by
  cases register <;> rfl

/-- A value that has been read off some bytes has the bytes that are kept of them. -/
theorem encode_read (order : ByteOrder) {bytes : Bytes} {register : Register}
    (enough : register.width ≤ bytes.length) :
    (register.read order bytes).encode order = (bytes.take register.width).map register.kept := by
  cases register with
  | numeric type value =>
    have long : (bytes.take type.size).length = type.size := List.length_take_of_le enough
    show (Number.decode type order (bytes.take type.size)).encode order = (bytes.take type.size).map id
    rw [Number.encode_decode order long, List.map_id]
  | text length value =>
    have long : (bytes.take length).length = length := List.length_take_of_le enough
    have again := FixedText.encode_decode (bytes.take length)
    rw [long] at again
    exact again

/-- A byte is kept as it is exactly if it is one of a number or ASCII. -/
theorem kept_eq_self_iff {register : Register} {byte : UInt8} :
    register.kept byte = byte ↔ ∀ length value, register = .text length value → byte < 0x80 := by
  cases register with
  | numeric type value => exact iff_of_true rfl nofun
  | text length value =>
    constructor
    · rintro same _ _ -
      exact same ▸ FixedText.asciiByte_lt byte
    · intro ascii
      exact FixedText.asciiByte_of_lt (ascii length value rfl)

end Register

/-! ### Buffers -/

namespace Layout

variable {order : ByteOrder} {definitions : List Definition} {buffer restored : Bytes}

/-- What definitions leave of a buffer that they get their values from: what each register keeps of its bytes,
and zeros wherever no value stands. -/
structure Restores (definitions : List Definition) (buffer restored : Bytes) : Prop where
  length : restored.length = buffer.length
  value : ∀ definition ∈ definitions, ∀ index < definition.register.width,
    restored[offset (span definitions).1 definition + index]? =
      buffer[offset (span definitions).1 definition + index]?.map definition.register.kept
  zero : ∀ position < buffer.length,
    (∀ definition ∈ definitions, position < offset (span definitions).1 definition ∨
      offset (span definitions).1 definition + definition.register.width ≤ position) →
    restored[position]? = some 0

/-- The buffer is left as it is exactly if the bytes of all texts are ASCII, and zeros stand wherever no value
does. -/
theorem Restores.eq_iff (restores : Restores definitions buffer restored) :
    restored = buffer ↔
      (∀ definition ∈ definitions, ∀ length value, definition.register = .text length value →
        ∀ index < length, ∀ byte, buffer[offset (span definitions).1 definition + index]? = some byte →
          byte < 0x80) ∧
      ∀ position < buffer.length,
        (∀ definition ∈ definitions, position < offset (span definitions).1 definition ∨
          offset (span definitions).1 definition + definition.register.width ≤ position) →
        buffer[position]? = some 0 := by
  constructor
  · rintro rfl
    refine ⟨fun definition there length value text index inside byte stands => ?_, restores.zero⟩
    have same := restores.value definition there index (by rw [text]; exact inside)
    rw [stands] at same
    exact Register.kept_eq_self_iff.mp (Option.some.inj same).symm length value text
  · rintro ⟨ascii, zeros⟩
    apply List.ext_getElem?
    intro position
    rcases inside_or_outside (span definitions).1 definitions position with
      ⟨definition, there, index, inside, rfl⟩ | outside
    · rw [restores.value definition there index inside]
      cases stands : buffer[offset (span definitions).1 definition + index]? with
      | none => rfl
      | some byte =>
        refine congrArg some (Register.kept_eq_self_iff.mpr fun length value text => ?_)
        exact ascii definition there length value text index (by rwa [text] at inside) byte stands
    · by_cases inside : position < buffer.length
      · rw [restores.zero position inside outside, zeros position inside outside]
      · have behind := Nat.le_of_not_lt inside
        rw [List.getElem?_eq_none behind, List.getElem?_eq_none (restores.length ▸ behind)]

theorem map_bare_decoded (order : ByteOrder) (base : UInt16) (buffer : Bytes)
    (definitions : List Definition) :
    (definitions.map (decoded order base buffer)).map Definition.bare = definitions.map Definition.bare := by
  rw [List.map_map]
  refine List.map_congr_left fun definition _ => ?_
  have kind : (decoded order base buffer definition).register.cleared = definition.register.cleared :=
    definition.register.cleared_read order _
  rw [Function.comp_apply, Definition.bare, kind]
  rfl

/-- The values that an accepted layout has got from a buffer are encoded to what is left of it. -/
theorem exists_encode_restores (order : ByteOrder) (valid : validate definitions = .ok ())
    (covers : buffer.length = 2 * (span definitions).2) :
    ∃ restored, encode order (definitions.map (decoded order (span definitions).1 buffer)) =
        .ok ((span definitions).1, restored) ∧
      Restores definitions buffer restored := by
  have same := map_bare_decoded order (span definitions).1 buffer definitions
  obtain ⟨restored, encoded, image⟩ := exists_encode_image order (validate_eq_ok_of_bare same valid)
  have span' := span_eq_of_bare same
  rw [span'] at encoded
  have length : restored.length = buffer.length := by rw [image.length, span', covers]
  refine ⟨restored, encoded, length, ?_, ?_⟩
  · intro definition there index inside
    have enough := width_le_length_slice valid (Nat.le_of_eq covers.symm) there
    have wide := ((validate_eq_ok_iff.mp valid).1 definition there).width
    have stands := image.getElem?_of_inside (List.mem_map_of_mem there)
      (by rwa [decoded, Register.width_read])
    rw [span'] at stands
    refine stands.trans ?_
    rw [decoded, Register.encode_read order enough, List.getElem?_map, List.getElem?_take_of_lt inside, slice,
      List.getElem?_take_of_lt (Nat.lt_of_lt_of_le inside wide), List.getElem?_drop]
  · intro position inside outside
    refine image.zero position (length ▸ inside) ?_
    rw [span', List.forall_mem_map]
    intro definition there
    rw [decoded, Register.width_read]
    exact outside definition there

/-- **Encoding restores what decoding has read.**  The definitions of an accepted layout get their values from a
buffer of exactly the size of the covering span, and are encoded again to a buffer of that size.  Each byte of a
number is the same as before, each byte of a text too unless it is not ASCII and has become a question mark, and
everything else is zero.  So the buffer is the same exactly if the bytes of the texts are ASCII and there were
zeros wherever no value stands. -/
theorem encodeInPlace_decodeInPlace (order : ByteOrder) (valid : validate definitions = .ok ())
    (covers : buffer.length = 2 * (span definitions).2) :
    let start := (span definitions).1
    let place (definition : Definition) := 2 * (definition.address.toNat - start.toNat)
    let vacant (position : Nat) := position < buffer.length ∧ ∀ definition ∈ definitions,
      position < place definition ∨ place definition + definition.register.width ≤ position
    ∃ after restored, decodeInPlace order definitions buffer = (.ok (), after) ∧
      encodeInPlace order after = .ok (start, restored) ∧ restored.length = buffer.length ∧
      (∀ definition ∈ definitions, ∀ type value, definition.register = .numeric type value →
        ∀ index < type.size, restored[place definition + index]? = buffer[place definition + index]?) ∧
      (∀ definition ∈ definitions, ∀ length value, definition.register = .text length value →
        ∀ index < length, restored[place definition + index]? =
          buffer[place definition + index]?.map fun byte => if byte < 0x80 then byte else 0x3F) ∧
      (∀ position, vacant position → restored[position]? = some 0) ∧
      (restored = buffer ↔
        (∀ definition ∈ definitions, ∀ length value, definition.register = .text length value →
          ∀ index < length, ∀ byte, buffer[place definition + index]? = some byte → byte < 0x80) ∧
        ∀ position, vacant position → buffer[position]? = some 0) := by
  intro start place vacant
  obtain ⟨restored, encoded, restores⟩ := exists_encode_restores order valid covers
  have decodes : decodeInPlace order definitions buffer =
      (.ok (), definitions.map (decoded order start buffer)) := by
    rw [decodeInPlace_eq, decode_eq_ok order valid (Nat.le_of_eq covers.symm)]
    rfl
  have encodes : encodeInPlace order (definitions.map (decoded order start buffer)) =
      .ok (start, restored) := by
    rw [encodeInPlace_eq, encoded]
  refine ⟨_, restored, decodes, encodes, restores.length, ?_, ?_, ?_, ?_⟩
  · intro definition there type value number index inside
    have same := restores.value definition there index (by rw [number]; exact inside)
    rw [number] at same
    exact same.trans Option.map_id_apply
  · intro definition there length value text index inside
    have same := restores.value definition there index (by rw [text]; exact inside)
    rw [text] at same
    exact same
  · intro position free
    exact restores.zero position free.1 free.2
  · rw [restores.eq_iff]
    exact and_congr_right fun _ =>
      ⟨fun zeros position free => zeros position free.1 free.2,
        fun zeros position inside outside => zeros position ⟨inside, outside⟩⟩

/-- A text with a zero and a sign that is not ASCII, listed before a number of one byte, with a gap between
them: the zero within the text stays, a question mark is in the place of the sign, and what stood behind both
values and in the gap is gone. -/
theorem encodeInPlace_decodeInPlace_of_gap :
    let name : Definition := { label := "Name", address := 7, count := 2, register := .text 3 none }
    let level : Definition := { label := "Level", address := 5, count := 1, register := .numeric .i8 none }
    let buffer : Bytes := [0xFE, 0xAA, 0xBB, 0xCC, 0x61, 0, 0xE9, 0xDD]
    validate [name, level] = .ok () ∧ buffer.length = 2 * (span [name, level]).2 ∧
      ∃ after, decodeInPlace .little [name, level] buffer = (.ok (), after) ∧
        encodeInPlace .little after = .ok (5, [0xFE, 0, 0, 0, 0x61, 0, 0x3F, 0]) := by
  intro name level buffer
  have ascending : sorted [name, level] = [level, name] := by
    simp [sorted, level, name, List.mergeSort]
  have valid : validate [name, level] = .ok () := by
    rw [validate, ascending]
    rfl
  have covers : buffer.length = 2 * (span [name, level]).2 := by decide
  obtain ⟨after, restored, decodes, encodes, length, numbers, texts, zeros, -⟩ :=
    encodeInPlace_decodeInPlace .little valid covers
  have vacant : ∀ position ∈ [1, 2, 3, 7], position < buffer.length ∧ ∀ definition ∈ [name, level],
      position < 2 * (definition.address.toNat - 5) ∨
        2 * (definition.address.toNat - 5) + definition.register.width ≤ position := by
    decide
  have number := numbers level (by simp) .i8 none rfl
  have text := texts name (by simp) 3 none rfl
  have zero (position : Nat) (there : position ∈ [1, 2, 3, 7]) := zeros position (vacant position there)
  have whole : restored = [0xFE, 0, 0, 0, 0x61, 0, 0x3F, 0] := by
    apply List.ext_getElem?
    intro position
    rcases position with _ | _ | _ | _ | _ | _ | _ | _ | position
    · exact number 0 (by decide)
    · exact zero 1 (by decide)
    · exact zero 2 (by decide)
    · exact zero 3 (by decide)
    · exact text 0 (by decide)
    · exact text 1 (by decide)
    · exact text 2 (by decide)
    · exact zero 7 (by decide)
    · exact List.getElem?_eq_none (length ▸ Nat.le_add_left ..)
  exact ⟨valid, covers, after, decodes, whole ▸ encodes⟩

end Layout

end ModbusTcp
