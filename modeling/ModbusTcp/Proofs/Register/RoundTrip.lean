import ModbusTcp.Proofs.Register.Image

/-!
# Definitions encoded and decoded again

A buffer that definitions have been encoded to gives each of them its value back in a normal form: a number as
it was, bit for bit, and a text as far as its registers can hold it.  The normal form is all that a buffer knows
of a value, so encoding it gives the same buffer.

* `FixedText.normal`, `FixedText.normal_eq_self_iff` — what is left of a text, and when that is all of it.
* `FixedText.decode_encode_eq_normal`, `FixedText.encode_normal` — through the bytes, and again.
* `Register.normal`, `Register.read_encode_append`, `Register.encode_normal` — the same for any register.
* **`Layout.decode_encode_normal`** — the same for all the definitions of a layout.
-/

namespace ModbusTcp

/-! ### Texts -/

namespace FixedText

/-- What is left of a text in bytes of a fixed length: its UTF-8 form is cut to the length, the zeros at the
end are dropped, and each byte that is not ASCII becomes a question mark. -/
def normal (length : Nat) (text : String) : String :=
  String.ofList ((trimmed ((utf8 text).take length)).map sign)

theorem asciiByte_eq_zero_iff {byte : UInt8} : asciiByte byte = 0 ↔ byte = 0 := by
  constructor
  · intro zero
    rw [asciiByte] at zero
    split at zero
    · exact zero
    · exact absurd zero (by decide)
  · intro zero
    rw [zero]
    rfl

/-- A text is decoded to its normal form once it has been encoded. -/
theorem decode_encode_eq_normal (length : Nat) (text : String) :
    decode (encode length text) = normal length text := by
  let bytes := (utf8 text).take length
  obtain ⟨zeros, whole⟩ := exists_eq_trimmed_append bytes
  have encoded : encode length text = (trimmed bytes).map asciiByte ++
      List.replicate (zeros + (length - (bytes.map asciiByte).length)) 0 := by
    rw [← List.replicate_append_replicate, ← List.append_assoc, ← map_asciiByte_eq whole]
    rfl
  have ends : ((trimmed bytes).map asciiByte).getLast? ≠ some 0 :=
    getLast?_map_ne (getLast?_trimmed bytes) fun _ _ zero => asciiByte_eq_zero_iff.mp zero
  have signs : sign ∘ asciiByte = sign := by
    funext byte
    rw [Function.comp_apply, sign_eq, asciiByte_asciiByte, sign_eq]
  rw [decode_eq, encoded, trimmed_append_replicate ends, List.map_map, signs]
  rfl

/-- The normal form has the same bytes. -/
theorem encode_normal (length : Nat) (text : String) :
    encode length (normal length text) = encode length text := by
  have again := encode_decode (encode length text)
  rw [length_encode, decode_encode_eq_normal] at again
  rw [again]
  refine (List.map_congr_left fun byte there => ?_).trans (List.map_id _)
  exact asciiByte_of_lt (lt_of_mem_encode there)

theorem length_utf8 {text : String} (ascii : ∀ sign ∈ text.toList, sign.toNat < 128) :
    (utf8 text).length = text.toList.length := by
  have spelled := utf8_eq_map ascii
  rw [String.ofList_toList] at spelled
  rw [spelled, List.length_map]

/-- A text is its own normal form exactly if it is ASCII, its bytes fit, and no zero is at its end. -/
theorem normal_eq_self_iff {length : Nat} {text : String} :
    normal length text = text ↔ (∀ sign ∈ text.toList, sign.toNat < 128) ∧ (utf8 text).length ≤ length ∧
      text.toList.getLast? ≠ some (Char.ofNat 0) := by
  constructor
  · intro same
    let bytes := trimmed ((utf8 text).take length)
    have signs : text.toList = bytes.map sign := by
      rw [← String.toList_ofList (l := bytes.map sign)]
      exact congrArg String.toList same.symm
    have ascii : ∀ sign ∈ text.toList, sign.toNat < 128 := by
      intro mark there
      rw [signs] at there
      obtain ⟨byte, -, rfl⟩ := List.mem_map.mp there
      exact toNat_sign byte ▸ toNat_asciiByte_lt byte
    refine ⟨ascii, ?_, ?_⟩
    · obtain ⟨zeros, whole⟩ := exists_eq_trimmed_append ((utf8 text).take length)
      have few : min length (utf8 text).length = bytes.length + zeros := by
        rw [← List.length_take, whole, List.length_append, List.length_replicate]
      have all : (utf8 text).length = bytes.length := by
        rw [length_utf8 ascii, signs, List.length_map]
      omega
    · rw [signs]
      refine getLast?_map_ne (getLast?_trimmed _) fun byte _ zero => asciiByte_eq_zero_iff.mp ?_
      apply UInt8.toNat_inj.mp
      rw [← toNat_sign, zero]
      rfl
  · intro plain
    obtain ⟨ascii, short, ends⟩ := plain
    rw [← decode_encode_eq_normal]
    exact decode_encode ⟨ascii, length_utf8 ascii ▸ short, ends⟩

end FixedText

/-! ### Zeros -/

theorem ByteOrder.ascendingValue_zeros (count : Nat) : ascendingValue (List.replicate count 0) = 0 := by
  induction count with
  | zero => rfl
  | succ count ih =>
    rw [List.replicate_succ, ascendingValue, ih]
    rfl

/-- Zeros spell the number zero. -/
theorem Number.decode_zeros (type : NumericType) (order : ByteOrder) :
    decode type order (List.replicate type.size 0) = 0 := by
  have zero : order.read (List.replicate type.size 0) = 0 := by
    cases order with
    | big => rw [ByteOrder.read, List.reverse_replicate, ByteOrder.ascendingValue_zeros]
    | little => exact ByteOrder.ascendingValue_zeros _
  rw [decode, zero]
  rfl

/-- The number zero has the bytes that a missing number has. -/
theorem Number.encode_zero (type : NumericType) (order : ByteOrder) :
    encode order (0 : Number type) = List.replicate type.size 0 := by
  rw [← decode_zeros type order, encode_decode order List.length_replicate]

/-! ### Registers -/

namespace Register

/-- The value in its normal form: a number is its own, and zero if there was none. -/
def normal : Register → Register
  | .numeric type value => .numeric type (some (value.getD 0))
  | .text length value => .text length (some (FixedText.normal length (value.getD "")))

/-- What is read off the bytes of a register is its normal form. -/
theorem read_encode_append (order : ByteOrder) (register : Register) (rest : Bytes) :
    register.read order (register.encode order ++ rest) = register.normal := by
  have front : (register.encode order ++ rest).take register.width = register.encode order :=
    List.take_left' (length_encode order register)
  cases register with
  | numeric type value =>
    show numeric type (some (Number.decode type order _)) = _
    rw [show List.take type.size _ = _ from front]
    cases value with
    | none => exact congrArg (fun number => numeric type (some number)) (Number.decode_zeros type order)
    | some number => exact congrArg (fun number => numeric type (some number)) (number.decode_encode order)
  | text length value =>
    show text length (some (FixedText.decode _)) = _
    rw [show List.take length _ = _ from front]
    exact congrArg (fun sign => text length (some sign)) (FixedText.decode_encode_eq_normal length _)

/-- The normal form has the same bytes. -/
theorem encode_normal (order : ByteOrder) (register : Register) :
    register.normal.encode order = register.encode order := by
  cases register with
  | numeric type value =>
    cases value with
    | none => exact Number.encode_zero type order
    | some number => rfl
  | text length value => exact FixedText.encode_normal length _

end Register

/-! ### Layouts -/

namespace Layout

variable {order : ByteOrder} {definitions blanks got : List Definition}

/-- A buffer that definitions have been encoded to gives the normal forms of their values to definitions of the
same places and kinds. -/
theorem exists_decode_encode (order : ByteOrder) (valid : validate definitions = .ok ())
    (same : blanks.map Definition.bare = definitions.map Definition.bare) :
    ∃ buffer got, encode order definitions = .ok ((span definitions).1, buffer) ∧
      decode order blanks buffer = .ok got ∧ got.map Definition.bare = definitions.map Definition.bare ∧
      got.map (fun definition => (definition.address, definition.register)) =
        definitions.map fun definition => (definition.address, definition.register.normal) := by
  obtain ⟨buffer, encoded, length, slices⟩ := exists_encode_eq order valid
  have span' := span_eq_of_bare same
  have covers : 2 * (span blanks).2 ≤ buffer.length := Nat.le_of_eq (by rw [span', length])
  let value (definition : Definition) : Register :=
    definition.register.read order (slice (span definitions).1 buffer definition)
  have decoded : decode order blanks buffer =
      .ok (blanks.map fun blank => { blank with register := value blank }) := by
    rw [decode_eq_ok order (validate_eq_ok_of_bare same valid) covers, span']
  have normal : ∀ definition ∈ definitions, value definition = definition.register.normal := by
    intro definition there
    show definition.register.read order _ = _
    rw [slices definition there]
    exact definition.register.read_encode_append order _
  refine ⟨buffer, _, encoded, decoded, ?_, ?_⟩
  · rw [List.map_map, ← same]
    refine List.map_congr_left fun blank _ => ?_
    show Definition.bare { blank with register := value blank } = _
    have kind : (value blank).cleared = blank.register.cleared := blank.register.cleared_read order _
    rw [Definition.bare, Definition.bare, kind]
  · -- The value only depends on what the blank has in common with the definition in its place.
    have cleared (blank : Definition) : value blank.bare = value blank :=
      blank.register.read_cleared order _
    rw [List.map_map]
    refine (map_eq_of_bare (fun blank => ?_) same).trans (List.map_congr_left fun definition there => ?_)
    · exact congrArg (Prod.mk blank.address) (cleared blank)
    · exact congrArg (Prod.mk definition.address) (normal definition there)

/-- The normal forms of the values are encoded to the same buffer. -/
theorem encode_eq_of_normal (valid : validate definitions = .ok ())
    (bare : got.map Definition.bare = definitions.map Definition.bare)
    (values : got.map (fun definition => (definition.address, definition.register)) =
      definitions.map fun definition => (definition.address, definition.register.normal)) :
    encode order got = encode order definitions := by
  have prints : got.map (print order) = definitions.map (print order) := by
    have spelled := congrArg (List.map fun mark => (mark.1, mark.2.encode order)) values
    rw [List.map_map, List.map_map] at spelled
    refine spelled.trans (List.map_congr_left fun definition _ => ?_)
    exact congrArg (Prod.mk definition.address) (definition.register.encode_normal order)
  exact encode_eq_of_prints (validate_eq_ok_of_bare bare valid) valid (span_eq_of_bare bare)
    fun mark => by rw [prints]

/-- **Decoding undoes encoding.**  A buffer that the definitions of an accepted layout have been encoded to is
decoded to the normal forms of their values, whatever definitions of the same places and kinds are to get them.
These are encoded to the same buffer again.  A text is the same as before exactly if it is ASCII, its bytes fit,
and no zero is at its end. -/
theorem decode_encode_normal (order : ByteOrder) (valid : validate definitions = .ok ())
    (same : blanks.map Definition.bare = definitions.map Definition.bare) :
    ∃ buffer got, encode order definitions = .ok ((span definitions).1, buffer) ∧
      decode order blanks buffer = .ok got ∧
      got.map (·.register) = definitions.map (·.register.normal) ∧
      encode order got = .ok ((span definitions).1, buffer) ∧
      ∀ length text, FixedText.normal length text = text ↔ (∀ sign ∈ text.toList, sign.toNat < 128) ∧
        (FixedText.utf8 text).length ≤ length ∧ text.toList.getLast? ≠ some (Char.ofNat 0) := by
  obtain ⟨buffer, got, encoded, decoded, bare, values⟩ := exists_decode_encode order valid same
  have registers : got.map (·.register) = definitions.map (·.register.normal) := by
    have second := congrArg (List.map Prod.snd) values
    rwa [List.map_map, List.map_map] at second
  exact ⟨buffer, got, encoded, decoded, registers, (encode_eq_of_normal valid bare values).trans encoded,
    fun _ _ => FixedText.normal_eq_self_iff⟩

/-- A text that is cut within a sign of two bytes, and a missing number at a lower address: in the text there is a
question mark for each byte that is left of its signs, the number is zero, and what was in the definitions
before is gone. -/
theorem decode_encode_normal_of_cut :
    let name : Definition := { label := "Name", address := 7, count := 3, register := .text 4 (some "aéñb") }
    let level : Definition := { label := "Level", address := 5, count := 1, register := .numeric .u16 none }
    let other : Definition := { name with label := "Other", register := .text 4 (some "old") }
    let count : Definition := { level with label := "Count", register := .numeric .u16 (some 3) }
    validate [name, level] = .ok () ∧
      [other, count].map Definition.bare = [name, level].map Definition.bare ∧
      ∃ buffer got, encode .little [name, level] = .ok (5, buffer) ∧
        decode .little [other, count] buffer = .ok got ∧
        got.map (·.register) = [.text 4 (some "a???"), .numeric .u16 (some 0)] ∧
        encode .little got = .ok (5, buffer) := by
  intro name level other count
  have ascending : sorted [name, level] = [level, name] := by
    simp [sorted, level, name, List.mergeSort]
  have valid : validate [name, level] = .ok () := by
    rw [validate, ascending]
    rfl
  have same : [other, count].map Definition.bare = [name, level].map Definition.bare := rfl
  obtain ⟨buffer, got, encoded, decoded, registers, again, -⟩ := decode_encode_normal .little valid same
  have cut : FixedText.normal 4 "aéñb" = "a???" := by decide
  refine ⟨valid, same, buffer, got, encoded, decoded, registers.trans ?_, again⟩
  rw [← cut]
  rfl

end Layout

end ModbusTcp
