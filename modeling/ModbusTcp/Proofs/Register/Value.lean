import ModbusTcp.Proofs.Bytes.Swap
import ModbusTcp.Register

/-!
# Values and their bytes

What registers give when their value has been written and is read again.

* `FixedText.trimmed` — bytes without the zeros at their end, from which a text is read.
* `FixedText.decode_encode`, `FixedText.encode_decode` — the two directions for texts.
* `Register.read` — the register with its value from the front of bytes that are long enough.
* `Register.read_eq_self_iff` — bytes give the value back exactly if they are its own.
* `Register.read_reread_eq_iff` — the same for bytes that have become register values in between.
* `Register.Shows` — the value of a register is what bytes say, told without the decoder.
-/

namespace ModbusTcp

namespace FixedText

/-! ### Bytes of texts -/

theorem asciiByte_lt (byte : UInt8) : asciiByte byte < 0x80 := by
  rw [asciiByte]
  split
  · assumption
  · decide

theorem asciiByte_of_lt {byte : UInt8} (ascii : byte < 0x80) : asciiByte byte = byte := if_pos ascii

theorem asciiByte_asciiByte (byte : UInt8) : asciiByte (asciiByte byte) = asciiByte byte :=
  asciiByte_of_lt (asciiByte_lt byte)

theorem toNat_asciiByte_lt (byte : UInt8) : (asciiByte byte).toNat < 128 :=
  UInt8.lt_iff_toNat_lt.mp (asciiByte_lt byte)

/-- The sign of a byte: the one with that number if the byte is ASCII, and a question mark otherwise. -/
def sign (byte : UInt8) : Char := if byte < 0x80 then Char.ofNat byte.toNat else '?'

theorem sign_eq (byte : UInt8) : sign byte = Char.ofNat (asciiByte byte).toNat := by
  rw [sign, asciiByte]
  split
  · rfl
  · rfl

theorem toNat_sign (byte : UInt8) : (sign byte).toNat = (asciiByte byte).toNat := by
  have valid : (asciiByte byte).toNat.isValidChar :=
    Or.inl (Nat.lt_trans (toNat_asciiByte_lt byte) (by decide))
  rw [sign_eq, Char.ofNat, dif_pos valid]
  rfl

/-- The bytes of an ASCII text are its signs. -/
theorem utf8_eq_map {signs : List Char} (ascii : ∀ sign ∈ signs, sign.toNat < 128) :
    utf8 (String.ofList signs) = signs.map fun sign => UInt8.ofNat sign.toNat := by
  rw [utf8, String.toList_ofList]
  induction signs with
  | nil => rfl
  | cons sign signs ih =>
    have small : sign.toNat < 128 := ascii sign List.mem_cons_self
    have one : sign.utf8Size = 1 := by
      rw [Char.utf8Size, if_pos]
      exact UInt32.le_iff_toNat_le.mpr (Nat.le_of_lt_succ small)
    rw [List.flatMap_cons, String.utf8EncodeChar_eq_singleton one, List.map_cons,
      ih fun other there => ascii other (List.mem_cons_of_mem _ there)]
    rfl

/-- All bytes of an encoded text are ASCII. -/
theorem lt_of_mem_encode {length : Nat} {text : String} {byte : UInt8}
    (there : byte ∈ encode length text) : byte < 0x80 := by
  rcases List.mem_append.mp there with sign | filling
  · obtain ⟨original, _, rfl⟩ := List.mem_map.mp sign
    exact asciiByte_lt original
  · rw [List.eq_of_mem_replicate filling]
    decide

/-! ### Zeros at the end -/

/-- Bytes without the zeros at their end. -/
def trimmed (bytes : Bytes) : Bytes := (bytes.reverse.dropWhile (· = 0)).reverse

theorem decode_eq (bytes : Bytes) : decode bytes = String.ofList ((trimmed bytes).map sign) := by
  rw [funext sign_eq]
  rfl

/-- What has been trimmed off are zeros. -/
theorem exists_eq_trimmed_append (bytes : Bytes) :
    ∃ zeros, bytes = trimmed bytes ++ List.replicate zeros 0 := by
  have cut : bytes.reverse.takeWhile (· = 0) ++ bytes.reverse.dropWhile (· = 0) = bytes.reverse :=
    List.takeWhile_append_dropWhile
  have zeros : ∀ byte ∈ (bytes.reverse.takeWhile (· = 0)).reverse, byte = 0 := by
    intro byte there
    have all := List.all_eq_true.mp (List.all_takeWhile (l := bytes.reverse) (p := (· = 0)))
    exact of_decide_eq_true (all byte (List.mem_reverse.mp there))
  refine ⟨(bytes.reverse.takeWhile (· = 0)).reverse.length, ?_⟩
  rw [← List.eq_replicate_of_mem zeros, trimmed, ← List.reverse_append, cut, List.reverse_reverse]

/-- What is left does not end with a zero. -/
theorem getLast?_trimmed (bytes : Bytes) : (trimmed bytes).getLast? ≠ some 0 := by
  intro last
  have stops := List.head?_dropWhile_not (· = 0) bytes.reverse
  rw [trimmed, List.getLast?_reverse] at last
  rw [last] at stops
  exact absurd stops (by decide)

/-- A list that does not end with an element does not end with its image, if no other one has that image. -/
theorem getLast?_map_ne {α β : Type} {list : List α} {spell : α → β} {last : α} {image : β}
    (ends : list.getLast? ≠ some last) (only : ∀ sign ∈ list, spell sign = image → sign = last) :
    (list.map spell).getLast? ≠ some image := by
  rw [List.getLast?_map]
  intro found
  obtain ⟨sign, found, same⟩ := Option.map_eq_some_iff.mp found
  exact ends (found.trans (congrArg some (only sign (List.mem_of_getLast? found) same)))

/-- Zeros stay zeros when bytes are replaced by signs. -/
theorem map_asciiByte_eq {bytes : Bytes} {zeros : Nat} (whole : bytes = trimmed bytes ++ List.replicate zeros 0) :
    bytes.map asciiByte = (trimmed bytes).map asciiByte ++ List.replicate zeros 0 := by
  have mapped := congrArg (List.map asciiByte) whole
  rwa [List.map_append, List.map_replicate, show asciiByte 0 = 0 from rfl] at mapped

/-- Zeros behind bytes that do not end with one are trimmed off, and nothing else is. -/
theorem trimmed_append_replicate {bytes : Bytes} (ends : bytes.getLast? ≠ some 0) (zeros : Nat) :
    trimmed (bytes ++ List.replicate zeros 0) = bytes := by
  rw [trimmed, List.reverse_append, List.reverse_replicate, List.dropWhile_append_of_pos]
  · rw [List.getLast?_eq_head?_reverse] at ends
    have stays : bytes.reverse.dropWhile (· = 0) = bytes.reverse := by
      cases reversed : bytes.reverse with
      | nil => rfl
      | cons last others =>
        rw [reversed, List.head?_cons] at ends
        exact List.dropWhile_cons_of_neg (by simpa using ends)
    rw [stays, List.reverse_reverse]
  · intro byte there
    exact decide_eq_true (List.eq_of_mem_replicate there)

/-! ### Round trips -/

/-- A text that fits into its registers as it is: ASCII, no longer than they are, and with no zero at
its end. -/
structure IsPlain (length : Nat) (text : String) : Prop where
  ascii : ∀ sign ∈ text.toList, sign.toNat < 128
  short : text.toList.length ≤ length
  ends : text.toList.getLast? ≠ some (Char.ofNat 0)

theorem toNat_ofNat_sign {sign : Char} (ascii : sign.toNat < 128) :
    (UInt8.ofNat sign.toNat).toNat = sign.toNat := by
  rw [UInt8.toNat_ofNat']
  exact Nat.mod_eq_of_lt (by omega)

theorem ofNat_sign_lt {sign : Char} (ascii : sign.toNat < 128) : UInt8.ofNat sign.toNat < 0x80 := by
  rw [UInt8.lt_iff_toNat_lt, toNat_ofNat_sign ascii]
  exact ascii

/-- A plain text is written sign by sign. -/
theorem IsPlain.encode_eq {length : Nat} {text : String} (plain : IsPlain length text) :
    encode length text = (text.toList.map fun sign => UInt8.ofNat sign.toNat) ++
      List.replicate (length - text.toList.length) 0 := by
  have bytes : utf8 text = text.toList.map fun sign => UInt8.ofNat sign.toNat := by
    have spelled := utf8_eq_map plain.ascii
    rwa [String.ofList_toList] at spelled
  have kept : ((utf8 text).take length).map asciiByte =
      text.toList.map fun sign => UInt8.ofNat sign.toNat := by
    rw [bytes, List.take_of_length_le (by rw [List.length_map]; exact plain.short), List.map_map]
    apply List.map_congr_left
    intro sign there
    exact asciiByte_of_lt (ofNat_sign_lt (plain.ascii sign there))
  rw [encode, kept, List.length_map]

/-- A plain text is read as it has been written. -/
theorem decode_encode {length : Nat} {text : String} (plain : IsPlain length text) :
    decode (encode length text) = text := by
  have ends : (text.toList.map fun sign => UInt8.ofNat sign.toNat).getLast? ≠ some 0 := by
    refine getLast?_map_ne plain.ends fun sign there zero => ?_
    have none : sign.toNat = 0 := by
      rw [← toNat_ofNat_sign (plain.ascii sign there), zero]
      rfl
    rw [← none, Char.ofNat_toNat]
  rw [decode_eq, plain.encode_eq, trimmed_append_replicate ends, List.map_map]
  have same : text.toList.map (sign ∘ fun sign => UInt8.ofNat sign.toNat) = text.toList := by
    refine (List.map_congr_left fun sign there => ?_).trans (List.map_id _)
    have ascii := plain.ascii sign there
    rw [Function.comp_apply, sign_eq, asciiByte_of_lt (ofNat_sign_lt ascii), toNat_ofNat_sign ascii,
      Char.ofNat_toNat, id]
  rw [same, String.ofList_toList]

/-- The bytes of a text that has been read are those it has been read from, with a sign in place of
each that is not ASCII. -/
theorem encode_decode (bytes : Bytes) : encode bytes.length (decode bytes) = bytes.map asciiByte := by
  obtain ⟨zeros, whole⟩ := exists_eq_trimmed_append bytes
  have spelled : utf8 (decode bytes) = (trimmed bytes).map asciiByte := by
    rw [decode_eq, utf8_eq_map, List.map_map]
    · apply List.map_congr_left
      intro byte _
      rw [Function.comp_apply, toNat_sign, UInt8.ofNat_toNat]
    · intro mark there
      obtain ⟨byte, _, rfl⟩ := List.mem_map.mp there
      rw [toNat_sign]
      exact toNat_asciiByte_lt byte
  have fits : ((trimmed bytes).map asciiByte).length ≤ bytes.length := by
    rw [List.length_map]
    have length := congrArg List.length whole
    rw [List.length_append] at length
    omega
  have twice : ((trimmed bytes).map asciiByte).map asciiByte = (trimmed bytes).map asciiByte := by
    rw [List.map_map]
    apply List.map_congr_left
    intro byte _
    exact asciiByte_asciiByte byte
  have filling : bytes.length - (trimmed bytes).length = zeros := by
    have length := congrArg List.length whole
    rw [List.length_append, List.length_replicate] at length
    omega
  rw [encode, spelled, List.take_of_length_le fits, twice, List.length_map, filling, map_asciiByte_eq whole]

end FixedText

/-! ### Bytes of registers -/

namespace Register

/-- The register with its value from the front of bytes that are long enough. -/
def read (order : ByteOrder) (bytes : Bytes) : Register → Register
  | .numeric type _ => .numeric type (some (Number.decode type order (bytes.take type.size)))
  | .text length _ => .text length (some (FixedText.decode (bytes.take length)))

/-- Bytes that are long enough give a value. -/
theorem decode_eq_read (order : ByteOrder) {bytes : Bytes} (register : Register)
    (enough : register.width ≤ bytes.length) :
    register.decode order bytes = .ok (register.read order bytes, bytes.drop register.width) := by
  cases register with
  | numeric type value =>
    rw [decode, Number.take, takeBytes, if_pos (show type.size ≤ bytes.length from enough)]
    rfl
  | text length value =>
    rw [decode, takeBytes, if_pos (show length ≤ bytes.length from enough)]
    rfl

/-- The value that a register holds does not matter to what is read. -/
theorem read_cleared (order : ByteOrder) (bytes : Bytes) (register : Register) :
    register.cleared.read order bytes = register.read order bytes := by
  cases register <;> rfl

theorem cleared_read (order : ByteOrder) (bytes : Bytes) (register : Register) :
    (register.read order bytes).cleared = register.cleared := by
  cases register with
  | numeric type value => rfl
  | text length value => rfl

/-- The value that bytes give depends on as many of them as it is wide. -/
theorem read_take (order : ByteOrder) {register : Register} {count : Nat}
    (wide : register.width ≤ count) (bytes : Bytes) :
    register.read order (bytes.take count) = register.read order bytes := by
  cases register with
  | numeric type value =>
    rw [read, read, List.take_take, Nat.min_eq_left (show type.size ≤ count from wide)]
  | text length value =>
    rw [read, read, List.take_take, Nat.min_eq_left (show length ≤ count from wide)]

theorem width_cleared (register : Register) : register.cleared.width = register.width := by
  cases register <;> rfl

/-- There is a value, and its bytes say all about it. -/
def IsPlain : Register → Prop
  | .numeric _ value => value.isSome
  | .text length value => ∃ text, value = some text ∧ FixedText.IsPlain length text

/-- Bytes give a plain value back exactly if they are its own; those of a text have to be ASCII. -/
theorem read_eq_self_iff (order : ByteOrder) {bytes : Bytes} {register : Register}
    (plain : register.IsPlain) (enough : register.width ≤ bytes.length)
    (ascii : ∀ length value, register = .text length value → ∀ byte ∈ bytes, byte < 0x80) :
    register.read order bytes = register ↔ bytes.take register.width = register.encode order := by
  cases register with
  | numeric type value =>
    obtain ⟨number, rfl⟩ := Option.isSome_iff_exists.mp plain
    have long : (bytes.take type.size).length = type.size := List.length_take_of_le enough
    show numeric type (some (Number.decode type order (bytes.take type.size))) = _ ↔
      bytes.take type.size = number.encode order
    constructor
    · intro same
      have value : Number.decode type order (bytes.take type.size) = number := by
        injection same with _ same
        injection same
      rw [← value, Number.encode_decode order long]
    · intro same
      rw [same, Number.decode_encode]
  | text length value =>
    obtain ⟨text, rfl, plain⟩ := plain
    have long : (bytes.take length).length = length := List.length_take_of_le enough
    show Register.text length (some (FixedText.decode (bytes.take length))) = _ ↔
      bytes.take length = FixedText.encode length text
    constructor
    · intro same
      -- A byte that is not ASCII would be read as another sign, so the text alone does not tell it.
      have value : FixedText.decode (bytes.take length) = text := by
        injection same with _ same
        injection same
      have kept : (bytes.take length).map FixedText.asciiByte = bytes.take length := by
        refine (List.map_congr_left fun byte there => ?_).trans (List.map_id _)
        exact FixedText.asciiByte_of_lt (ascii length _ rfl byte (List.mem_of_mem_take there))
      have back := FixedText.encode_decode (bytes.take length)
      rw [long, value, kept] at back
      exact back.symm
    · intro same
      rw [same, FixedText.decode_encode plain]

/-- **A value whose registers have been written in a byte order, and are reread as register values, is
read back** exactly if rereading leaves the bytes of its registers as they are. -/
theorem read_reread_eq_iff (order : ByteOrder) {register : Register} (plain : register.IsPlain)
    {filling registers : Nat} (whole : register.width + filling = 2 * registers) :
    let bytes := register.encode order ++ List.replicate filling 0
    register.read order (order.reread bytes) = register ↔ order.reread bytes = bytes := by
  intro bytes
  have length : (register.encode order).length + filling = 2 * registers := by
    rw [length_encode, whole]
  have reread : (order.reread bytes).length = bytes.length := order.length_reread bytes
  have ascii : ∀ length value, register = .text length value →
      ∀ byte ∈ order.reread bytes, byte < 0x80 := by
    rintro width value rfl byte there
    rcases List.mem_append.mp (order.mem_reread.mp there) with sign | zero
    · exact FixedText.lt_of_mem_encode sign
    · rw [List.eq_of_mem_replicate zero]
      decide
  rw [read_eq_self_iff order plain (by rw [reread, List.length_append, length_encode]; omega) ascii]
  cases order with
  | big =>
    show bytes.take register.width = _ ↔ bytes = bytes
    have front : bytes.take register.width = register.encode .big :=
      List.take_left' (length_encode _ _)
    exact iff_of_true front rfl
  | little =>
    have filled := take_swapped_eq_iff length
    rwa [length_encode] at filled

end Register

/-! ### What a register shows -/

/-- A register holds the value that bytes with the high one first say: a number whose own bytes are the
first ones, or a text of the first ones without the zeros at their end. -/
inductive Register.Shows (bytes : Bytes) : Register → Prop
  | number {type : NumericType} {number : Number type}
      (first : number.encode .big = bytes.take type.size) : Shows bytes (.numeric type (some number))
  | text {length zeros : Nat} {signs : Bytes}
      (first : bytes.take length = signs ++ List.replicate zeros 0) (ends : signs.getLast? ≠ some 0) :
      Shows bytes (.text length (some (String.ofList (signs.map FixedText.sign))))

/-- What is read off bytes that are long enough is what they say. -/
theorem Register.shows_read (register : Register) {bytes : Bytes}
    (enough : register.width ≤ bytes.length) : (register.read .big bytes).Shows bytes := by
  cases register with
  | numeric type value =>
    refine .number (Number.encode_decode .big ?_)
    rw [List.length_take]
    exact Nat.min_eq_left enough
  | text length value =>
    obtain ⟨zeros, front⟩ := FixedText.exists_eq_trimmed_append (bytes.take length)
    rw [read, FixedText.decode_eq]
    exact .text front (FixedText.getLast?_trimmed _)

end ModbusTcp
