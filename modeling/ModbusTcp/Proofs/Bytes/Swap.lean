import ModbusTcp.Packet.Words

/-!
# The other byte order of registers

Words spelled in one byte order are the words spelled in the other one with the two bytes of every
register swapped.

* `swapped` — bytes with the two of every register swapped.
* `swapped_take`, `swapped_drop` — cutting between two registers is the same before and after.
* `take_bytesOfWords`, `drop_bytesOfWords` — some of the words spell some of the bytes.
* `swapped_words` — the spelling in one byte order from that in the other one.
* `ByteOrder.reread`, `bytesOfWords_eq_reread` — what becomes of words that have been spelled in a byte
  order, once they are spelled as register values.
* `take_swapped_eq_iff` — when the swap leaves a value at the front of its registers as it is.
* `exists_takeWords` — bytes that are long enough spell words.
-/

namespace ModbusTcp

/-- Bytes with the two of every register swapped; an odd byte at the end stays. -/
def swapped : Bytes → Bytes
  | first :: second :: rest => second :: first :: swapped rest
  | bytes => bytes

@[simp] theorem swapped_cons_cons (first second : UInt8) (rest : Bytes) :
    swapped (first :: second :: rest) = second :: first :: swapped rest := rfl

theorem swapped_perm (bytes : Bytes) : (swapped bytes).Perm bytes := by
  match bytes with
  | [] => exact .refl _
  | [_] => exact .refl _
  | first :: second :: rest => exact (.trans (.swap ..) (((swapped_perm rest).cons _).cons _))

/-! ### Cutting between two registers -/

theorem swapped_drop (registers : Nat) (bytes : Bytes) :
    swapped (bytes.drop (2 * registers)) = (swapped bytes).drop (2 * registers) := by
  induction registers generalizing bytes with
  | zero => rfl
  | succ registers ih =>
    match bytes with
    | [] => rfl
    | [_] => simp [Nat.mul_succ, swapped]
    | first :: second :: rest => exact ih rest

theorem swapped_take (registers : Nat) (bytes : Bytes) :
    swapped (bytes.take (2 * registers)) = (swapped bytes).take (2 * registers) := by
  induction registers generalizing bytes with
  | zero => rfl
  | succ registers ih =>
    match bytes with
    | [] => rfl
    | [_] => simp [Nat.mul_succ, swapped]
    | first :: second :: rest => exact congrArg (second :: first :: ·) (ih rest)

theorem drop_bytesOfWords (registers : Nat) (words : List UInt16) :
    (bytesOfWords words).drop (2 * registers) = bytesOfWords (words.drop registers) := by
  induction registers generalizing words with
  | zero => rfl
  | succ registers ih =>
    cases words with
    | nil => rfl
    | cons word words => exact ih words

theorem take_bytesOfWords (registers : Nat) (words : List UInt16) :
    (bytesOfWords words).take (2 * registers) = bytesOfWords (words.take registers) := by
  induction registers generalizing words with
  | zero => rfl
  | succ registers ih =>
    cases words with
    | nil => rfl
    | cons word words => exact congrArg (ByteOrder.big.word word ++ ·) (ih words)

/-! ### Words in either byte order -/

/-- The spelling of words in one byte order is that in the other one, swapped. -/
theorem swapped_words (words : List UInt16) :
    swapped (words.flatMap ByteOrder.little.word) = bytesOfWords words := by
  induction words with
  | nil => rfl
  | cons word words ih =>
    rw [bytesOfWords, List.flatMap_cons, List.flatMap_cons, ← bytesOfWords, ← ih]
    rfl

/-- What becomes of bytes that spell words in a byte order, once the words are spelled as register
values. -/
def ByteOrder.reread : ByteOrder → Bytes → Bytes
  | .big, bytes => bytes
  | .little, bytes => swapped bytes

theorem bytesOfWords_eq_reread (order : ByteOrder) (words : List UInt16) :
    bytesOfWords words = order.reread (words.flatMap order.word) := by
  cases order with
  | big => rfl
  | little => exact (swapped_words words).symm

theorem ByteOrder.reread_perm (order : ByteOrder) (bytes : Bytes) : (order.reread bytes).Perm bytes := by
  cases order with
  | big => exact .refl _
  | little => exact swapped_perm bytes

theorem ByteOrder.length_reread (order : ByteOrder) (bytes : Bytes) :
    (order.reread bytes).length = bytes.length := (order.reread_perm bytes).length_eq

theorem ByteOrder.mem_reread (order : ByteOrder) {bytes : Bytes} {byte : UInt8} :
    byte ∈ order.reread bytes ↔ byte ∈ bytes := (order.reread_perm bytes).mem_iff

/-- Registers are reread one by one. -/
theorem ByteOrder.reread_slice (order : ByteOrder) (before registers : Nat) (bytes : Bytes) :
    ((order.reread bytes).drop (2 * before)).take (2 * registers) =
      order.reread ((bytes.drop (2 * before)).take (2 * registers)) := by
  cases order with
  | big => rfl
  | little =>
    show ((swapped bytes).drop _).take _ = swapped _
    rw [swapped_take, swapped_drop]

/-! ### Values that stay -/

theorem swapped_replicate (byte : UInt8) (count : Nat) :
    swapped (List.replicate count byte) = List.replicate count byte := by
  match count with
  | 0 => rfl
  | 1 => rfl
  | count + 2 =>
    rw [List.replicate_succ, List.replicate_succ, swapped_cons_cons, swapped_replicate]

/-- A value at the front of its registers stays as it is exactly if the two bytes of each register are
the same, those included that are only there to fill them. -/
theorem take_swapped_eq_iff {value : Bytes} {filling registers : Nat}
    (whole : value.length + filling = 2 * registers) :
    (swapped (value ++ List.replicate filling 0)).take value.length = value ↔
      swapped (value ++ List.replicate filling 0) = value ++ List.replicate filling 0 := by
  induction registers generalizing value with
  | zero =>
    obtain rfl : value = [] := List.eq_nil_of_length_eq_zero (by omega)
    rw [List.nil_append, swapped_replicate]
    simp
  | succ registers ih =>
    match value with
    | [] =>
      rw [List.nil_append, swapped_replicate]
      simp
    | [last] =>
      -- The last byte shares its register with a zero, so it has to be one itself.
      match filling with
      | filling + 1 =>
        rw [List.replicate_succ, List.singleton_append, swapped_cons_cons, swapped_replicate]
        simp [eq_comm]
    | first :: second :: rest =>
      have smaller : rest.length + filling = 2 * registers := by
        rw [List.length_cons, List.length_cons] at whole
        omega
      rw [List.cons_append, List.cons_append, swapped_cons_cons, List.length_cons, List.length_cons,
        List.take_succ_cons, List.take_succ_cons, List.cons.injEq, List.cons.injEq, ih smaller,
        List.cons.injEq, List.cons.injEq]

/-! ### Bytes that spell words -/

/-- Bytes that are long enough spell words. -/
theorem exists_takeWords (order : ByteOrder) {count : Nat} {input : Bytes}
    (enough : 2 * count ≤ input.length) :
    ∃ words, takeWords order count input = .ok (words, input.drop (2 * count)) := by
  induction count generalizing input with
  | zero => exact ⟨[], rfl⟩
  | succ count ih =>
    match input with
    | [] => simp at enough
    | [_] =>
      rw [List.length_singleton] at enough
      omega
    | first :: second :: rest =>
      obtain ⟨words, taken⟩ := @ih rest (by simp only [List.length_cons] at enough; omega)
      refine ⟨UInt16.ofNat (order.read [first, second]) :: words, ?_⟩
      rw [takeWords, takeWord]
      simp only [bind, Except.bind, taken]
      rfl

/-- Bytes that are exactly as many as words take are spelled by them. -/
theorem exists_words (order : ByteOrder) {count : Nat} {input : Bytes}
    (exactly : input.length = 2 * count) :
    ∃ words, takeWords order count input = .ok (words, []) ∧ words.length = count ∧
      input = words.flatMap order.word := by
  obtain ⟨words, taken⟩ := exists_takeWords order (Nat.le_of_eq exactly.symm)
  rw [List.drop_of_length_le (Nat.le_of_eq exactly)] at taken
  obtain ⟨length, spelled⟩ := eq_words_append_of_takeWords taken
  exact ⟨words, taken, length, by rwa [List.append_nil] at spelled⟩

end ModbusTcp
