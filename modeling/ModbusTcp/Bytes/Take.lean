import ModbusTcp.Bytes

/-!
# Taking items off the front of the input

A decoder takes what it needs off the front of the input and hands on the rest.  Only two things can
go wrong: the input ends, or a counted list contradicts its own byte count.

* `takeByte`, `takeWord`, `takeWords`, `takeBytes` — the items that packets are made of.
* `takeByte_cons`, `takeWord_append`, `takeWords_append`, `takeBytes_append` — an item written in
  front of some bytes is taken off again, and those bytes are left.
-/

namespace ModbusTcp

/-- Why bytes are not a packet. -/
inductive DecodeError where
  /-- The input ends before the packet does. -/
  | endOfInput
  /-- A byte count is not twice the register count in front of it. -/
  | byteCountMismatch (byteCount : UInt8) (registers : UInt16)
deriving DecidableEq, Repr

/-- The first `count` bytes, and what follows them. -/
def takeBytes (count : Nat) (input : Bytes) : Except DecodeError (Bytes × Bytes) :=
  if count ≤ input.length then .ok (input.take count, input.drop count) else .error .endOfInput

/-- The first byte. -/
def takeByte : Bytes → Except DecodeError (UInt8 × Bytes)
  | byte :: rest => .ok (byte, rest)
  | [] => .error .endOfInput

/-- The word in the first two bytes. -/
def takeWord (order : ByteOrder) : Bytes → Except DecodeError (UInt16 × Bytes)
  | first :: second :: rest => .ok (UInt16.ofNat (order.read [first, second]), rest)
  | _ => .error .endOfInput

/-- The words in the first `2 * count` bytes. -/
def takeWords (order : ByteOrder) : Nat → Bytes → Except DecodeError (List UInt16 × Bytes)
  | 0, input => .ok ([], input)
  | count + 1, input => do
    let (word, input) ← takeWord order input
    let (words, input) ← takeWords order count input
    return (word :: words, input)

/-- The two bytes of a word. -/
def ByteOrder.word (order : ByteOrder) (value : UInt16) : Bytes := order.write 2 value.toNat

/-! ### Laws -/

@[simp] theorem ByteOrder.length_word (order : ByteOrder) (value : UInt16) :
    (order.word value).length = 2 := order.length_write 2 value.toNat

theorem takeBytes_append {front : Bytes} {count : Nat} (width : front.length = count) (rest : Bytes) :
    takeBytes count (front ++ rest) = .ok (front, rest) := by
  subst width
  simp [takeBytes]

@[simp] theorem takeByte_cons (byte : UInt8) (rest : Bytes) :
    takeByte (byte :: rest) = .ok (byte, rest) := rfl

/-- A word written in front of some bytes is taken off again. -/
@[simp] theorem takeWord_append (order : ByteOrder) (value : UInt16) (rest : Bytes) :
    takeWord order (order.word value ++ rest) = .ok (value, rest) := by
  have spelled := order.length_word value
  obtain ⟨first, second, pair⟩ : ∃ first second, order.word value = [first, second] := by
    match order.word value, spelled with
    | [first, second], _ => exact ⟨first, second, rfl⟩
  have back : order.read (order.word value) = value.toNat % 256 ^ 2 := order.read_write 2 value.toNat
  rw [pair] at back ⊢
  have bound := value.toNat_lt
  simp only [List.cons_append, List.nil_append, takeWord, back]
  rw [Nat.mod_eq_of_lt (by omega), UInt16.ofNat_toNat]

/-- The words written in front of some bytes are taken off again. -/
@[simp] theorem takeWords_append (order : ByteOrder) (values : List UInt16) (rest : Bytes) :
    takeWords order values.length (values.flatMap order.word ++ rest) = .ok (values, rest) := by
  induction values with
  | nil => rfl
  | cons value values ih =>
    simp only [List.flatMap_cons, List.append_assoc, List.length_cons, takeWords, takeWord_append]
    simp [bind, Except.bind, ih, pure, Except.pure]

/-! ### What taking consumes -/

theorem length_of_takeBytes {count : Nat} {input front rest : Bytes}
    (taken : takeBytes count input = .ok (front, rest)) :
    front.length = count ∧ input = front ++ rest := by
  unfold takeBytes at taken
  split at taken
  · simp only [Except.ok.injEq, Prod.mk.injEq] at taken
    obtain ⟨rfl, rfl⟩ := taken
    simp
    omega
  · simp at taken

theorem length_of_takeByte {input rest : Bytes} {byte : UInt8}
    (taken : takeByte input = .ok (byte, rest)) : input = byte :: rest := by
  cases input with
  | nil => simp [takeByte] at taken
  | cons first others =>
    simp only [takeByte, Except.ok.injEq, Prod.mk.injEq] at taken
    rw [taken.1, taken.2]

/-- A word is taken off exactly where its two bytes stand. -/
theorem eq_word_append_of_takeWord {order : ByteOrder} {input rest : Bytes} {word : UInt16}
    (taken : takeWord order input = .ok (word, rest)) : input = order.word word ++ rest := by
  match input with
  | [] => simp [takeWord] at taken
  | [_] => simp [takeWord] at taken
  | first :: second :: others =>
    simp only [takeWord, Except.ok.injEq, Prod.mk.injEq] at taken
    obtain ⟨rfl, rfl⟩ := taken
    have small := order.read_lt [first, second]
    simp only [List.length_cons, List.length_nil, Nat.reduceAdd, Nat.reducePow] at small
    have back : order.write 2 (order.read [first, second]) = [first, second] :=
      order.write_read [first, second]
    have same : (UInt16.ofNat (order.read [first, second])).toNat = order.read [first, second] := by
      simp
      omega
    rw [ByteOrder.word, same, back]
    rfl

theorem eq_words_append_of_takeWords {order : ByteOrder} {count : Nat} {input rest : Bytes}
    {words : List UInt16} (taken : takeWords order count input = .ok (words, rest)) :
    words.length = count ∧ input = words.flatMap order.word ++ rest := by
  induction count generalizing input words with
  | zero =>
    simp only [takeWords, Except.ok.injEq, Prod.mk.injEq] at taken
    obtain ⟨rfl, rfl⟩ := taken
    simp
  | succ count ih =>
    simp only [takeWords, bind, Except.bind] at taken
    split at taken
    · simp at taken
    · rename_i first firstTaken
      obtain ⟨word, remaining⟩ := first
      split at taken
      · simp at taken
      · rename_i others othersTaken
        obtain ⟨tail, last⟩ := others
        simp only [pure, Except.pure, Except.ok.injEq, Prod.mk.injEq] at taken
        obtain ⟨rfl, rfl⟩ := taken
        obtain ⟨length, spelled⟩ := ih othersTaken
        dsimp only at spelled
        rw [eq_word_append_of_takeWord firstTaken, spelled]
        simp [length]

end ModbusTcp
