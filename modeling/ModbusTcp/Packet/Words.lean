import ModbusTcp.Bytes.Take

/-!
# Register values as bytes

The values in an answer are raw bytes, two for each register with the high byte first, whatever the
byte order of the connection is.

* `bytesOfWords`, `wordsOfBytes` — from register values to bytes and back; an odd byte at the end is
  no register.
* `wordsOfBytes_bytesOfWords` — the words come back.
-/

namespace ModbusTcp

/-- The bytes of register values. -/
def bytesOfWords (words : List UInt16) : Bytes := words.flatMap ByteOrder.big.word

/-- The register values in some bytes. -/
def wordsOfBytes : Bytes → List UInt16
  | high :: low :: rest => UInt16.ofNat (ByteOrder.big.read [high, low]) :: wordsOfBytes rest
  | _ => []

/-- The register values that were turned into bytes come back. -/
@[simp] theorem wordsOfBytes_bytesOfWords (words : List UInt16) :
    wordsOfBytes (bytesOfWords words) = words := by
  induction words with
  | nil => rfl
  | cons word words ih =>
    have taken := takeWord_append .big word (bytesOfWords words)
    have length := ByteOrder.big.length_word word
    rw [bytesOfWords, List.flatMap_cons, ← bytesOfWords]
    match spelled : ByteOrder.big.word word, length with
    | [high, low], _ =>
      rw [spelled] at taken
      simp only [List.cons_append, List.nil_append, takeWord, Except.ok.injEq, Prod.mk.injEq,
        and_true] at taken
      simp only [List.cons_append, List.nil_append, wordsOfBytes, taken, ih]

end ModbusTcp
