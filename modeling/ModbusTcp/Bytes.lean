/-!
# Bytes and byte orders

Everything on the wire is a list of bytes.  A number of a given width is written through one pair of
functions, whatever its meaning: `ByteOrder.write` spells the low bytes of a natural number and
`ByteOrder.read` is the number that bytes spell.  The big end first spelling is the reverse of the
little end first spelling, so the two orders differ in nothing else.

* `ByteOrder.length_write` — a number takes as many bytes as its width says.
* `ByteOrder.read_write` — reading what was written gives the number, cut to its width.
* `ByteOrder.write_read` — writing what was read gives the bytes back.
-/

-- A power of numbers is the core one everywhere, also where Mathlib has brought in its own.
attribute [instance (high), default_instance (high + 1)] instPowNat

namespace ModbusTcp

/-- What is sent over a connection, or stored in a buffer. -/
abbrev Bytes := List UInt8

/-- The order in which the bytes of a number appear on the wire. -/
inductive ByteOrder where
  | big
  | little
deriving DecidableEq, Repr, Inhabited

namespace ByteOrder

/-- The order in which the processor that runs the program stores numbers. -/
def host : ByteOrder := .little

/-- Numbers have to be reversed between the processor and a wire of the other order. -/
def requiresSwap (order : ByteOrder) : Bool := order ≠ host

/-- The low `width` bytes of a number, least significant byte first. -/
def ascending : Nat → Nat → Bytes
  | 0, _ => []
  | width + 1, value => UInt8.ofNat value :: ascending width (value / 256)

/-- The number that bytes spell, least significant byte first. -/
def ascendingValue : Bytes → Nat
  | [] => 0
  | byte :: rest => byte.toNat + 256 * ascendingValue rest

/-- The low `width` bytes of a number in the given order. -/
def write (order : ByteOrder) (width value : Nat) : Bytes :=
  match order with
  | .little => ascending width value
  | .big => (ascending width value).reverse

/-- The number that bytes spell in the given order. -/
def read (order : ByteOrder) (bytes : Bytes) : Nat :=
  match order with
  | .little => ascendingValue bytes
  | .big => ascendingValue bytes.reverse

/-! ### Laws -/

theorem length_ascending (width value : Nat) : (ascending width value).length = width := by
  induction width generalizing value with
  | zero => rfl
  | succ width ih => simp [ascending, ih]

theorem ascendingValue_ascending (width value : Nat) :
    ascendingValue (ascending width value) = value % 256 ^ width := by
  induction width generalizing value with
  | zero => simp [ascending, ascendingValue, Nat.mod_one]
  | succ width ih =>
    have head : (UInt8.ofNat value).toNat = value % 256 := by simp
    rw [ascending, ascendingValue, ih, head, Nat.pow_succ, Nat.mul_comm (256 ^ width) 256, Nat.mod_mul]

theorem ascendingValue_lt (bytes : Bytes) : ascendingValue bytes < 256 ^ bytes.length := by
  induction bytes with
  | nil => simp [ascendingValue]
  | cons byte rest ih =>
    have := byte.toNat_lt
    rw [ascendingValue, List.length_cons, Nat.pow_succ]
    omega

theorem ascending_ascendingValue (bytes : Bytes) :
    ascending bytes.length (ascendingValue bytes) = bytes := by
  induction bytes with
  | nil => rfl
  | cons byte rest ih =>
    have bound := byte.toNat_lt
    have low : UInt8.ofNat (byte.toNat + 256 * ascendingValue rest) = byte := by
      apply UInt8.toNat_inj.mp
      simp
    have high : (byte.toNat + 256 * ascendingValue rest) / 256 = ascendingValue rest := by omega
    rw [ascendingValue, List.length_cons, ascending, low, high, ih]

@[simp] theorem length_write (order : ByteOrder) (width value : Nat) :
    (order.write width value).length = width := by
  cases order <;> simp [write, length_ascending]

/-- Reading what was written gives the number, cut to its width. -/
theorem read_write (order : ByteOrder) (width value : Nat) :
    order.read (order.write width value) = value % 256 ^ width := by
  cases order <;> simp [read, write, ascendingValue_ascending]

theorem read_lt (order : ByteOrder) (bytes : Bytes) : order.read bytes < 256 ^ bytes.length := by
  cases order
  · simpa [read] using ascendingValue_lt bytes.reverse
  · exact ascendingValue_lt bytes

/-- Writing what was read gives the bytes back. -/
theorem write_read (order : ByteOrder) (bytes : Bytes) :
    order.write bytes.length (order.read bytes) = bytes := by
  cases order
  · have := ascending_ascendingValue bytes.reverse
    rw [List.length_reverse] at this
    simp [write, read, this]
  · exact ascending_ascendingValue bytes

end ByteOrder

end ModbusTcp
