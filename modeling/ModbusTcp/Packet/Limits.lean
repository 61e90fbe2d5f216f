import ModbusTcp.Error

/-!
# Limits of a request

One PDU reads at most 125 registers and writes at most 123, and it transfers at least one.

* `checkCount` — a count of registers against its limit.
* `Pdu.checkLimits` — the counts in a PDU; an answer may hold no values at all.
-/

namespace ModbusTcp

/-- The most registers that one request reads. -/
def maxReadRegisters : Nat := 0x7D

/-- The most registers that one request writes. -/
def maxWriteRegisters : Nat := 0x7B

/-- The most registers that the definitions of one request may span. -/
def maxDefinitionSpan : Nat := 0x7B

/-- A count of registers lies between one and its limit. -/
def checkCount (count max : Nat) : Except ProtocolError Unit :=
  if count = 0 then .error .emptySpan
  else if max < count then .error (.spanTooLarge count max)
  else .ok ()

/-- The counts in a PDU keep their limits. -/
def Pdu.checkLimits (pdu : Pdu) : Except ProtocolError Unit :=
  match pdu.payload with
  | some (.body (.readRegisters _ count)) => checkCount count.toNat maxReadRegisters
  | some (.body (.writeMultiple _ values)) => checkCount values.length maxWriteRegisters
  | some (.body (.registerValues bytes)) =>
    let count := (bytes.length + 1) / 2
    if maxReadRegisters < count then .error (.spanTooLarge count maxReadRegisters) else .ok ()
  | _ => .ok ()

/-- A count is accepted exactly between one and its limit. -/
theorem checkCount_eq_ok_iff {count max : Nat} :
    checkCount count max = .ok () ↔ 1 ≤ count ∧ count ≤ max := by
  unfold checkCount
  split
  · simp; omega
  · split
    · simp; omega
    · simp; omega

end ModbusTcp
