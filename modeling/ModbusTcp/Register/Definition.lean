import ModbusTcp.Register
import ModbusTcp.Text.Hex

/-!
# Register definitions

A definition gives registers a place, a name and a meaning.

* `Definition.stop`, `Definition.byteLength` — where the registers end, and how many bytes they hold.
* `Definition.describe` — the value in words, scaled by the gain if it is a number.
-/

namespace ModbusTcp

/-- Consecutive registers that belong together. -/
structure Definition where
  label : String
  address : UInt16
  count : UInt8
  unit : Option String := none
  gain : Float := 1
  readable : Bool := true
  writable : Bool := false
  register : Register

namespace Definition

/-- The address behind the last register, which can lie beyond the last address. -/
def stop (definition : Definition) : Nat := definition.address.toNat + definition.count.toNat

/-- How many bytes the registers hold. -/
def byteLength (definition : Definition) : Nat := 2 * definition.count.toNat

/-- The value times the gain, if it is a number. -/
def scaled? (definition : Definition) : Option Float :=
  definition.register.toFloat?.map (· * definition.gain)

/-- The address, the label and the value in words. -/
def describe (definition : Definition) : String :=
  let value :=
    match definition.scaled? with
    | some value => FloatFormat.binary64.text value.toBits.toNat
    | none => definition.register.describe
  "0x" ++ Hex.upper 4 definition.address.toNat ++ " " ++ definition.label ++ ": " ++ value ++
    (definition.unit.map (" " ++ ·)).getD ""

end Definition

end ModbusTcp
