/-!
# Binary floating point values

The bits of a float, taken apart: a sign and a natural number times a power of two, or one of the values
that are no such number.  The format says how many bits the fraction and the exponent have.

* `FloatFormat.decode` — from bits to a value; `FloatFormat.binary32`, `FloatFormat.binary64`.
-/

-- A power of numbers is the core one everywhere, also where Mathlib has brought in its own.
attribute [instance (high), default_instance (high + 1)] instPowNat

namespace ModbusTcp

/-- How many bits the fields of a float have. -/
structure FloatFormat where
  fractionBits : Nat
  exponentBits : Nat
deriving DecidableEq, Repr

/-- A natural number times a power of two.  It is a boundary if the next smaller float is only half as
far away as the next larger one. -/
structure Magnitude where
  significand : Nat
  exponent : Int
  isBoundary : Bool
deriving DecidableEq, Repr

/-- What the bits of a float stand for. -/
inductive FloatValue where
  | notANumber
  | infinite (negative : Bool)
  | finite (negative : Bool) (magnitude : Magnitude)
deriving DecidableEq, Repr

namespace FloatFormat

/-- Floats of 32 bits. -/
def binary32 : FloatFormat := ⟨23, 8⟩

/-- Floats of 64 bits. -/
def binary64 : FloatFormat := ⟨52, 11⟩

/-- The value that the bits of a float stand for. -/
def decode (format : FloatFormat) (bits : Nat) : FloatValue :=
  let fraction := bits % 2 ^ format.fractionBits
  let exponent := bits / 2 ^ format.fractionBits % 2 ^ format.exponentBits
  let negative := bits / 2 ^ (format.fractionBits + format.exponentBits) % 2 = 1
  let least : Int := 2 - 2 ^ (format.exponentBits - 1) - format.fractionBits
  if exponent = 2 ^ format.exponentBits - 1 then
    if fraction = 0 then .infinite negative else .notANumber
  else if exponent = 0 then .finite negative ⟨fraction, least, false⟩
  else
    .finite negative
      ⟨2 ^ format.fractionBits + fraction, least + (exponent - 1 : Nat), fraction = 0 && 1 < exponent⟩

end FloatFormat

end ModbusTcp
