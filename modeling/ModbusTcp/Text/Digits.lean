/-!
# Digits

The digits of a base up to sixteen, and the numbers that they spell.

* `Digits.value?` — the value of a digit.
* `Digits.take` — the digits at the front of a text.
* `Digits.toNat` — the number that digits spell.
-/

namespace ModbusTcp.Digits

/-- The value of a digit in a base up to sixteen. -/
def value? (base : Nat) (char : Char) : Option Nat :=
  let value? :=
    if char.isDigit then some (char.toNat - '0'.toNat)
    else if 'a' ≤ char ∧ char ≤ 'f' then some (char.toNat - 'a'.toNat + 10)
    else if 'A' ≤ char ∧ char ≤ 'F' then some (char.toNat - 'A'.toNat + 10)
    else none
  value?.filter (· < base)

/-- The digits at the front of some characters, and what follows them. -/
def take (base : Nat) : List Char → List Nat × List Char
  | [] => ([], [])
  | char :: rest =>
    match value? base char with
    | some value =>
      let (values, rest) := take base rest
      (value :: values, rest)
    | none => ([], char :: rest)

/-- The number that digits spell. -/
def toNat (base : Nat) (digits : List Nat) : Nat :=
  digits.foldl (fun value digit => base * value + digit) 0

end ModbusTcp.Digits
