import ModbusTcp.Decimal.Binary

/-!
# The shortest decimal of a float

Many decimals read back as the same float.  A float is shown by one with the fewest digits, and of
those by the one nearest to it.  The search is exact: the reals that round to a magnitude form an
interval around it, and for each number of digits only the two decimals next to the magnitude can lie
in it first.

* `Magnitude.shortest` — the digits and the power of ten of the shortest decimal.
* `Decimal.positional` — a decimal written out without an exponent.
* `FloatFormat.text` — the text of a float.
-/

namespace ModbusTcp

/-- A natural number times a power of ten. -/
structure Decimal where
  digits : Nat
  exponent : Int
deriving DecidableEq, Repr

namespace Decimal

/-- How many decimal digits a natural number has; zero has none. -/
def digitCount (value : Nat) : Nat := if value = 0 then 0 else (Nat.toDigits 10 value).length

/-- The digits of a fraction without zeros at the end. -/
def trimZeros (digits : List Char) : List Char :=
  (digits.reverse.dropWhile (· = '0')).reverse

/-- The decimal written out: no exponent, and no point where there is no fraction. -/
def positional (decimal : Decimal) : String :=
  let digits := Nat.toDigits 10 decimal.digits
  match decimal.exponent with
  | .ofNat zeros => String.ofList (digits ++ if decimal.digits = 0 then [] else List.replicate zeros '0')
  | .negSucc places =>
    let padded := List.replicate (places + 2 - digits.length) '0' ++ digits
    let whole := padded.take (padded.length - (places + 1))
    let fraction := trimZeros (padded.drop (padded.length - (places + 1)))
    String.ofList (if fraction.isEmpty then whole else whole ++ '.' :: fraction)

end Decimal

/-! ### The interval of a magnitude -/

/-- The reals that round to a magnitude, as fractions over one denominator.  The ends belong to them
if the significand is even. -/
structure RoundingInterval where
  low : Nat
  value : Nat
  high : Nat
  denominator : Nat
  closed : Bool
deriving DecidableEq, Repr

namespace RoundingInterval

/-- A fraction lies in the interval. -/
def holds (interval : RoundingInterval) (numerator denominator : Nat) : Bool :=
  let left := interval.low * denominator
  let middle := numerator * interval.denominator
  let right := interval.high * denominator
  if interval.closed then left ≤ middle && middle ≤ right else left < middle && middle < right

/-- The power of ten that is next above the value: it is larger, and a tenth of it is not. -/
def magnitudeOfTen (interval : RoundingInterval) : Int :=
  if interval.denominator ≤ interval.value then
    Decimal.digitCount (interval.value / interval.denominator)
  else
    1 - (Decimal.digitCount ((interval.denominator - 1) / interval.value) : Int)

/-- The decimal with so many digits that lies in the interval, if there is one; of two the nearer to
the value, and the larger if both are as near. -/
def onGrid (interval : RoundingInterval) (digits : Nat) : Option Decimal :=
  let exponent := interval.magnitudeOfTen - digits
  let above := 10 ^ exponent.toNat
  let below := 10 ^ (-exponent).toNat
  let unit := above * interval.denominator
  let scaled := interval.value * below
  let floor := scaled / unit
  let nearer := if 2 * (scaled % unit) < unit then floor else floor + 1
  match interval.holds (floor * above) below, interval.holds ((floor + 1) * above) below with
  | true, true => some ⟨nearer, exponent⟩
  | true, false => some ⟨floor, exponent⟩
  | false, true => some ⟨floor + 1, exponent⟩
  | false, false => none

end RoundingInterval

namespace Magnitude

/-- The reals that round to a magnitude. -/
def interval (magnitude : Magnitude) : RoundingInterval :=
  let scale := magnitude.exponent - 2
  let numerator := 2 ^ scale.toNat
  { low := (4 * magnitude.significand - if magnitude.isBoundary then 1 else 2) * numerator
    value := 4 * magnitude.significand * numerator
    high := (4 * magnitude.significand + 2) * numerator
    denominator := 2 ^ (-scale).toNat
    closed := magnitude.significand % 2 = 0 }

/-- The shortest decimal that rounds to the magnitude.  Seventeen digits are enough for every float of
64 bits. -/
def shortest (magnitude : Magnitude) : Decimal :=
  if magnitude.significand = 0 then ⟨0, 0⟩
  else
    ((List.range 17).findSome? fun fewer => magnitude.interval.onGrid (fewer + 1)).getD ⟨0, 0⟩

end Magnitude

/-- The text of a float: its shortest decimal, written out. -/
def FloatFormat.text (format : FloatFormat) (bits : Nat) : String :=
  match format.decode bits with
  | .notANumber => "NaN"
  | .infinite negative => if negative then "-inf" else "inf"
  | .finite negative magnitude => (if negative then "-" else "") ++ magnitude.shortest.positional

end ModbusTcp
