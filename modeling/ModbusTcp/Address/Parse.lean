import ModbusTcp.Address
import ModbusTcp.Text.Digits

/-!
# Reading addresses

An IPv4 address is four decimal octets without superfluous zeros.  An IPv6 address is eight groups of up
to four hexadecimal digits; one `::` stands for at least one group of zeros, and the last two groups can
be written as an IPv4 address.

* `IpAddress.parse?` — reads the text of an address, all of it.
* `IpAddress.parsePrefixLength?` — reads the number of leading bits of a network.
* `Endpoint.parse?` — reads the text of an address and a port.
-/

namespace ModbusTcp

namespace IpAddress

/-- An octet: one to three digits, no zero in front of others, at most 255. -/
def takeOctet (chars : List Char) : Option (UInt8 × List Char) :=
  let (digits, rest) := Digits.take 10 chars
  let value := Digits.toNat 10 digits
  if digits.isEmpty ∨ 3 < digits.length ∨ 255 < value then none
  else if digits.head? = some 0 ∧ 1 < digits.length then none
  else some (UInt8.ofNat value, rest)

/-- A character that has to follow. -/
def takeChar (expected : Char) : List Char → Option (List Char)
  | char :: rest => if char = expected then some rest else none
  | [] => none

/-- Four octets with points between them. -/
def takeV4 (chars : List Char) : Option (BitVec 32 × List Char) := do
  let (first, rest) ← takeOctet chars
  let (second, rest) ← takeChar '.' rest >>= takeOctet
  let (third, rest) ← takeChar '.' rest >>= takeOctet
  let (fourth, rest) ← takeChar '.' rest >>= takeOctet
  return (ofOctets first second third fourth, rest)

/-- A group: one to four hexadecimal digits. -/
def takeGroup (chars : List Char) : Option (Nat × List Char) :=
  let (digits, rest) := Digits.take 16 chars
  if digits.isEmpty ∨ 4 < digits.length then none else some (Digits.toNat 16 digits, rest)

/-- Groups that have been read, whether an IPv4 address was among them, and what follows. -/
structure Groups where
  values : List Nat
  endsInV4 : Bool
  rest : List Char

/-- The colon between two groups; none stands before the first. -/
def takeColon (isFirst : Bool) (chars : List Char) : Option (List Char) :=
  if isFirst then some chars else takeChar ':' chars

/-- The next group, or an IPv4 address in place of the next two, where there is room for so many. -/
def takeGroups (isFirst : Bool) : Nat → List Char → Groups
  | 0, chars => ⟨[], false, chars⟩
  | room + 1, chars =>
    let v4? := if room = 0 then none else takeColon isFirst chars >>= takeV4
    match v4? with
    | some (bits, rest) =>
      ⟨[(bits.extractLsb' 16 16).toNat, (bits.extractLsb' 0 16).toNat], true, rest⟩
    | none =>
      match takeColon isFirst chars >>= takeGroup with
      | some (group, rest) =>
        let others := takeGroups false room rest
        { others with values := group :: others.values }
      | none => ⟨[], false, chars⟩

/-- Eight groups, or fewer with `::` in place of the missing ones. -/
def takeV6 (chars : List Char) : Option (BitVec 128 × List Char) :=
  let front := takeGroups true 8 chars
  let found := front.values.length
  if found = 8 then some (ofGroups front.values, front.rest)
  else if front.endsInV4 then none
  else do
    let rest ← takeChar ':' front.rest >>= takeChar ':'
    let back := takeGroups true (7 - found) rest
    let zeros := List.replicate (8 - found - back.values.length) 0
    return (ofGroups (front.values ++ zeros ++ back.values), back.rest)

/-- Reads the text of an address, all of it. -/
def parse? (chars : List Char) : Option IpAddress :=
  match takeV4 chars with
  | some (bits, []) => some (.v4 bits)
  | some (_, _ :: _) => none
  | none =>
    match takeV6 chars with
    | some (bits, []) => some (.v6 bits)
    | _ => none

/-- Reads a number of leading bits: decimal digits, perhaps with a plus sign, at most 255. -/
def parsePrefixLength? (chars : List Char) : Option Nat :=
  let unsigned := if chars.head? = some '+' then chars.drop 1 else chars
  let (digits, rest) := Digits.take 10 unsigned
  let value := Digits.toNat 10 digits
  if digits.isEmpty ∨ ¬rest.isEmpty ∨ 255 < value then none else some value

/-- Reads a port: decimal digits, at most 65535. -/
def parsePort? (chars : List Char) : Option UInt16 :=
  let (digits, rest) := Digits.take 10 chars
  let value := Digits.toNat 10 digits
  if digits.isEmpty ∨ ¬rest.isEmpty ∨ 65535 < value then none else some (UInt16.ofNat value)

end IpAddress

open IpAddress in
/-- Reads the text of an endpoint: an IPv4 address or an IPv6 address in brackets, a colon and a port. -/
def Endpoint.parse? (chars : List Char) : Option Endpoint :=
  match takeV4 chars with
  | some (bits, rest) => do
    let port ← takeChar ':' rest >>= parsePort?
    return ⟨.v4 bits, port⟩
  | none => do
    let (bits, rest) ← takeChar '[' chars >>= takeV6
    let port ← takeChar ']' rest >>= takeChar ':' >>= parsePort?
    return ⟨.v6 bits, port⟩

end ModbusTcp
