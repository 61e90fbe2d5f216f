import ModbusTcp.Text.Hex

/-!
# Internet addresses

An address has 32 or 128 bits.  Its text is the usual one: four decimal octets, or eight hexadecimal
groups of which the longest run of zeros may be left out.

* `IpAddress` — the two families; `IpAddress.canonical` turns an IPv4 address that is written as an
  IPv6 one into the IPv4 address it stands for.
* `IpAddress.text` — the text of an address; `Endpoint.text` that of an address and a port.
-/

namespace ModbusTcp

/-- An IPv4 or IPv6 address. -/
inductive IpAddress where
  | v4 (bits : BitVec 32)
  | v6 (bits : BitVec 128)
deriving DecidableEq, Repr

namespace IpAddress

/-- How many bits the addresses of the family have. -/
def width : IpAddress → Nat
  | .v4 _ => 32
  | .v6 _ => 128

/-- The IPv4 address with these octets. -/
def ofOctets (first second third fourth : UInt8) : BitVec 32 :=
  first.toBitVec ++ second.toBitVec ++ third.toBitVec ++ fourth.toBitVec

/-- The four octets of an IPv4 address. -/
def octets (bits : BitVec 32) : List Nat :=
  [24, 16, 8, 0].map fun low => (bits.extractLsb' low 8).toNat

/-- The IPv6 address with these groups, of which there should be eight. -/
def ofGroups (groups : List Nat) : BitVec 128 :=
  groups.foldl (fun bits group => bits <<< 16 ||| BitVec.ofNat 128 (group % 65536)) 0

/-- The eight groups of an IPv6 address. -/
def groups (bits : BitVec 128) : List Nat :=
  [112, 96, 80, 64, 48, 32, 16, 0].map fun low => (bits.extractLsb' low 16).toNat

/-- The IPv4 address that an IPv6 address stands for, if it is such an address. -/
def mapped? (bits : BitVec 128) : Option (BitVec 32) :=
  if bits.extractLsb' 32 96 = 0xFFFF#96 then some (bits.extractLsb' 0 32) else none

/-- The address as a member of the family it really belongs to. -/
def canonical : IpAddress → IpAddress
  | .v4 bits => .v4 bits
  | .v6 bits =>
    match mapped? bits with
    | some bits => .v4 bits
    | none => .v6 bits

/-! ### Text -/

/-- Four decimal octets. -/
def textV4 (bits : BitVec 32) : String := ".".intercalate ((octets bits).map toString)

/-- Groups in hexadecimal. -/
def textGroups (groups : List Nat) : String := ":".intercalate (groups.map (Hex.lower 1))

/-- A run of zeros among the groups: where it starts and how long it is. -/
structure ZeroRun where
  start : Nat
  length : Nat
deriving DecidableEq, Repr

/-- The longest run of zeros from a position on, the first of several, given the run that ends there
and the longest one before. -/
def longestFrom (position : Nat) (current best : ZeroRun) : List Nat → ZeroRun
  | [] => best
  | group :: others =>
    if group = 0 then
      let current : ZeroRun :=
        ⟨if current.length = 0 then position else current.start, current.length + 1⟩
      longestFrom (position + 1) current (if best.length < current.length then current else best) others
    else longestFrom (position + 1) ⟨0, 0⟩ best others

/-- The longest run of zeros among the groups, the first of several. -/
def longestZeroRun (groups : List Nat) : ZeroRun := longestFrom 0 ⟨0, 0⟩ ⟨0, 0⟩ groups

/-- Eight groups, of which the longest run of at least two zeros is left out; an IPv4 address in this
form keeps its octets. -/
def textV6 (bits : BitVec 128) : String :=
  match mapped? bits with
  | some bits => "::ffff:" ++ textV4 bits
  | none =>
    let groups := groups bits
    let run := longestZeroRun groups
    if 1 < run.length then
      textGroups (groups.take run.start) ++ "::" ++ textGroups (groups.drop (run.start + run.length))
    else textGroups groups

/-- The text of an address. -/
def text : IpAddress → String
  | .v4 bits => textV4 bits
  | .v6 bits => textV6 bits

end IpAddress

/-- An address and a port. -/
structure Endpoint where
  address : IpAddress
  port : UInt16
deriving DecidableEq, Repr

/-- The text of an endpoint; an IPv6 address stands in brackets. -/
def Endpoint.text (endpoint : Endpoint) : String :=
  match endpoint.address with
  | .v4 bits => IpAddress.textV4 bits ++ ":" ++ toString endpoint.port.toNat
  | .v6 bits => "[" ++ IpAddress.textV6 bits ++ "]:" ++ toString endpoint.port.toNat

end ModbusTcp
