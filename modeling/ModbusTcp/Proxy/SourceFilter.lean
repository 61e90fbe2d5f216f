import ModbusTcp.Address.Parse
import ModbusTcp.Error
import ModbusTcp.Text.Blank

/-!
# Source filters

A filter names a network by an address and how many of its leading bits count.

* `SourceFilter.contains` — the peers from that network; an IPv4 peer counts as such even if its
  address is written as an IPv6 one.
* `SourceFilter.parse`, `SourceFilter.text` — the text of a filter.
-/

namespace ModbusTcp

/-- A network: an address and the number of its leading bits that count. -/
structure SourceFilter where
  network : IpAddress
  prefixLength : Nat
deriving DecidableEq, Repr

namespace SourceFilter

/-- A mask that keeps so many leading bits. -/
def mask (width kept : Nat) : BitVec width := BitVec.allOnes width <<< (width - kept)

/-- No more leading bits count than the address has. -/
def validate (filter : SourceFilter) : Except ConfigError Unit :=
  if filter.network.width < filter.prefixLength then
    .error (.networkTooLong filter.prefixLength filter.network.width)
  else .ok ()

/-- A filter whose number of leading bits has been checked. -/
def ofNetwork (network : IpAddress) (prefixLength : Nat) : Except ConfigError SourceFilter := do
  let filter : SourceFilter := ⟨network, prefixLength⟩
  filter.validate
  return filter

/-- The peer comes from the network. -/
def contains (filter : SourceFilter) (peer : IpAddress) : Bool :=
  match filter.network, peer.canonical with
  | .v4 network, .v4 peer =>
    network &&& mask 32 filter.prefixLength = peer &&& mask 32 filter.prefixLength
  | .v6 network, .v6 peer =>
    network &&& mask 128 filter.prefixLength = peer &&& mask 128 filter.prefixLength
  | _, _ => false

/-- The text of a filter. -/
def text (filter : SourceFilter) : String :=
  filter.network.text ++ "/" ++ toString filter.prefixLength

/-- The characters in front of the first slash, and those behind it. -/
def splitSlash : List Char → List Char × Option (List Char)
  | [] => ([], none)
  | char :: rest =>
    if char = '/' then ([], some rest)
    else
      let (front, back) := splitSlash rest
      (char :: front, back)

theorem splitSlash_of_not_mem {chars : List Char} (bare : '/' ∉ chars) : splitSlash chars = (chars, none) := by
  induction chars with
  | nil => rfl
  | cons char rest ih =>
    rw [splitSlash, if_neg (List.ne_of_not_mem_cons bare).symm, ih (List.not_mem_of_not_mem_cons bare)]

theorem splitSlash_append {front : List Char} (bare : '/' ∉ front) (back : List Char) :
    splitSlash (front ++ '/' :: back) = (front, some back) := by
  induction front with
  | nil => rfl
  | cons char rest ih =>
    rw [List.cons_append, splitSlash, if_neg (List.ne_of_not_mem_cons bare).symm,
      ih (List.not_mem_of_not_mem_cons bare)]

/-- Reads the text of a filter: an address, and after a slash how many leading bits count.  Without the
second part all of them do.  Blanks around the parts do not matter. -/
def parse (text : String) : Except ConfigError SourceFilter := do
  let invalid := ConfigError.invalidSource text
  let (front, back) := splitSlash text.toList
  let network ← (IpAddress.parse? (trimBlanks front)).elim (.error invalid) .ok
  match back with
  | none => ofNetwork network network.width
  | some back =>
    let prefixLength ← (IpAddress.parsePrefixLength? (trimBlanks back)).elim (.error invalid) .ok
    ofNetwork network prefixLength

end SourceFilter

end ModbusTcp
