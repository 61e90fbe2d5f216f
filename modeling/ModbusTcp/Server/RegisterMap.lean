import ModbusTcp.Packet.Limits
import ModbusTcp.Packet.Words
import ModbusTcp.Server.Service
import Std.Data.HashMap

/-!
# Register maps

The simplest service: some addresses are populated and hold a word each.  Requests read and write them;
they cannot populate further addresses, and one that is refused changes nothing.

* `RegisterMap.get?`, `RegisterMap.set`, `RegisterMap.populate` — the words in the map.
* `RegisterMap.read`, `RegisterMap.write` — what requests do.
* `RegisterMap.service` — the service.
-/

namespace ModbusTcp

/-- The populated addresses and the words they hold. -/
structure RegisterMap where
  words : Std.HashMap UInt16 UInt16 := ∅

namespace RegisterMap

/-- The word at an address. -/
def get? (map : RegisterMap) (address : UInt16) : Option UInt16 := map.words[address]?

/-- Populates an address with a word, or replaces the word that it holds. -/
def set (map : RegisterMap) (address word : UInt16) : RegisterMap := ⟨map.words.insert address word⟩

/-- As many consecutive addresses, unless they go beyond the last one. -/
def range? (start : UInt16) (count : Nat) : Option (List UInt16) :=
  if start.toNat + count ≤ 65536 then
    some ((List.range count).map fun offset => UInt16.ofNat (start.toNat + offset))
  else none

/-- Writes words one after the other. -/
def setAll (map : RegisterMap) : List UInt16 → List UInt16 → RegisterMap
  | address :: addresses, word :: words => (map.set address word).setAll addresses words
  | _, _ => map

/-- Populates consecutive addresses; words that would lie beyond the last address are dropped. -/
def populate (map : RegisterMap) (start : UInt16) (words : List UInt16) : RegisterMap :=
  let words := words.take (65536 - start.toNat)
  map.setAll ((range? start words.length).getD []) words

/-- The words at consecutive addresses, which all have to be populated. -/
def read (map : RegisterMap) (start : UInt16) (count : Nat) : Except ExceptionCode (List UInt16) :=
  if count = 0 ∨ maxReadRegisters < count then .error .illegalDataValue
  else
    match (range? start count).bind fun addresses => addresses.mapM map.get? with
    | some words => .ok words
    | none => .error .illegalDataAddress

/-- Replaces the words at consecutive addresses, which all have to be populated. -/
def write (map : RegisterMap) (start : UInt16) (words : List UInt16) :
    Except ExceptionCode RegisterMap :=
  if words.isEmpty ∨ maxWriteRegisters < words.length then .error .illegalDataValue
  else
    match range? start words.length with
    | some addresses =>
      if addresses.all fun address => (map.get? address).isSome then .ok (map.setAll addresses words)
      else .error .illegalDataAddress
    | none => .error .illegalDataAddress

/-- The answer to a request with a body, and the map afterwards. -/
def answer (map : RegisterMap) : Body → Except ExceptionCode (Body × RegisterMap)
  | .readRegisters start count => do
    let words ← map.read start count.toNat
    return (.registerValues (bytesOfWords words), map)
  | .writeRegister address value => do
    let map ← map.write address [value]
    return (.writeRegister address value, map)
  | .writeMultiple start values => do
    let map ← map.write start values
    return (.multipleWritten start (UInt16.ofNat values.length), map)
  | .registerValues .. | .multipleWritten .. | .exception .. => .error .illegalFunction

/-- The service of a register map, the same for every unit. -/
def service : Service RegisterMap := fun request map =>
  match request.payload with
  | .body content =>
    match map.answer content with
    | .ok (content, map) => (.ok (.body content), map)
    | .error code => (.error code, map)
  | .bare _ | .carry .. => (.error .illegalFunction, map)

end RegisterMap

end ModbusTcp
