import ModbusTcp.Server.RegisterMap

/-!
# Register maps as partial functions

What a register map holds is a word at each of some addresses.  Reading and writing consecutive
registers can be told from that alone.

* `Registers` — a word at each of some addresses; `RegisterMap.get?` is what a map holds.
* `Registers.words?`, `Registers.replace` — the words at consecutive addresses, and other words in
  their place.
* `RegisterMap.read_eq`, `RegisterMap.exists_write_eq` — what a map does in these terms.
* `Registers.isSome_words?_iff_populated`, `Registers.words?_among` — where words are found, and which.
* `Registers.words?_replace` — words that have been written are read back.
* `RegisterMap.answer_readRegisters`, `RegisterMap.exists_answer_writeMultiple` — what the service says.
-/

namespace ModbusTcp

/-- A word at each of some addresses. -/
abbrev Registers := UInt16 → Option UInt16

/-! ### Lists of options -/

/-- A list of results is there if each of them is. -/
theorem mapM_eq_some_iff {α β : Type} {f : α → Option β} {items : List α} {results : List β} :
    items.mapM f = some results ↔ items.map f = results.map some := by
  induction items generalizing results with
  | nil => cases results <;> simp
  | cons item items ih =>
    rw [List.mapM_cons]
    cases results with
    | nil => cases f item <;> cases items.mapM f <;> simp
    | cons result results =>
      rw [List.map_cons, List.map_cons, List.cons.injEq, ← ih]
      cases f item <;> cases items.mapM f <;> simp

theorem isSome_mapM {α β : Type} {f : α → Option β} {items : List α} :
    (items.mapM f).isSome = items.all fun item => (f item).isSome := by
  induction items with
  | nil => rfl
  | cons item items ih =>
    rw [List.mapM_cons, List.all_cons, ← ih]
    cases f item <;> cases items.mapM f <;> rfl

/-! ### Consecutive registers -/

namespace Registers

/-- The address that lies so far behind another one. -/
def address (start : UInt16) (offset : Nat) : UInt16 := UInt16.ofNat (start.toNat + offset)

/-- The words at consecutive addresses, if there are so many and all of them hold one. -/
def words? (registers : Registers) (start : UInt16) (count : Nat) : Option (List UInt16) :=
  if start.toNat + count ≤ 65536 then
    (List.range count).mapM fun offset => registers (address start offset)
  else none

/-- Other words in the place of those at consecutive addresses. -/
def replace (registers : Registers) (start : UInt16) (words : List UInt16) : Registers := fun address =>
  if start.toNat ≤ address.toNat ∧ address.toNat < start.toNat + words.length then
    words[address.toNat - start.toNat]?
  else registers address

/-- The words at consecutive addresses are those that the addresses hold, each in its place. -/
theorem words?_eq_some_iff {registers : Registers} {start : UInt16} {count : Nat}
    {words : List UInt16} :
    registers.words? start count = some words ↔
      start.toNat + count ≤ 65536 ∧ words.length = count ∧
        ∀ offset < count, registers (address start offset) = words[offset]? := by
  rw [words?]
  split
  · rename_i room
    rw [mapM_eq_some_iff]
    constructor
    · intro same
      have length : words.length = count := by
        simpa using (congrArg List.length same).symm
      refine ⟨room, length, fun offset inside => ?_⟩
      have there := congrArg (·[offset]?) same
      simpa [inside, length] using there
    · rintro ⟨_, length, same⟩
      apply List.ext_getElem
      · simp [length]
      · intro offset inside _
        have inside : offset < count := by simpa using inside
        simpa [length, inside] using same offset inside
  · simp
    omega

/-- As many words are found as have been asked for. -/
theorem length_of_words? {registers : Registers} {start : UInt16} {count : Nat} {words : List UInt16}
    (found : registers.words? start count = some words) : words.length = count :=
  (words?_eq_some_iff.mp found).2.1

/-- Words are found exactly at addresses that lie in the address range and all hold one. -/
theorem isSome_words?_iff {registers : Registers} {start : UInt16} {count : Nat} :
    (registers.words? start count).isSome ↔
      start.toNat + count ≤ 65536 ∧ ∀ offset < count, (registers (address start offset)).isSome := by
  rw [words?]
  split
  · rename_i room
    rw [isSome_mapM, List.all_eq_true]
    simp only [List.mem_range, room, true_and]
  · rename_i beyond
    exact iff_of_false nofun fun within => beyond within.1

theorem toNat_address {start : UInt16} {offset : Nat} (inside : start.toNat + offset < 65536) :
    (address start offset).toNat = start.toNat + offset := by
  rw [address, UInt16.toNat_ofNat']
  exact Nat.mod_eq_of_lt inside

/-- Within the address range words are found exactly where every address holds one. -/
theorem isSome_words?_iff_populated {registers : Registers} {start : UInt16} {count : Nat}
    (room : start.toNat + count ≤ 65536) :
    (registers.words? start count).isSome ↔
      ∀ address : UInt16, start.toNat ≤ address.toNat → address.toNat < start.toNat + count →
        (registers address).isSome := by
  rw [isSome_words?_iff]
  constructor
  · rintro ⟨_, each⟩ other low high
    have same : address start (other.toNat - start.toNat) = other := by
      rw [address, Nat.add_sub_cancel' low, UInt16.ofNat_toNat]
    exact same ▸ each (other.toNat - start.toNat) (by omega)
  · intro populated
    refine ⟨room, fun offset inside => ?_⟩
    have position : (address start offset).toNat = start.toNat + offset := toNat_address (by omega)
    exact populated _ (by omega) (by omega)

/-- The words at addresses that lie among others are some of those at the others. -/
theorem words?_among {registers : Registers} {start inner : UInt16} {count few : Nat}
    {words : List UInt16} (found : registers.words? start count = some words)
    (low : start.toNat ≤ inner.toNat) (high : inner.toNat + few ≤ start.toNat + count) :
    registers.words? inner few = some ((words.drop (inner.toNat - start.toNat)).take few) := by
  obtain ⟨room, length, each⟩ := words?_eq_some_iff.mp found
  refine words?_eq_some_iff.mpr ⟨by omega, ?_, fun offset inside => ?_⟩
  · rw [List.length_take, List.length_drop]
    omega
  · have same : address inner offset = address start (inner.toNat - start.toNat + offset) := by
      rw [address, address, ← Nat.add_assoc, Nat.add_sub_cancel' low]
    rw [same, each _ (by omega), List.getElem?_take_of_lt inside, List.getElem?_drop]

/-- **Words that have been written are read back.** -/
theorem words?_replace (registers : Registers) {start : UInt16} {words : List UInt16}
    (room : start.toNat + words.length ≤ 65536) :
    (registers.replace start words).words? start words.length = some words := by
  refine words?_eq_some_iff.mpr ⟨room, rfl, fun offset inside => ?_⟩
  have position : (address start offset).toNat = start.toNat + offset := toNat_address (by omega)
  rw [replace, position, if_pos (by omega), Nat.add_sub_cancel_left]

end Registers

/-! ### Register maps -/

namespace RegisterMap

theorem get?_empty (address : UInt16) : get? {} address = none := by
  simp [get?]

theorem get?_set (map : RegisterMap) (address other word : UInt16) :
    (map.set address word).get? other = if address = other then some word else map.get? other := by
  simp [get?, set, Std.HashMap.getElem?_insert]

/-- Writing words one after the other puts them in the place of those at consecutive addresses. -/
theorem get?_setAll (map : RegisterMap) {start : Nat} (words : List UInt16)
    (room : start + words.length ≤ 65536) (address : UInt16) :
    (map.setAll ((List.range words.length).map fun offset => UInt16.ofNat (start + offset)) words).get?
        address =
      if start ≤ address.toNat ∧ address.toNat < start + words.length then
        words[address.toNat - start]?
      else map.get? address := by
  induction words generalizing map start with
  | nil =>
    rw [if_neg (by simp)]
    rfl
  | cons word words ih =>
    rw [List.length_cons] at room
    have shifted : (List.range (words.length + 1)).map (fun offset => UInt16.ofNat (start + offset)) =
        UInt16.ofNat start ::
          (List.range words.length).map fun offset => UInt16.ofNat (start + 1 + offset) := by
      rw [List.range_succ_eq_map, List.map_cons, List.map_map]
      refine congrArg (UInt16.ofNat start :: ·) (List.map_congr_left fun offset _ => ?_)
      rw [Function.comp_apply, Nat.succ_eq_add_one, Nat.add_right_comm, Nat.add_assoc]
    rw [List.length_cons, shifted, setAll, ih _ (by omega), get?_set]
    have here : UInt16.ofNat start = address ↔ start = address.toNat := by
      rw [← UInt16.toNat_inj, UInt16.toNat_ofNat']
      rw [Nat.mod_eq_of_lt (by omega)]
    by_cases first : start = address.toNat
    · rw [if_neg (by omega), if_pos (here.mpr first), if_pos (by omega), first, Nat.sub_self]
      rfl
    · rw [if_neg (mt here.mp first)]
      by_cases inside : start + 1 ≤ address.toNat ∧ address.toNat < start + 1 + words.length
      · rw [if_pos inside, if_pos (by omega), show address.toNat - start = address.toNat - (start + 1) + 1 by omega]
        rfl
      · rw [if_neg inside, if_neg (by omega)]

/-- Populating consecutive addresses. -/
theorem get?_populate (map : RegisterMap) {start : UInt16} {words : List UInt16}
    (room : start.toNat + words.length ≤ 65536) :
    (map.populate start words).get? = Registers.replace map.get? start words := by
  have all : words.take (65536 - start.toNat) = words := List.take_of_length_le (by omega)
  rw [populate, all, range?, if_pos room]
  exact funext (get?_setAll map words room)

/-- Every address that has been populated holds a word. -/
theorem isSome_get?_populate (map : RegisterMap) (start : UInt16) (words : List UInt16)
    (room : start.toNat + words.length ≤ 65536) {address : UInt16}
    (low : start.toNat ≤ address.toNat) (high : address.toNat < start.toNat + words.length) :
    ((map.populate start words).get? address).isSome := by
  have inside : address.toNat - start.toNat < words.length := by omega
  rw [get?_populate map room, Registers.replace, if_pos ⟨low, high⟩, List.getElem?_eq_getElem inside]
  rfl

/-- The words of a map at consecutive addresses. -/
theorem words?_eq (map : RegisterMap) (start : UInt16) (count : Nat) :
    Registers.words? map.get? start count =
      (range? start count).bind fun addresses => addresses.mapM map.get? := by
  rw [Registers.words?, range?]
  by_cases room : start.toNat + count ≤ 65536
  · rw [if_pos room, if_pos room, Option.bind_some, List.mapM_map]
    rfl
  · rw [if_neg room, if_neg room, Option.bind_none]

/-- What a map answers to reading consecutive registers. -/
theorem read_eq (map : RegisterMap) (start : UInt16) {count : Nat} (positive : 1 ≤ count)
    (few : count ≤ maxReadRegisters) :
    map.read start count =
      match Registers.words? map.get? start count with
      | some words => .ok words
      | none => .error .illegalDataAddress := by
  rw [words?_eq]
  exact if_neg (by omega)

section Write

variable {map : RegisterMap} {start : UInt16} {words : List UInt16}

theorem write_eq (positive : 1 ≤ words.length) (few : words.length ≤ maxWriteRegisters) :
    map.write start words =
      if (Registers.words? map.get? start words.length).isSome then
        .ok (map.setAll ((List.range words.length).map (Registers.address start)) words)
      else .error .illegalDataAddress := by
  have nonempty : ¬(words.isEmpty = true ∨ maxWriteRegisters < words.length) := by
    rw [List.isEmpty_iff_length_eq_zero]
    omega
  rw [write, if_neg nonempty, words?_eq, range?]
  by_cases room : start.toNat + words.length ≤ 65536
  · rw [if_pos room, Option.bind_some, isSome_mapM]
    rfl
  · rw [if_neg room]
    rfl

/-- Words at consecutive populated addresses can be replaced, and nothing else is. -/
theorem exists_write_eq (positive : 1 ≤ words.length) (few : words.length ≤ maxWriteRegisters)
    (populated : (Registers.words? map.get? start words.length).isSome) :
    ∃ written, map.write start words = .ok written ∧
      written.get? = Registers.replace map.get? start words := by
  refine ⟨_, by rw [write_eq positive few, if_pos populated], ?_⟩
  obtain ⟨found, same⟩ := Option.isSome_iff_exists.mp populated
  exact funext (get?_setAll map words (Registers.words?_eq_some_iff.mp same).1)

/-- Words cannot be written where not all addresses are populated. -/
theorem write_eq_error (positive : 1 ≤ words.length) (few : words.length ≤ maxWriteRegisters)
    (missing : Registers.words? map.get? start words.length = none) :
    map.write start words = .error .illegalDataAddress := by
  rw [write_eq positive few, missing]
  rfl

end Write

/-! ### The service -/

section Service

variable {map : RegisterMap} {start : UInt16}

/-- Registers that are populated can be read. -/
theorem answer_readRegisters {count : UInt16} {words : List UInt16} (positive : 1 ≤ count.toNat)
    (few : count.toNat ≤ maxReadRegisters)
    (found : Registers.words? map.get? start count.toNat = some words) :
    map.answer (.readRegisters start count) = .ok (.registerValues (bytesOfWords words), map) := by
  rw [answer, read_eq map start positive few, found]
  rfl

/-- Registers that are not all populated cannot be read. -/
theorem answer_readRegisters_eq_error {count : UInt16} (positive : 1 ≤ count.toNat)
    (few : count.toNat ≤ maxReadRegisters)
    (missing : Registers.words? map.get? start count.toNat = none) :
    map.answer (.readRegisters start count) = .error .illegalDataAddress := by
  rw [answer, read_eq map start positive few, missing]
  rfl

/-- Registers that are populated can be written. -/
theorem exists_answer_writeMultiple {words : List UInt16} (positive : 1 ≤ words.length)
    (few : words.length ≤ maxWriteRegisters)
    (populated : (Registers.words? map.get? start words.length).isSome) :
    ∃ written, map.answer (.writeMultiple start words) =
        .ok (.multipleWritten start (UInt16.ofNat words.length), written) ∧
      written.get? = Registers.replace map.get? start words := by
  obtain ⟨written, write, holds⟩ := exists_write_eq positive few populated
  refine ⟨written, ?_, holds⟩
  rw [answer, write]
  rfl

/-- The service of a map says what the map answers, whatever the unit and the function. -/
theorem service_eq_ok {content reply : Body} {next : RegisterMap}
    (answers : map.answer content = .ok (reply, next)) (unit : UInt8) (function : FunctionCode) :
    service ⟨unit, function, .body content⟩ map = (.ok (.body reply), next) := by
  simp only [service, answers]

/-- What the map refuses its service refuses, and nothing changes. -/
theorem service_eq_error {content : Body} {code : ExceptionCode}
    (refuses : map.answer content = .error code) (unit : UInt8) (function : FunctionCode) :
    service ⟨unit, function, .body content⟩ map = (.error code, map) := by
  simp only [service, refuses]

end Service

end RegisterMap

end ModbusTcp
