import ModbusTcp.Proofs.Server.Dialogue
import ModbusTcp.Proofs.Server.RegisterMap

/-!
# The history of a register map

Requests come to a register map one after the other.  Each of them either does all that it asks for or
nothing at all, and what the map holds at any time can be told from its history: at each address stands
the word that was written there last.

* `Registers.storeAll`, `Registers.latest` — words are put at their addresses one at a time; the last
  word that was put at each address.
* `Access`, `Packet.access` — what a request wants of consecutive registers.
* `Access.Obeyed` — what is to come of it, for every kind of access.
* `RegisterMap.service_obeyed` — one request; `RegisterMap.isSome_get?_service` — it populates nothing.
* `RegisterMap.writes`, `RegisterMap.written`, `RegisterMap.get?_after` — the words that a request and a
  history have written.
* **`RegisterMap.service_after_history`** — a register map is an atomic map with a fixed domain.
-/

namespace ModbusTcp

/-! ### Words one at a time -/

namespace Registers

/-- A word is put at an address. -/
def store (registers : Registers) (entry : UInt16 × UInt16) : Registers := fun address =>
  if entry.1 = address then some entry.2 else registers address

/-- Words are put at their addresses, one at a time. -/
def storeAll (registers : Registers) (entries : List (UInt16 × UInt16)) : Registers :=
  entries.foldl store registers

/-- The word that was put last at an address, or else the one that has always been there. -/
def latest (registers : Registers) (entries : List (UInt16 × UInt16)) : Registers := fun address =>
  ((entries.reverse.find? fun entry => entry.1 = address).map (·.2)).or (registers address)

/-- Words with the consecutive addresses that they are meant for. -/
def entries (start : UInt16) (words : List UInt16) : List (UInt16 × UInt16) :=
  words.mapIdx fun offset word => (address start offset, word)

/-- There are so many addresses from the given one on, and all of them are populated. -/
def Holds (registers : Registers) (start : UInt16) (count : Nat) : Prop :=
  start.toNat + count ≤ 65536 ∧ ∀ offset < count, (registers (address start offset)).isSome

/-- Putting words one at a time leaves the last one at each address. -/
theorem storeAll_eq_latest (registers : Registers) (entries : List (UInt16 × UInt16)) :
    registers.storeAll entries = registers.latest entries := by
  induction entries generalizing registers with
  | nil => rfl
  | cons entry entries ih =>
    show (registers.store entry).storeAll entries = _
    rw [ih]
    funext address
    rw [latest, latest, List.reverse_cons, List.find?_append, store]
    cases found : entries.reverse.find? fun entry => entry.1 = address with
    | some later => rfl
    | none =>
      by_cases same : entry.1 = address
      · simp [same]
      · simp [same]

/-- What is put later comes on top of what has been put before. -/
theorem storeAll_append (registers : Registers) (before after : List (UInt16 × UInt16)) :
    registers.storeAll (before ++ after) = (registers.storeAll before).storeAll after :=
  List.foldl_append

/-- An address is populated if it was so before, or if a word has been put there. -/
theorem isSome_storeAll (registers : Registers) (entries : List (UInt16 × UInt16)) (address : UInt16) :
    (registers.storeAll entries address).isSome ↔
      (registers address).isSome ∨ ∃ entry ∈ entries, entry.1 = address := by
  induction entries generalizing registers with
  | nil => simp [storeAll]
  | cons entry entries ih =>
    show ((registers.store entry).storeAll entries address).isSome ↔ _
    rw [ih, store]
    by_cases same : entry.1 = address
    · simp [same]
    · simp [same]

/-- The addresses of consecutive words. -/
theorem exists_of_mem_entries {start : UInt16} {words : List UInt16} {entry : UInt16 × UInt16}
    (member : entry ∈ entries start words) : ∃ offset < words.length, entry.1 = address start offset := by
  obtain ⟨offset, inside, rfl⟩ := List.mem_mapIdx.mp member
  exact ⟨offset, inside, rfl⟩

theorem entries_eq_zip (start : UInt16) (words : List UInt16) :
    entries start words = ((List.range words.length).map (address start)).zip words := by
  apply List.ext_getElem
  · simp [entries]
  · intro offset _ _
    simp [entries]

/-- Words that are put where all addresses are populated populate no other. -/
theorem isSome_storeAll_entries {registers : Registers} {start : UInt16} {words : List UInt16}
    (holds : registers.Holds start words.length) (address : UInt16) :
    (registers.storeAll (entries start words) address).isSome = (registers address).isSome := by
  rw [Bool.eq_iff_iff, isSome_storeAll]
  constructor
  · rintro (there | ⟨entry, member, rfl⟩)
    · exact there
    · obtain ⟨offset, inside, same⟩ := exists_of_mem_entries member
      rw [same]
      exact holds.2 offset inside
  · exact .inl

end Registers

/-! ### What requests want -/

/-- What a request wants of consecutive registers: their words, or others in their place, of which the
reply is known beforehand.  Some requests want neither. -/
inductive Access where
  | read (start : UInt16) (count : Nat)
  | write (start : UInt16) (words : List UInt16) (reply : Body)
  | other
deriving DecidableEq, Repr

/-- What a payload wants; writing one register is writing a single word. -/
def Packet.access : Packet → Access
  | .body (.readRegisters start count) => .read start count.toNat
  | .body (.writeRegister address value) => .write address [value] (.writeRegister address value)
  | .body (.writeMultiple start values) =>
    .write start values (.multipleWritten start (UInt16.ofNat values.length))
  | .body (.registerValues _) | .body (.multipleWritten ..) | .body (.exception _) | .bare _
  | .carry .. => .other

/-- The words that an access puts at their addresses if it is granted. -/
def Access.entries : Access → List (UInt16 × UInt16)
  | .write start words _ => Registers.entries start words
  | .read .. | .other => []

namespace Access

/-- Who asks for consecutive registers is granted them exactly if their number is within its limit and
all of them are populated.  A wrong number is told before a wrong address. -/
structure Judged (registers : Registers) (start : UInt16) (count max : Nat)
    (answer : Except ExceptionCode Packet) : Prop where
  granted : (∃ packet, answer = .ok packet) ↔
    (1 ≤ count ∧ count ≤ max) ∧ registers.Holds start count
  value : answer = .error .illegalDataValue ↔ ¬(1 ≤ count ∧ count ≤ max)
  address : answer = .error .illegalDataAddress ↔
    (1 ≤ count ∧ count ≤ max) ∧ ¬registers.Holds start count

/-- What is to come of an access: the answer, and the map afterwards.  Words are read in the order of
their addresses, and written one at a time; what is refused changes nothing. -/
def Obeyed (before : RegisterMap) (answer : Except ExceptionCode Packet) (after : RegisterMap) :
    Access → Prop
  | .read start count =>
    Judged before.get? start count 0x7D answer ∧ after = before ∧
      ∀ packet, answer = .ok packet → ∃ words, packet = .body (.registerValues (bytesOfWords words)) ∧
        words.length = count ∧
        ∀ offset < count, words[offset]? = before.get? (Registers.address start offset)
  | .write start words reply =>
    Judged before.get? start words.length 0x7B answer ∧
      (∀ packet, answer = .ok packet → packet = .body reply ∧
        after.get? = Registers.storeAll before.get? (Registers.entries start words)) ∧
      ∀ code, answer = .error code → after = before
  | .other => answer = .error .illegalFunction ∧ after = before

section Judged

variable {registers : Registers} {start : UInt16} {count max : Nat}

theorem judged_ok (within : 1 ≤ count ∧ count ≤ max) (holds : registers.Holds start count)
    (packet : Packet) : Judged registers start count max (.ok packet) := by
  refine ⟨⟨fun _ => ⟨within, holds⟩, fun _ => ⟨packet, rfl⟩⟩, ?_, ?_⟩
  · exact iff_of_false nofun fun beyond => beyond within
  · exact iff_of_false nofun fun missing => missing.2 holds

theorem judged_illegalDataValue (beyond : ¬(1 ≤ count ∧ count ≤ max)) :
    Judged registers start count max (.error .illegalDataValue) := by
  refine ⟨?_, iff_of_true rfl beyond, ?_⟩
  · exact iff_of_false nofun fun granted => beyond granted.1
  · exact iff_of_false nofun fun missing => beyond missing.1

theorem judged_illegalDataAddress (within : 1 ≤ count ∧ count ≤ max)
    (missing : ¬registers.Holds start count) :
    Judged registers start count max (.error .illegalDataAddress) := by
  refine ⟨?_, ?_, iff_of_true rfl ⟨within, missing⟩⟩
  · exact iff_of_false nofun fun granted => missing granted.2
  · exact iff_of_false nofun fun beyond => beyond within

end Judged

end Access

/-! ### One request -/

namespace RegisterMap

/-- Writing words one after the other puts them at their addresses one at a time. -/
theorem get?_setAll_eq_storeAll (map : RegisterMap) (addresses words : List UInt16) :
    (map.setAll addresses words).get? = Registers.storeAll map.get? (addresses.zip words) := by
  induction addresses generalizing map words with
  | nil => rfl
  | cons address addresses ih =>
    cases words with
    | nil => rfl
    | cons word words =>
      rw [setAll, ih, List.zip_cons_cons]
      show _ = Registers.storeAll (Registers.store map.get? (address, word)) _
      congr 1
      funext other
      exact get?_set map address other word

/-- What a map says about consecutive registers that are to be read. -/
theorem obeyed_read (map : RegisterMap) (start : UInt16) (count : Nat) :
    Access.Obeyed map ((map.read start count).map fun words => .body (.registerValues (bytesOfWords words)))
      map (.read start count) := by
  by_cases within : 1 ≤ count ∧ count ≤ maxReadRegisters
  · rw [read_eq map start within.1 within.2]
    cases found : Registers.words? map.get? start count with
    | some words =>
      obtain ⟨room, length, same⟩ := Registers.words?_eq_some_iff.mp found
      have holds : Registers.Holds map.get? start count :=
        Registers.isSome_words?_iff.mp (by rw [found]; rfl)
      refine ⟨Access.judged_ok within holds _, rfl, ?_⟩
      rintro _ ⟨⟩
      exact ⟨words, rfl, length, fun offset inside => (same offset inside).symm⟩
    | none =>
      have missing : ¬Registers.Holds map.get? start count := by
        intro holds
        have some := Registers.isSome_words?_iff.mpr holds
        rw [found] at some
        exact absurd some Bool.false_ne_true
      exact ⟨Access.judged_illegalDataAddress within missing, rfl, nofun⟩
  · have refused : map.read start count = .error .illegalDataValue := if_pos (by omega)
    rw [refused]
    exact ⟨Access.judged_illegalDataValue within, rfl, nofun⟩

/-- What a map makes of words that are to be written at consecutive registers. -/
theorem obeyed_write (map : RegisterMap) (start : UInt16) (words : List UInt16) (reply : Body) :
    let written := map.write start words
    Access.Obeyed map (written.map fun _ => .body reply) (written.toOption.getD map)
      (.write start words reply) := by
  intro written
  by_cases within : 1 ≤ words.length ∧ words.length ≤ maxWriteRegisters
  · have known : written = _ := write_eq within.1 within.2
    by_cases holds : Registers.Holds map.get? start words.length
    · rw [known, if_pos (Registers.isSome_words?_iff.mpr holds)]
      refine ⟨Access.judged_ok within holds _, ?_, nofun⟩
      rintro _ ⟨⟩
      refine ⟨rfl, ?_⟩
      rw [Registers.entries_eq_zip]
      exact get?_setAll_eq_storeAll map _ words
    · rw [known, if_neg (mt Registers.isSome_words?_iff.mp holds)]
      exact ⟨Access.judged_illegalDataAddress within holds, nofun, fun _ _ => rfl⟩
  · have refused : written = .error .illegalDataValue := by
      apply if_pos
      rw [List.isEmpty_iff_length_eq_zero]
      omega
    rw [refused]
    exact ⟨Access.judged_illegalDataValue within, nofun, fun _ _ => rfl⟩

/-- **One request to a register map**, whatever it carries: what comes of it is what is to come of the
access that it wants. -/
theorem service_obeyed (map : RegisterMap) (request : UnitRequest) :
    request.payload.access.Obeyed map (service request map).1 (service request map).2 := by
  obtain ⟨unit, function, payload⟩ := request
  have wrote (content reply : Body) (start : UInt16) (words : List UInt16)
      (answers : map.answer content = (map.write start words).map (reply, ·)) :
      Access.Obeyed map (service ⟨unit, function, .body content⟩ map).1
        (service ⟨unit, function, .body content⟩ map).2 (.write start words reply) := by
    have obeyed := map.obeyed_write start words reply
    cases written : map.write start words with
    | ok next =>
      rw [written] at answers obeyed
      rw [service_eq_ok answers]
      exact obeyed
    | error code =>
      rw [written] at answers obeyed
      rw [service_eq_error answers]
      exact obeyed
  cases payload with
  | bare envelope => exact ⟨rfl, rfl⟩
  | carry envelope payload => exact ⟨rfl, rfl⟩
  | body content =>
    cases content with
    | readRegisters start count =>
      have obeyed := map.obeyed_read start count.toNat
      have answers : map.answer (.readRegisters start count) =
          (map.read start count.toNat).map fun words => (.registerValues (bytesOfWords words), map) := by
        rw [answer]
        cases map.read start count.toNat <;> rfl
      cases found : map.read start count.toNat with
      | ok words =>
        rw [found] at answers obeyed
        rw [service_eq_ok answers]
        exact obeyed
      | error code =>
        rw [found] at answers obeyed
        rw [service_eq_error answers]
        exact obeyed
    | writeRegister address value =>
      refine wrote (.writeRegister address value) _ address [value] ?_
      rw [answer]
      cases map.write address [value] <;> rfl
    | writeMultiple start values =>
      refine wrote (.writeMultiple start values) _ start values ?_
      rw [answer]
      cases map.write start values <;> rfl
    | registerValues bytes => exact ⟨rfl, rfl⟩
    | multipleWritten start count => exact ⟨rfl, rfl⟩
    | exception code => exact ⟨rfl, rfl⟩

/-- The words that a request writes: all that it wants to, if it is granted. -/
def writes (map : RegisterMap) (request : UnitRequest) : List (UInt16 × UInt16) :=
  match (service request map).1 with
  | .ok _ => request.payload.access.entries
  | .error _ => []

/-- A request leaves in a map what it writes, on top of what was there. -/
theorem get?_service (map : RegisterMap) (request : UnitRequest) :
    (service request map).2.get? = Registers.storeAll map.get? (map.writes request) := by
  have obeyed := map.service_obeyed request
  rw [writes]
  cases wanted : request.payload.access with
  | read start count =>
    rw [wanted] at obeyed
    rw [obeyed.2.1]
    cases (service request map).1 <;> rfl
  | write start words reply =>
    rw [wanted] at obeyed
    cases answered : (service request map).1 with
    | ok packet => exact (obeyed.2.1 packet answered).2
    | error code =>
      rw [obeyed.2.2 code answered]
      rfl
  | other =>
    rw [wanted] at obeyed
    rw [obeyed.1, obeyed.2]
    rfl

/-- No request populates an address, and none takes the word of an address away. -/
theorem isSome_get?_service (map : RegisterMap) (request : UnitRequest) (address : UInt16) :
    ((service request map).2.get? address).isSome = (map.get? address).isSome := by
  have obeyed := map.service_obeyed request
  rw [get?_service, writes]
  cases wanted : request.payload.access with
  | read start count => cases (service request map).1 <;> rfl
  | write start words reply =>
    rw [wanted] at obeyed
    cases answered : (service request map).1 with
    | ok packet =>
      have holds := (obeyed.1.granted.mp ⟨packet, answered⟩).2
      exact Registers.isSome_storeAll_entries holds address
    | error code => rfl
  | other => cases (service request map).1 <;> rfl

/-! ### One request after the other -/

/-- The words that the requests of a history have written, in their order. -/
def written (map : RegisterMap) : List UnitRequest → List (UInt16 × UInt16)
  | [] => []
  | request :: later => map.writes request ++ (service request map).2.written later

/-- What a map holds after a history is what it held before, with the words that have been written put
on top of it. -/
theorem get?_after (map : RegisterMap) (history : List UnitRequest) :
    (Service.after service history map).get? = Registers.storeAll map.get? (map.written history) := by
  induction history generalizing map with
  | nil => rfl
  | cons request later ih =>
    show (Service.after service later (service request map).2).get? = _
    rw [ih, get?_service, ← Registers.storeAll_append]
    rfl

/-- The addresses that are populated after a history are those that were so before. -/
theorem isSome_get?_after (map : RegisterMap) (history : List UnitRequest) (address : UInt16) :
    ((Service.after service history map).get? address).isSome = (map.get? address).isSome := by
  induction history generalizing map with
  | nil => rfl
  | cons request later ih =>
    show ((Service.after service later (service request map).2).get? address).isSome = _
    rw [ih]
    exact map.isSome_get?_service request address

/-- **A register map is an atomic map with a fixed domain.**  Whatever requests it has been asked, for
whatever units and with whatever functions and payloads: the same addresses are populated as in the
beginning, and each of them holds the word that was written there last.  The next request is obeyed
as a whole, or it is refused and nothing changes. -/
theorem service_after_history (map : RegisterMap) (history : List UnitRequest) (request : UnitRequest) :
    let before := Service.after service history map
    let (answer, after) := service request before
    (∀ address, (before.get? address).isSome = (map.get? address).isSome) ∧
      (∀ address, (after.get? address).isSome = (map.get? address).isSome) ∧
      before.get? = Registers.latest map.get? (map.written history) ∧
      request.payload.access.Obeyed before answer after := by
  intro before
  refine ⟨map.isSome_get?_after history, fun address => ?_, ?_, before.service_obeyed request⟩
  · exact (before.isSome_get?_service request address).trans (map.isSome_get?_after history address)
  · exact (map.get?_after history).trans (Registers.storeAll_eq_latest map.get? _)

end RegisterMap

end ModbusTcp
