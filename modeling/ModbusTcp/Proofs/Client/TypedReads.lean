import Mathlib.Data.List.Forall2
import ModbusTcp.Proofs.Client.InPlace

/-!
# Typed reads

A client and a slave that speak the big byte order.  Reading definitions gives each of them what its own
registers hold, wherever it stands in the list and whatever lies between; where a register of the
covering span is not populated, it is answered with an exception and no definition changes.

* `Definition.Got` — a definition has got the value of its own registers, and nothing else has changed.
* `Layout.Populated` — every register of the covering span holds a word.
* `Layout.slice_bytesOfWords` — what is cut out of the answer are a definition's own words.
* `Layout.ReadEnds`, `Client.readEnds` — the three ways in which reading definitions ends.
* **`Client.read_definitions_of_map`** — what reading definitions from a register map comes to.
-/

namespace ModbusTcp

/-! ### Definitions and their own registers -/

/-- A definition has got a value of its kind, which its own registers say, and has kept all else. -/
structure Definition.Got (registers : Registers) (before after : Definition) : Prop where
  kept : after = { before with register := after.register }
  kind : after.register.cleared = before.register.cleared
  value : ∃ words, registers.words? before.address before.count.toNat = some words ∧
    after.register.Shows (bytesOfWords words)

namespace Layout

variable {registers : Registers} {definitions : List Definition} {words : List UInt16}

/-- Every register from the lowest address to the highest end holds a word, gaps included. -/
def Populated (registers : Registers) (definitions : List Definition) : Prop :=
  ∀ address : UInt16, (span definitions).1.toNat ≤ address.toNat →
    address.toNat < (span definitions).1.toNat + (span definitions).2 → (registers address).isSome

theorem FitsRequest.isSome_words?_iff (fits : FitsRequest definitions) :
    (registers.words? (span definitions).1 (span definitions).2).isSome ↔
      Populated registers definitions :=
  Registers.isSome_words?_iff_populated fits.span_le

/-- The bytes of a definition in the answer are those of its own words. -/
theorem slice_bytesOfWords (base : UInt16) (words : List UInt16) (definition : Definition) :
    slice base (bytesOfWords words) definition =
      bytesOfWords ((words.drop (definition.address.toNat - base.toNat)).take
        definition.count.toNat) := by
  rw [slice, offset, Definition.byteLength, drop_bytesOfWords, take_bytesOfWords]

/-- Each definition that is read from the words of the covering span gets the value of its own
registers. -/
theorem got_of_words (fits : FitsRequest definitions)
    (found : registers.words? (span definitions).1 (span definitions).2 = some words)
    {definition : Definition} (there : definition ∈ definitions) :
    definition.Got registers { definition with
      register := definition.register.read .big
        (slice (span definitions).1 (bytesOfWords words) definition) } := by
  obtain ⟨each, _⟩ := validate_eq_ok_iff.mp fits.valid
  have within := within_of_mem there
  have own := Registers.words?_among found within.start within.stop
  refine ⟨rfl, definition.register.cleared_read .big _, _, own, ?_⟩
  rw [slice_bytesOfWords]
  apply Register.shows_read
  rw [bytesOfWords, length_flatMap_word, Registers.length_of_words? own]
  exact (each definition there).width

end Layout

/-- How a read of definitions ends, given how long the frames may be that a slave and a client take: with
values if every register is populated, with an exception if not, and with an error if there is no room for
the frames. -/
inductive Layout.ReadEnds (registers : Registers) (definitions : List Definition) (roomSlave room : Nat) :
    Except Error (Answer (List Definition)) → Prop
  | values {got : List Definition} (populated : Populated registers definitions)
      (request : 14 ≤ roomSlave) (reply : 11 + 2 * (span definitions).2 ≤ room)
      (each : List.Forall₂ (Definition.Got registers) definitions got) :
      ReadEnds registers definitions roomSlave room (.ok (.value got))
  | refused (missing : ¬Populated registers definitions) (request : 14 ≤ roomSlave) (reply : 11 ≤ room) :
      ReadEnds registers definitions roomSlave room
        (.ok (.exception ExceptionCode.illegalDataAddress.value))
  | failed {error : Error} (narrow : roomSlave < 14 ∨ room < 11 ∨
        Populated registers definitions ∧ room < 11 + 2 * (span definitions).2) :
      ReadEnds registers definitions roomSlave room (.error error)

/-! ### Reading definitions -/

section Read

variable {client : Client (Connection RegisterMap)} {link : Link (Connection RegisterMap)}
  {definitions : List Definition}

/-- Every read of definitions ends in one of the three ways. -/
theorem Client.readEnds (linked : client.LinkedTo link) (big : client.config.order = .big)
    (unit : UInt8) (fits : Layout.FitsRequest definitions) (endpoint : Endpoint) (waiting : Stop) :
    Layout.ReadEnds link.peer.state.get? definitions link.peer.framer.maxFrame client.config.maxFrame
      (client.perform (Connection.peer (Slave.handle RegisterMap.service endpoint))
        (.readDefinitions client.config.order unit definitions) { waiting }).1 := by
  cases found : Registers.words? link.peer.state.get? (Layout.span definitions).1
      (Layout.span definitions).2 with
  | some words =>
    have populated : Layout.Populated link.peer.state.get? definitions :=
      fits.isSome_words?_iff.mp (Option.isSome_of_eq_some found)
    by_cases room : 14 ≤ link.peer.framer.maxFrame ∧
      11 + 2 * (Layout.span definitions).2 ≤ client.config.maxFrame
    · obtain ⟨request, reply⟩ := room
      rw [perform_readDefinitions linked unit fits found request reply endpoint waiting, big]
      refine .values populated request reply ?_
      rw [List.forall₂_map_right_iff, List.forall₂_same]
      intro definition there
      exact Layout.got_of_words fits found there
    · obtain ⟨error, fails⟩ :=
        perform_readDefinitions_of_lt linked unit fits found (by omega) endpoint waiting
      rw [fails]
      refine .failed ?_
      by_cases request : 14 ≤ link.peer.framer.maxFrame
      · exact .inr (.inr ⟨populated, Nat.lt_of_not_le fun reply => room ⟨request, reply⟩⟩)
      · exact .inl (Nat.lt_of_not_le request)
  | none =>
    have missing : ¬Layout.Populated link.peer.state.get? definitions := by
      rw [← fits.isSome_words?_iff, found]
      exact Bool.false_ne_true
    obtain ⟨refuses, fails⟩ := perform_readDefinitions_missing linked unit fits found endpoint waiting
    by_cases room : 14 ≤ link.peer.framer.maxFrame ∧ 11 ≤ client.config.maxFrame
    · rw [refuses room.1 room.2]
      exact .refused missing room.1 room.2
    · obtain ⟨error, failed⟩ := fails (by omega)
      rw [failed]
      exact .failed (by omega)

/-- **What reading definitions from a register map comes to**, for a client and a slave that speak the big
byte order, and definitions in any order with an accepted layout.  If every register of the covering span
is populated, gaps included, each definition gets the value of its own registers; if not, the answer is an
exception.  Both need room for the frames, without which the read fails.  A caller whose definitions are read
where they are finds the values in them then, and unless there are values none of them has changed. -/
theorem Client.read_definitions_of_map (linked : client.LinkedTo link) (big : client.config.order = .big)
    (unit : UInt8) (fits : Layout.FitsRequest definitions) (endpoint : Endpoint) (waiting : Stop) :
    let registers := link.peer.state.get?
    let populated := Layout.Populated registers definitions
    let slave := Connection.peer (Slave.handle RegisterMap.service endpoint)
    let read := (client.perform slave (.readDefinitions client.config.order unit definitions) { waiting }).1
    let ran := client.readInPlace slave unit definitions { waiting }
    ((∃ got, read = .ok (.value got)) ↔ populated ∧ 14 ≤ link.peer.framer.maxFrame ∧
        11 + 2 * (Layout.span definitions).2 ≤ client.config.maxFrame) ∧
      (read = .ok (.exception ExceptionCode.illegalDataAddress.value) ↔
        ¬populated ∧ 14 ≤ link.peer.framer.maxFrame ∧ 11 ≤ client.config.maxFrame) ∧
      ((∃ error, read = .error error) ↔ link.peer.framer.maxFrame < 14 ∨
        client.config.maxFrame < 11 ∨
        populated ∧ client.config.maxFrame < 11 + 2 * (Layout.span definitions).2) ∧
      ((∃ got, read = .ok (.value got)) →
        ran.1 = .ok (.value ()) ∧ List.Forall₂ (Definition.Got registers) definitions ran.2.1) ∧
      ((∀ got, read ≠ .ok (.value got)) → ran.1 ≠ .ok (.value ()) ∧ ran.2.1 = definitions) := by
  intro registers populated slave read ran
  have ends : Layout.ReadEnds registers definitions _ _ read :=
    readEnds linked big unit fits endpoint waiting
  have inPlace : ran = _ := client.readInPlace_eq slave unit definitions { waiting }
  rw [show Prod.fst _ = read from rfl] at inPlace
  rw [inPlace]
  generalize read = read at ends
  cases ends with
  | values all request reply each =>
    refine ⟨iff_of_true ⟨_, rfl⟩ ⟨all, request, reply⟩, iff_of_false nofun fun refused => refused.1 all,
      iff_of_false nofun ?_, fun _ => ⟨rfl, each⟩, fun none => absurd rfl (none _)⟩
    omega
  | refused missing request reply =>
    refine ⟨iff_of_false nofun fun granted => missing granted.1,
      iff_of_true rfl ⟨missing, request, reply⟩, iff_of_false nofun ?_, nofun, fun _ => ⟨nofun, rfl⟩⟩
    rintro (narrow | narrow | ⟨all, _⟩)
    · omega
    · omega
    · exact missing all
  | failed narrow =>
    refine ⟨iff_of_false nofun ?_, iff_of_false nofun ?_, iff_of_true ⟨_, rfl⟩ narrow, nofun,
      fun _ => ⟨nofun, rfl⟩⟩
    · omega
    · rintro ⟨missing, request, reply⟩
      rcases narrow with narrow | narrow | ⟨all, _⟩
      · omega
      · omega
      · exact missing all

end Read

/-- A text in front of a number that stands two registers before it: all registers are populated, the gap
included, and both get the values of their own. -/
theorem Client.read_definitions_of_map_unsorted :
    let map := RegisterMap.populate {} 5 [0x1234, 9, 0x6161, 0x62FF, 0]
    let fresh : Client (Connection RegisterMap) := { config := { host := "device" }, factory := {} }
    let client := (fresh.connect false (.established { peer := Slave.connection {} {} map })).2
    let name : Definition := { label := "Name", address := 7, count := 3, register := .text 5 none }
    let level : Definition := { label := "Level", address := 5, count := 1, register := .numeric .u8 none }
    let ran := client.readInPlace (Connection.peer (Slave.handle RegisterMap.service ⟨.v4 0, 502⟩)) 1
      [name, level] {}
    Layout.FitsRequest [name, level] ∧ ran.1 = .ok (.value ()) ∧
      List.Forall₂ (Definition.Got map.get?) [name, level] ran.2.1 := by
  intro map fresh client name level ran
  have linked : client.LinkedTo _ :=
    linkedTo_connect rfl rfl map ⟨[], rfl⟩ ⟨[], rfl⟩ rfl
  have ascending : Layout.sorted [name, level] = [level, name] := by
    simp [Layout.sorted, level, name, List.mergeSort]
  have fits : Layout.FitsRequest [name, level] :=
    ⟨by rw [Layout.validate, ascending]; rfl, by decide, by decide⟩
  have populated : Layout.Populated map.get? [name, level] := fun _ =>
    RegisterMap.isSome_get?_populate {} 5 [0x1234, 9, 0x6161, 0x62FF, 0] (by decide)
  obtain ⟨values, _, _, each, _⟩ :=
    read_definitions_of_map linked rfl 1 fits ⟨.v4 0, 502⟩ .deadline
  exact ⟨fits, each (values.mpr ⟨populated, by decide, by decide⟩)⟩

/-- A slave that takes no frames of more than 13 bytes, which is a setting that makes sense, has no room
for the request: the read fails, although all registers are populated. -/
theorem Client.read_definitions_without_room :
    let server : ServerConfig := { maxFrame := 13 }
    let map := RegisterMap.populate {} 0 [1]
    let fresh : Client (Connection RegisterMap) := { config := { host := "device" }, factory := {} }
    let client := (fresh.connect false (.established { peer := Slave.connection server {} map })).2
    let level : Definition := { label := "Level", address := 0, count := 1, register := .numeric .u16 none }
    server.validate = .ok () ∧ client.config.order = .big ∧ server.order = .big ∧
      Layout.FitsRequest [level] ∧ Layout.Populated map.get? [level] ∧
      ∃ error, (client.perform (Connection.peer (Slave.handle RegisterMap.service ⟨.v4 0, 502⟩))
        (.readDefinitions client.config.order 1 [level]) {}).1 = .error error := by
  intro server map fresh client level
  have linked : client.LinkedTo _ :=
    linkedTo_connect rfl rfl map ⟨[], rfl⟩ ⟨[], rfl⟩ rfl
  have fits : Layout.FitsRequest [level] := ⟨by cbv, by decide, by decide⟩
  have populated : Layout.Populated map.get? [level] := fun _ =>
    RegisterMap.isSome_get?_populate {} 0 [1] (by decide)
  obtain ⟨words, found⟩ := Option.isSome_iff_exists.mp (fits.isSome_words?_iff.mpr populated)
  have fails := perform_readDefinitions_of_lt linked 1 fits found (.inl (by decide)) ⟨.v4 0, 502⟩ .deadline
  exact ⟨by decide, rfl, rfl, fits, populated, fails⟩

end ModbusTcp
