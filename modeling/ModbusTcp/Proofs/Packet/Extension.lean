import ModbusTcp.Proofs.Packet.Format
import ModbusTcp.Workshop

/-!
# Adding resolvers

A resolver that is added to a factory is asked after all others.  So reading with it is reading without it, and then
going on where that has stopped: behind an envelope at the end of the chain which could carry something and for
which no resolver has named anything.  A table says nothing about frames, so with tables such an envelope is a PDU.

* `Resolver.orElse` — a resolver and another that is asked after it; `Resolver.firstOf_append`.
* `Resolver.NamesEmpty` — what is asked of every resolver: it names packets that carry nothing yet.
* `Packet.readOn`, **`Packet.decodeInto_orElse`** — going on where reading has stopped, and the law above.
* `Resolver.Knows` — tables have a line for a function and direction.
* **`Workshop.decode_extended`** — what a factory reads differently after tables have been added to it, and that its
  copies read as before.
-/

namespace ModbusTcp

variable {resolver added : Resolver} {direction : Direction} {order : ByteOrder}

/-! ### One resolver after another -/

namespace Resolver

/-- A resolver, and another one that is asked where it declines. -/
def orElse (resolver added : Resolver) : Resolver := fun envelope direction =>
  (resolver envelope direction).or (added envelope direction)

theorem firstOf_append (resolvers added : List Resolver) :
    firstOf (resolvers ++ added) = (firstOf resolvers).orElse (firstOf added) := by
  funext envelope direction
  exact List.findSome?_append

/-- The packets that a resolver names carry nothing yet. -/
def NamesEmpty (resolver : Resolver) : Prop :=
  ∀ envelope direction packet, resolver envelope direction = some packet → packet.payload? = none

theorem namesEmpty_basic : NamesEmpty basic := by
  intro envelope direction packet named
  cases envelope with
  | mbap header =>
    obtain rfl : Packet.empty .pdu = packet := Option.some.inj named
    rfl
  | pdu function =>
    obtain ⟨content, rfl⟩ := namesBodies_basic.pdu function direction packet named
    rfl

theorem namesEmpty_ofTable {table : List Entry} (empty : ∀ line ∈ table, line.payload.payload? = none) :
    NamesEmpty (ofTable table) := by
  intro envelope direction packet named
  cases envelope with
  | mbap header => cases named
  | pdu function =>
    obtain ⟨line, member, rfl⟩ := exists_mem_of_lookUp named
    exact empty line member

theorem namesEmpty_firstOf {resolvers : List Resolver} (empty : ∀ resolver ∈ resolvers, resolver.NamesEmpty) :
    NamesEmpty (firstOf resolvers) := by
  intro envelope direction packet named
  obtain ⟨resolver, member, answers⟩ := List.exists_of_findSome?_eq_some named
  exact empty resolver member envelope direction packet answers

/-- Tables have a line for a function and direction. -/
def Knows (tables : List (List Entry)) (function : UInt8) (direction : Direction) : Prop :=
  ∃ table ∈ tables, ∃ line ∈ table, line.function = function ∧ line.direction = direction

theorem firstOf_tables_mbap (tables : List (List Entry)) (header : Mbap) (direction : Direction) :
    firstOf (tables.map ofTable) (.mbap header) direction = none := by
  rw [firstOf, List.findSome?_eq_none_iff]
  intro resolver member
  obtain ⟨table, _, rfl⟩ := List.mem_map.mp member
  rfl

theorem isSome_lookUp (table : List Entry) (function : UInt8) (direction : Direction) :
    (lookUp table function direction).isSome ↔
      ∃ line ∈ table, line.function = function ∧ line.direction = direction := by
  rw [lookUp, Option.isSome_map, List.find?_isSome]
  simp only [decide_eq_true_eq]

theorem isSome_firstOf_tables_pdu (tables : List (List Entry)) (function : UInt8) (direction : Direction) :
    (firstOf (tables.map ofTable) (.pdu function) direction).isSome ↔ Knows tables function direction := by
  rw [firstOf, List.findSome?_map, List.findSome?_isSome_iff]
  exact exists_congr fun table => and_congr_right fun _ => isSome_lookUp table function direction

end Resolver

/-! ### Going on where reading has stopped -/

namespace Packet

/-- The envelope at the end of a chain, if there is room for a payload in it. -/
def open? : Packet → Option Envelope
  | .bare envelope => if envelope.expectsPayload then some envelope else none
  | .carry _ payload => payload.open?
  | .body _ => none

/-- The chain with one more packet in the envelope at its end. -/
def extend (more : Packet) : Packet → Packet
  | .bare envelope => .carry envelope more
  | .carry envelope payload => .carry envelope (extend more payload)
  | .body content => .body content

/-- Goes on with a chain that has been read, and with what follows it, if another resolver names what the envelope
at its end carries. -/
def readOn (whole added : Resolver) (direction : Direction) (order : ByteOrder) (packet : Packet) (rest : Bytes) :
    Except DecodeError (Packet × Bytes) :=
  match packet.open?.bind (added · direction) with
  | none => .ok (packet, rest)
  | some payload =>
    (decodeInto whole direction order payload rest).map fun (more, rest) => (extend more packet, rest)

theorem readOn_carry (whole : Resolver) (envelope : Envelope) (payload : Packet) (rest : Bytes) :
    readOn whole added direction order (.carry envelope payload) rest =
      (readOn whole added direction order payload rest).map fun (payload, rest) =>
        (.carry envelope payload, rest) := by
  rw [readOn, readOn, open?]
  cases payload.open?.bind (added · direction) with
  | none => rfl
  | some further =>
    dsimp only
    cases decodeInto whole direction order further rest <;> rfl

/-- Reading with one resolver after another is reading with the first and going on with the other. -/
theorem decodeInto_orElse (empty : resolver.NamesEmpty) {target : Packet} (unladen : target.payload? = none)
    (input : Bytes) :
    decodeInto (resolver.orElse added) direction order target input =
      (decodeInto resolver direction order target input).bind fun (packet, rest) =>
        readOn (resolver.orElse added) added direction order packet rest := by
  -- Each layer takes at least one byte, so the induction is on how many there are.
  induction size : input.length using Nat.strongRecOn generalizing target input with
  | _ bound ih =>
  cases target with
  | carry envelope payload => cases unladen
  | body content =>
    rw [decodeInto_body, decodeInto_body]
    cases content.decode order input <;> rfl
  | bare envelope =>
    show decodeInto _ _ _ (.ofParts envelope none) input =
      (decodeInto _ _ _ (.ofParts envelope none) input).bind _
    rw [decodeInto_ofParts, decodeInto_ofParts]
    cases decoded : envelope.decode order input with
    | error reason => rfl
    | ok result =>
      obtain ⟨envelope', rest⟩ := result
      have read : (ofParts envelope none).withEnvelope envelope' = .bare envelope' := by
        cases envelope' <;> rfl
      dsimp only
      rw [read]
      by_cases expects : envelope'.expectsPayload
      · rw [if_pos expects, if_pos expects, Resolver.orElse]
        cases named : resolver envelope' direction with
        | none =>
          show _ = readOn _ _ _ _ (.bare envelope') rest
          rw [Option.none_or, readOn, open?, if_pos expects, Option.bind_some]
          cases added envelope' direction <;> rfl
        | some payload =>
          have shorter : rest.length < bound := size ▸ Envelope.decode_shortens decoded
          rw [Option.some_or]
          dsimp only
          rw [ih rest.length shorter (empty _ _ _ named) rest rfl]
          cases decodeInto resolver direction order payload rest with
          | error reason => rfl
          | ok result => exact (readOn_carry _ _ _ _).symm
      · rw [if_neg expects, if_neg expects]
        show _ = readOn _ _ _ _ (.bare envelope') rest
        rw [readOn, open?, if_neg expects]
        rfl

/-- A chain that has been extended is another one. -/
theorem extend_ne {packet : Packet} {envelope : Envelope} (ends : packet.open? = some envelope) (more : Packet) :
    extend more packet ≠ packet := by
  induction packet with
  | bare outermost => exact Packet.noConfusion
  | carry outermost payload ih => exact fun same => ih ends (Packet.carry.inj same).2
  | body content => cases ends

theorem innermost_of_open? {packet : Packet} {envelope : Envelope} (ends : packet.open? = some envelope) :
    packet.innermost = .bare envelope := by
  induction packet with
  | bare outermost =>
    rw [open?] at ends
    split at ends
    · exact congrArg Packet.bare (Option.some.inj ends)
    · cases ends
  | carry outermost payload ih => exact ih ends
  | body content => cases ends

theorem open?_of_innermost {packet : Packet} {function : UInt8}
    (ends : packet.innermost = .bare (.pdu function)) : packet.open? = some (.pdu function) := by
  induction packet with
  | bare outermost =>
    obtain rfl : outermost = .pdu function := Packet.bare.inj ends
    rfl
  | carry outermost payload ih => exact ih ends
  | body content => cases ends

/-- With tables behind a resolver other packets are read exactly where it has left a PDU without a payload and the
tables know the function of the PDU. -/
theorem decodeInto_orElse_tables (empty : resolver.NamesEmpty) (tables : List (List Resolver.Entry))
    {target : Packet} (unladen : target.payload? = none) (input : Bytes) :
    decodeInto (resolver.orElse (.firstOf (tables.map .ofTable))) direction order target input ≠
        decodeInto resolver direction order target input ↔
      ∃ packet rest function, decodeInto resolver direction order target input = .ok (packet, rest) ∧
        packet.innermost = .bare (.pdu function) ∧ Resolver.Knows tables function direction := by
  rw [decodeInto_orElse empty unladen]
  cases decodeInto resolver direction order target input with
  | error reason =>
    refine iff_of_false (not_not_intro rfl) ?_
    rintro ⟨packet, rest, function, read, _⟩
    cases read
  | ok result =>
    obtain ⟨packet, rest⟩ := result
    show readOn _ _ _ _ packet rest ≠ .ok (packet, rest) ↔ _
    rw [readOn]
    cases further : packet.open?.bind (Resolver.firstOf (tables.map .ofTable) · direction) with
    | none =>
      refine iff_of_false (not_not_intro rfl) ?_
      rintro ⟨packet', rest', function, read, ends, knows⟩
      obtain ⟨rfl, rfl⟩ := Prod.mk.inj (Except.ok.inj read)
      rw [open?_of_innermost ends, Option.bind_some] at further
      rw [← Resolver.isSome_firstOf_tables_pdu, further] at knows
      cases knows
    | some payload =>
      obtain ⟨envelope, ends, named⟩ := Option.bind_eq_some_iff.mp further
      refine iff_of_true ?_ ?_
      · dsimp only
        cases decodeInto (resolver.orElse (.firstOf (tables.map .ofTable))) direction order payload rest with
        | error reason =>
          intro same
          cases same
        | ok result => exact fun same => extend_ne ends result.1 (Prod.mk.inj (Except.ok.inj same)).1
      · cases envelope with
        | mbap header =>
          rw [Resolver.firstOf_tables_mbap] at named
          cases named
        | pdu function =>
          refine ⟨packet, rest, function, rfl, innermost_of_open? ends, ?_⟩
          rw [← Resolver.isSome_firstOf_tables_pdu, named]
          rfl

theorem payload?_empty (kind : PacketKind) : (empty kind).payload? = none := by
  cases kind <;> rfl

end Packet

/-! ### Factories -/

/-- **Adding resolvers is conservative.**  Take a factory in a workshop, and any jobs that are done there from then
on, by which tables are added to this factory.  Whatever a packet of any kind is read from, the factory reads it
as before if reading has failed before, and if the chain has not ended in a PDU without a payload; it reads
it differently exactly if the chain has ended so and the tables have a line for the function of that PDU.  A copy of the
factory that has been made before reads everything as the factory has then, whatever is added to others. -/
theorem Workshop.decode_extended {workshop : Workshop} {place : Nat} {factory : FrameFactory}
    (there : workshop.factories[place]? = some factory) (empty : factory.resolver.NamesEmpty)
    {jobs : List Job} {tables : List (List Resolver.Entry)}
    (added : jobs.filterMap (Job.addedTo place) = tables.map Resolver.ofTable) :
    (∃ extended, (workshop.after jobs).factories[place]? = some extended ∧
      ∀ kind direction order input,
        let before := Packet.decode factory.resolver direction order kind input
        let now := Packet.decode extended.resolver direction order kind input
        ((∀ packet rest function, before = .ok (packet, rest) →
          packet.innermost ≠ .bare (.pdu function)) → now = before) ∧
        (now ≠ before ↔ ∃ packet rest function, before = .ok (packet, rest) ∧
          packet.innermost = .bare (.pdu function) ∧ Resolver.Knows tables function direction)) ∧
    ∀ later : List Job, later.filterMap (Job.addedTo workshop.factories.length) = [] →
      ∃ copy, (workshop.after (.copy place :: later)).factories[workshop.factories.length]? = some copy ∧
        ∀ kind direction order input,
          Packet.decode copy.resolver direction order kind input =
            Packet.decode factory.resolver direction order kind input := by
  refine ⟨⟨_, getElem?_after there jobs, ?_⟩, ?_⟩
  · intro kind direction order input before now
    have extended : (jobs.foldl (Job.effect place) factory).resolver =
        factory.resolver.orElse (.firstOf (tables.map .ofTable)) := by
      rw [FrameFactory.resolver, resolvers_after, added, Resolver.firstOf_append]
      rfl
    have differs : now ≠ before ↔ ∃ packet rest function, before = .ok (packet, rest) ∧
        packet.innermost = .bare (.pdu function) ∧ Resolver.Knows tables function direction := by
      show Packet.decodeInto _ direction order _ input ≠ _ ↔ _
      rw [extended]
      exact Packet.decodeInto_orElse_tables empty tables (Packet.payload?_empty kind) input
    refine ⟨fun closed => Classical.byContradiction fun other => ?_, differs⟩
    obtain ⟨packet, rest, function, read, ends, _⟩ := differs.mp other
    exact closed packet rest function read ends
  · intro later untouched
    refine ⟨_, getElem?_after (getElem?_copy there) later, fun kind direction order input => ?_⟩
    rw [FrameFactory.resolver, resolvers_after, untouched, List.append_nil]
    rfl

/-- A factory knows PDUs inside PDUs, and a table for two functions is added to it.  The function that it has known
already stays what it was; behind the other one it reads on, and its copy does not. -/
theorem Workshop.decode_extended_of_nested :
    let nested : List Resolver.Entry := [⟨0x41, .command, .empty .pdu⟩]
    let further : List Resolver.Entry :=
      [⟨0x03, .command, .empty .writeRegister⟩, ⟨0x42, .command, .empty .readRegisters⟩]
    let factory : FrameFactory := { resolvers := [.basic, .ofTable nested] }
    let add : Job := .add 0 (.ofTable further)
    let input (function : UInt8) : Bytes := [0, 1, 0, 0, 0, 0, 0, 7, 1, 0x41, function, 0, 1, 0, 2]
    (∃ extended, ((Workshop.mk [factory]).after [add]).factories[0]? = some extended ∧
      Packet.decode extended.resolver .command .big .mbap (input 0x03) =
        Packet.decode factory.resolver .command .big .mbap (input 0x03) ∧
      Packet.decode extended.resolver .command .big .mbap (input 0x42) ≠
        Packet.decode factory.resolver .command .big .mbap (input 0x42)) ∧
    ∃ copy, ((Workshop.mk [factory]).after [.copy 0, add]).factories[1]? = some copy ∧
      Packet.decode copy.resolver .command .big .mbap (input 0x42) =
        Packet.decode factory.resolver .command .big .mbap (input 0x42) := by
  intro nested further factory add input
  have empty : factory.resolver.NamesEmpty := by
    refine Resolver.namesEmpty_firstOf fun resolver member => ?_
    rcases List.mem_cons.mp member with rfl | member
    · exact Resolver.namesEmpty_basic
    · obtain rfl := List.mem_singleton.mp member
      refine Resolver.namesEmpty_ofTable fun line member => ?_
      obtain rfl := List.mem_singleton.mp member
      rfl
  have outer {function : UInt8} {payload : Packet} {rest : Bytes}
      (inner : Packet.decodeInto factory.resolver .command .big (.bare (.pdu 0)) [function, 0, 1, 0, 2] =
        .ok (payload, rest)) :
      Packet.decode factory.resolver .command .big .mbap (input function) =
        .ok (.carry (.mbap { transactionId := 1, unit := 1, declared := some 7 })
          (.carry (.pdu 0x41) payload), rest) := by
    show Packet.decodeInto _ _ _ (.ofParts (.mbap default) none) _ = _
    rw [Packet.decodeInto_ofParts]
    show (Packet.decodeInto _ _ _ (.bare (.pdu 0)) [0x41, function, 0, 1, 0, 2]).map _ = _
    rw [Packet.decodeInto_pdu]
    show ((Packet.decodeInto _ _ _ (.bare (.pdu 0)) [function, 0, 1, 0, 2]).map _).map _ = _
    rw [inner]
    rfl
  have known : Packet.decodeInto factory.resolver .command .big (.bare (.pdu 0)) [0x03, 0, 1, 0, 2] =
      .ok (.carry (.pdu 0x03) (.body (.readRegisters 1 2)), []) := by
    rw [Packet.decodeInto_pdu]
    show (Packet.decodeInto _ _ _ (.body (.readRegisters 0 0)) _).map _ = _
    rw [Packet.decodeInto_body]
    rfl
  have unknown : Packet.decodeInto factory.resolver .command .big (.bare (.pdu 0)) [0x42, 0, 1, 0, 2] =
      .ok (.bare (.pdu 0x42), [0, 1, 0, 2]) := Packet.decodeInto_pdu 0x42 0 [0, 1, 0, 2]
  obtain ⟨⟨extended, there, reads⟩, copies⟩ :=
    @Workshop.decode_extended ⟨[factory]⟩ 0 factory rfl empty [add] [further] rfl
  obtain ⟨copy, copied, same⟩ := copies [add] rfl
  refine ⟨⟨extended, there, ?_, ?_⟩, copy, copied, same _ _ _ _⟩
  · refine (reads .mbap .command .big (input 0x03)).1 fun packet rest function read => ?_
    obtain ⟨rfl, rfl⟩ := Prod.mk.inj (Except.ok.inj ((outer known).symm.trans read))
    exact Packet.noConfusion
  · refine (reads .mbap .command .big (input 0x42)).2.mpr ⟨_, _, 0x42, outer unknown, rfl, ?_⟩
    exact ⟨further, List.mem_singleton_self _, ⟨0x42, .command, .empty .readRegisters⟩, by decide, rfl, rfl⟩

end ModbusTcp
