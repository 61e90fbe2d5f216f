import ModbusTcp.Client.Operation
import ModbusTcp.Proofs.Client.Transceive
import ModbusTcp.Proofs.Register.Layout

/-!
# What becomes of an errand

A client that has a link is used for requests and for operations on registers.  An operation adds to its
request what it has to check before and after it, and that fails with protocol errors alone; so there are
only a few things that an errand can come to.

* `Errand` — what a client can be used for; `Errand.run` is how that ends.
* `FailsByProtocol`, `Operation.FailsByProtocol` — what an operation adds to its request.
* `Client.Ends` — what can become of an errand and of the link.
* **`Client.ends_errand`** — this is all.
-/

namespace ModbusTcp

variable {σ α β : Type}

/-! ### What can be asked for -/

/-- What a client that has a link is used for: a request of one's own, or one of the operations. -/
inductive Errand where
  | exchange (request : Frame)
  | readRange (unit : UInt8) (start count : UInt16)
  | writeRegister (unit : UInt8) (address value : UInt16)
  | writeMultiple (unit : UInt8) (start : UInt16) (values : List UInt16)
  | readDefinitions (unit : UInt8) (definitions : List Definition)
  | writeDefinitions (unit : UInt8) (definitions : List Definition)

/-- How an operation ends, whatever it gives. -/
def Operation.run (operation : Operation α) (peer : Peer σ) (client : Client σ)
    (circumstances : Circumstances) : Except Error Unit × Client σ :=
  let (result, client) := client.perform peer operation circumstances
  (result.map fun _ => (), client)

/-- How an errand ends, whatever it gives. -/
def Errand.run (peer : Peer σ) (client : Client σ) (circumstances : Circumstances) :
    Errand → Except Error Unit × Client σ
  | .exchange request =>
    let (result, client) := client.transceive peer request circumstances
    (result.map fun _ => (), client)
  | .readRange unit start count => (Operation.readRange unit start count).run peer client circumstances
  | .writeRegister unit address value =>
    (Operation.writeRegister unit address value).run peer client circumstances
  | .writeMultiple unit start values =>
    (Operation.writeMultiple unit start values).run peer client circumstances
  | .readDefinitions unit definitions =>
    (Operation.readDefinitions client.config.order unit definitions).run peer client circumstances
  | .writeDefinitions unit definitions =>
    (Operation.writeDefinitions client.config.order unit definitions).run peer client circumstances

/-! ### Operations fail with protocol errors -/

/-- A failure is one of the protocol. -/
def FailsByProtocol (result : Except Error α) : Prop :=
  ∀ error, result = .error error → ∃ reason, error = .protocol reason

namespace FailsByProtocol

theorem ok (value : α) : FailsByProtocol (.ok value) := nofun

theorem protocol (reason : ProtocolError) : FailsByProtocol (.error (.protocol reason) : Except Error α) := by
  rintro _ ⟨⟩
  exact ⟨reason, rfl⟩

theorem mapError (result : Except ProtocolError α) : FailsByProtocol (result.mapError .protocol) := by
  cases result with
  | ok value => exact ok value
  | error reason => exact protocol reason

theorem map {result : Except Error α} (fails : FailsByProtocol result) (f : α → β) :
    FailsByProtocol (result.map f) := by
  cases result with
  | ok value => exact ok (f value)
  | error error =>
    obtain ⟨reason, rfl⟩ := fails error rfl
    exact protocol reason

theorem bind {result : Except Error α} (fails : FailsByProtocol result) {f : α → Except Error β}
    (others : ∀ value, result = .ok value → FailsByProtocol (f value)) :
    FailsByProtocol (result >>= f) := by
  cases result with
  | ok value => exact others value rfl
  | error error =>
    obtain ⟨reason, rfl⟩ := fails error rfl
    exact protocol reason

end FailsByProtocol

/-- Decoding definitions fails with protocol errors: once the layout is accepted and the buffer is long
enough, every value is there. -/
theorem Layout.failsByProtocol_decode (order : ByteOrder) (definitions : List Definition) (buffer : Bytes) :
    FailsByProtocol (decode order definitions buffer) := by
  cases valid : validate definitions with
  | error reason =>
    rw [decode, valid]
    exact .protocol reason
  | ok _ =>
    by_cases enough : 2 * (span definitions).2 ≤ buffer.length
    · rw [decode_eq_ok order valid enough]
      exact .ok _
    · rw [decode_eq_error_of_short order valid (Nat.lt_of_not_le enough)]
      exact .protocol _

namespace Operation

/-- An operation fails with protocol errors alone, whatever becomes of its request. -/
structure FailsByProtocol (operation : Operation α) : Prop where
  build : ∀ factory, ModbusTcp.FailsByProtocol (operation.build factory)
  accept : ∀ payload, ModbusTcp.FailsByProtocol (operation.accept payload)

theorem failsByProtocol_unexpected (payload : Packet) :
    ModbusTcp.FailsByProtocol (unexpected payload : Except Error α) := .protocol _

theorem failsByProtocol_readRange (unit : UInt8) (start count : UInt16) :
    (readRange unit start count).FailsByProtocol := by
  constructor
  · intro factory
    exact (FailsByProtocol.mapError _).bind fun _ _ => .ok _
  · intro payload
    rw [readRange]
    dsimp only
    split
    · exact .ok _
    · exact failsByProtocol_unexpected payload

theorem failsByProtocol_writeRegister (unit : UInt8) (address value : UInt16) :
    (writeRegister unit address value).FailsByProtocol := by
  constructor
  · intro factory
    exact .ok _
  · intro payload
    rw [writeRegister]
    dsimp only
    split
    · exact .ok _
    · exact failsByProtocol_unexpected payload

theorem failsByProtocol_writeMultiple (unit : UInt8) (start : UInt16) (values : List UInt16) :
    (writeMultiple unit start values).FailsByProtocol := by
  constructor
  · intro factory
    exact (FailsByProtocol.mapError _).bind fun _ _ => .ok _
  · intro payload
    rw [writeMultiple]
    dsimp only
    split
    · exact .ok _
    · exact failsByProtocol_unexpected payload

theorem failsByProtocol_readDefinitions (order : ByteOrder) (unit : UInt8)
    (definitions : List Definition) : (readDefinitions order unit definitions).FailsByProtocol := by
  constructor
  · intro factory
    refine (FailsByProtocol.mapError _).bind fun _ _ => ?_
    refine (FailsByProtocol.mapError _).bind fun _ _ => ?_
    exact (failsByProtocol_readRange unit _ _).build factory
  · intro payload
    refine ((failsByProtocol_readRange unit 0 0).accept payload).bind fun bytes _ => ?_
    exact Layout.failsByProtocol_decode order definitions bytes

theorem failsByProtocol_writeDefinitions (order : ByteOrder) (unit : UInt8)
    (definitions : List Definition) : (writeDefinitions order unit definitions).FailsByProtocol := by
  constructor
  · intro factory
    refine (FailsByProtocol.mapError _).bind fun encoded _ => ?_
    refine (FailsByProtocol.mapError _).bind fun _ _ => ?_
    -- There are as many words in the buffer as are taken, so taking them does not fail.
    obtain ⟨words, taken⟩ := exists_takeWords order (Nat.mul_div_le encoded.2.length 2)
    rw [taken]
    exact (failsByProtocol_writeMultiple unit encoded.1 words).build factory
  · intro payload
    exact (failsByProtocol_writeMultiple unit 0 []).accept payload

theorem FailsByProtocol.interpret {operation : Operation α} (fails : operation.FailsByProtocol)
    (request response : Frame) : ModbusTcp.FailsByProtocol (operation.interpret request response) := by
  rw [Operation.interpret]
  cases response.pdu? with
  | none => exact .protocol _
  | some pdu =>
    dsimp only
    split
    · exact .protocol _
    · split
      · exact .ok _
      · exact (fails.accept _).map Answer.value
      · exact .protocol _

end Operation

/-! ### What an errand can come to -/

namespace Client

/-- All that an errand can come to.  It may have used up a transaction id. -/
inductive Ends (client : Client σ) (circumstances : Circumstances) : Except Error α → Client σ → Prop
  /-- It makes no sense, and is turned away. -/
  | refused (reason : ProtocolError) (factory : FrameFactory) :
      Ends client circumstances (.error (.protocol reason)) { client with factory }
  /-- It is cancelled before it starts. -/
  | withdrawn (cancelled : circumstances.cancelled = true) (factory : FrameFactory) :
      Ends client circumstances (.error .cancelled) { client with factory }
  /-- There is no link. -/
  | unconnected (none : client.link = none) (factory : FrameFactory) :
      Ends client circumstances (.error (.transmission .notConnected)) { client with factory }
  /-- A frame has been read back, whatever it says, and the link is free again. -/
  | kept (owned : client.link.isSome = true) {result : Except Error α} (fails : FailsByProtocol result)
      (factory : FrameFactory) (link : Link σ) :
      Ends client circumstances result ({ client with factory }.keep link)
  /-- It has broken off, and the link is lost. -/
  | lost (owned : client.link.isSome = true) {error : Error} (breaks : circumstances.Breaks error)
      (factory : FrameFactory) (link : Link σ) :
      Ends client circumstances (.error error) ({ client with factory }.lose link)

section Ends

variable {client next : Client σ} {circumstances : Circumstances}

theorem Ends.map {result : Except Error α} (ends : client.Ends circumstances result next) (f : α → β) :
    client.Ends circumstances (result.map f) next := by
  cases ends with
  | refused reason factory => exact .refused reason factory
  | withdrawn cancelled factory => exact .withdrawn cancelled factory
  | unconnected none factory => exact .unconnected none factory
  | kept owned fails factory link => exact .kept owned (fails.map f) factory link
  | lost owned breaks factory link => exact .lost owned breaks factory link

theorem Ends.bind {result : Except Error α} (ends : client.Ends circumstances result next)
    {f : α → Except Error β} (others : ∀ value, FailsByProtocol (f value)) :
    client.Ends circumstances (result >>= f) next := by
  cases ends with
  | refused reason factory => exact .refused reason factory
  | withdrawn cancelled factory => exact .withdrawn cancelled factory
  | unconnected none factory => exact .unconnected none factory
  | kept owned fails factory link => exact .kept owned (fails.bind fun value _ => others value) factory link
  | lost owned breaks factory link => exact .lost owned breaks factory link

/-- What a client comes to does not depend on its transaction ids. -/
theorem Ends.of_factory {factory : FrameFactory} {result : Except Error α}
    (ends : { client with factory }.Ends circumstances result next) :
    client.Ends circumstances result next := by
  cases ends with
  | refused reason factory => exact .refused reason factory
  | withdrawn cancelled factory => exact .withdrawn cancelled factory
  | unconnected none factory =>
    refine .unconnected ?_ factory
    exact none
  | kept owned fails factory link =>
    refine .kept ?_ fails factory link
    exact owned
  | lost owned breaks factory link =>
    refine .lost ?_ breaks factory link
    exact owned

/-- What a request can come to. -/
theorem ends_transceive (peer : Peer σ) (client : Client σ) (request : Frame)
    (circumstances : Circumstances) :
    let obtained := client.transceive peer request circumstances
    client.Ends circumstances obtained.1 obtained.2 := by
  cases isOpen : client.link with
  | some link =>
    have owned : client.link.isSome = true := Option.isSome_of_eq_some isOpen
    have exchanged := client.exchanged_transceive isOpen peer request circumstances
    generalize client.transceive peer request circumstances = obtained at exchanged
    obtain ⟨result, next⟩ := obtained
    cases exchanged with
    | beyond carries limits => exact .refused _ _
    | withdrawn limits cancelled => exact .withdrawn cancelled _
    | answered limits written response => exact .kept owned (.ok response) client.factory _
    | refused limits written reason => exact .kept owned (.protocol reason) client.factory _
    | lost limits count written breaks => exact .lost owned breaks client.factory _
  | none =>
    rw [transceive]
    rcases checkRequest_cases request circumstances.cancelled with
      ⟨pdu, reason, _, _, checked⟩ | ⟨_, checked⟩
    · rw [checked]
      exact .refused reason client.factory
    · rw [checked]
      cases cancelled : circumstances.cancelled with
      | true => exact .withdrawn cancelled client.factory
      | false =>
        have missing : client.takeLink = .error (.transmission .notConnected) := by
          rw [takeLink, isOpen]
        rw [if_neg Bool.false_ne_true, missing]
        exact .unconnected isOpen client.factory

/-- What an operation can come to. -/
theorem ends_run {operation : Operation α} (fails : operation.FailsByProtocol) (peer : Peer σ)
    (client : Client σ) (circumstances : Circumstances) :
    let ran := operation.run peer client circumstances
    client.Ends circumstances ran.1 ran.2 := by
  rw [Operation.run, perform, prepare]
  cases built : operation.build client.factory with
  | error error =>
    obtain ⟨reason, rfl⟩ := fails.build client.factory error built
    exact .refused reason client.factory
  | ok pair =>
    obtain ⟨request, factory⟩ := pair
    have ends := ends_transceive peer { client with factory } request circumstances
    exact ((ends.bind fun response => fails.interpret request response).map fun _ => ()).of_factory

/-- **All that an errand can come to.** -/
theorem ends_errand (peer : Peer σ) (client : Client σ) (circumstances : Circumstances)
    (errand : Errand) :
    let ran := errand.run peer client circumstances
    client.Ends circumstances ran.1 ran.2 := by
  cases errand with
  | exchange request => exact (ends_transceive peer client request circumstances).map fun _ => ()
  | readRange unit start count =>
    exact ends_run (Operation.failsByProtocol_readRange unit start count) peer client circumstances
  | writeRegister unit address value =>
    exact ends_run (Operation.failsByProtocol_writeRegister unit address value) peer client circumstances
  | writeMultiple unit start values =>
    exact ends_run (Operation.failsByProtocol_writeMultiple unit start values) peer client circumstances
  | readDefinitions unit definitions =>
    exact ends_run (Operation.failsByProtocol_readDefinitions _ unit definitions) peer client circumstances
  | writeDefinitions unit definitions =>
    exact ends_run (Operation.failsByProtocol_writeDefinitions _ unit definitions) peer client circumstances

/-- What an errand leaves of a client. -/
theorem Ends.isRetired {result : Except Error α} (ends : client.Ends circumstances result next) :
    next.isRetired = client.isRetired := by
  cases ends with
  | refused reason factory => rfl
  | withdrawn cancelled factory => rfl
  | unconnected none factory => rfl
  | kept owned fails factory link => rfl
  | lost owned breaks factory link => rfl

end Ends

end Client

end ModbusTcp
