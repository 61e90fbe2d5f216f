import ModbusTcp.Proofs.Client.Responses

/-!
# What a call succeeds with

A call succeeds with a response that has its function and is all there.  Neither the number of registers
nor an address or a value in the response is compared with what has been asked for.

* `Call.Accepts` — the frames that are a success, and the bytes of registers that they give.
* `Client.exists_answeredWith_of_value` — nothing but a whole frame of allowed size is a success.
* **`Client.perform_accepts_iff`** — the calls that succeed, whatever a peer sends.
* `Client.accepts_other_contents` — responses to something else that are taken for a success.
-/

namespace ModbusTcp

/-- A frame is a success for a call, with the bytes of registers that it gives.  What the call asks for
besides its function does not matter. -/
def Call.Accepts (frame : Bytes) (value : Option Bytes) : Call → Prop
  | .read .. => frame[9]? = some 0x03 ∧ ∃ count, frame[10]? = some count ∧
      11 + count.toNat ≤ frame.length ∧ value = some ((frame.drop 11).take count.toNat)
  | .write .. => frame[9]? = some 0x06 ∧ 14 ≤ frame.length ∧ value = none
  | .writeMultiple .. => frame[9]? = some 0x10 ∧ 14 ≤ frame.length ∧ value = none

/-- The payload of a call's own function, told by its bytes. -/
theorem Call.accepts_iff {call : Call} {order : ByteOrder} {frame : Bytes} {value : Option Bytes} :
    call.Accepts frame value ↔ frame[9]? = some call.function.value ∧
      ∃ content, Response.Carries order call.function.value (frame.drop 10) content ∧
        value = content.registers? := by
  have behind : (∃ content, Response.Carries order call.function.value (frame.drop 10) content ∧
      value = content.registers?) ↔ (call.payload order (frame.drop 10)).1 ≤ (frame.drop 10).length ∧
        value = (call.payload order (frame.drop 10)).2.registers? := by
    constructor
    · rintro ⟨content, carries, same⟩
      obtain ⟨rfl, enough⟩ := carries_iff.mp carries
      exact ⟨enough, same⟩
    · rintro ⟨enough, same⟩
      exact ⟨_, carries_iff.mpr ⟨rfl, enough⟩, same⟩
  rw [behind, List.length_drop]
  cases call with
  | read unit start count =>
    refine and_congr_right fun _ => ?_
    dsimp only [payload, Body.registers?]
    rw [List.getElem?_drop, List.drop_drop]
    cases there : frame[10]? with
    | none =>
      have short : frame.length ≤ 10 := List.getElem?_eq_none_iff.mp there
      exact iff_of_false nofun fun enough => by omega
    | some count =>
      have long : 10 < frame.length := (List.getElem?_eq_some_iff.mp there).1
      rw [Option.getD_some]
      constructor
      · rintro ⟨_, ⟨⟩, enough, same⟩
        exact ⟨by omega, same⟩
      · rintro ⟨enough, same⟩
        exact ⟨count, rfl, by omega, same⟩
  | write unit address value =>
    refine and_congr_right fun _ => and_congr_left' ?_
    show 14 ≤ frame.length ↔ 4 ≤ frame.length - 10
    omega
  | writeMultiple unit start values =>
    refine and_congr_right fun _ => and_congr_left' ?_
    show 14 ≤ frame.length ↔ 4 ≤ frame.length - 10
    omega

namespace Client

variable {σ : Type} {client : Client σ} {link : Link σ} {peer : Peer σ} {call : Call} {frame : Bytes}

/-- A call only succeeds if it is within the limits, and a whole frame of allowed size answers it. -/
theorem exists_answeredWith_of_value (linked : client.link = some link)
    (basic : ∃ others, client.factory.resolvers = Resolver.basic :: others) {waiting : Stop}
    {value : Option Bytes} (comes : (client.perform peer call.operation { waiting }).1 = .ok (.value value)) :
    ∃ frame, client.AnsweredWith peer call frame ∧
      frame <+: (link.write peer ((call.request client.factory).encode client.config.order)).unread := by
  by_cases within : call.WithinLimits
  · let factory := (client.factory.next call.unit call.function (.body call.content)).2
    let next : Client σ := { client with factory, link := none }
    let written := link.write peer ((call.request client.factory).encode client.config.order)
    rcases receive_cases next written waiting with ⟨frame, whole, fits, later, unread⟩ | ⟨error, fails⟩
    · exact ⟨frame, ⟨within, basic, ⟨link, later, linked, unread⟩, whole, fits⟩, later, unread.symm⟩
    · have failed : (client.perform peer call.operation { waiting }).1 = .error error := by
        rw [perform_eq_receive linked (Call.checkLimits_eq_ok within)
          (Call.build_operation within client.factory)]
        exact congrArg (· >>= call.operation.interpret (call.request client.factory)) fails
      rw [failed] at comes
      cases comes
  · obtain ⟨reason, fails⟩ := Call.exists_build_eq_error within client.factory
    rw [perform_of_build_eq_error fails] at comes
    cases comes

/-- **A call succeeds with every response that has its function and is all there.**  A client is linked to
a peer, whatever that sends.  A call outside the limits or without a whole frame of allowed size never
succeeds.  Nothing else is compared: reading registers gives the bytes that the response announces, however
many registers were asked for, and writing registers succeeds whatever address, value or count the response
names.  A response without a PDU or with another function is an error. -/
theorem perform_accepts_iff (linked : client.link = some link)
    (basic : ∃ others, client.factory.resolvers = Resolver.basic :: others) (peer : Peer σ) (call : Call)
    (waiting : Stop) :
    let performed := client.perform peer call.operation { waiting }
    let unread := (link.write peer ((call.request client.factory).encode client.config.order)).unread
    let answers (frame : Bytes) := Frame.IsWhole client.config.order frame ∧
      frame.length ≤ client.config.maxFrame ∧ frame <+: unread
    (∀ value, performed.1 = .ok (.value value) ↔
        call.WithinLimits ∧ ∃ frame, answers frame ∧ call.Accepts frame value) ∧
      (∀ bytes, performed.1 = .ok (.value (some bytes)) →
        ∃ count, unread[10]? = some count ∧ bytes.length = count.toNat) ∧
      (∀ frame, call.WithinLimits → answers frame → frame[9]? ≠ some call.function.value →
        frame[9]? ≠ some (call.function.value ||| exceptionFlag) →
          (∃ reason, performed.1 = .error (.protocol reason)) ∨
            ∃ reason, performed.1 = .error (.reception reason)) := by
  intro performed unread answers
  obtain ⟨others, known⟩ := basic
  have judged {frame : Bytes} (answered : client.AnsweredWith peer call frame) :
      call.Judged client.config.order others client.isConnected frame performed.1
        performed.2.isConnected := judged_perform answered known waiting
  have answered {frame : Bytes} (within : call.WithinLimits) (answer : answers frame) :
      client.AnsweredWith peer call frame := by
    obtain ⟨whole, fits, later, same⟩ := answer
    exact ⟨within, ⟨others, known⟩, ⟨link, later, linked, same.symm⟩, whole, fits⟩
  have values (value : Option Bytes) : performed.1 = .ok (.value value) ↔
      call.WithinLimits ∧ ∃ frame, answers frame ∧ call.Accepts frame value := by
    constructor
    · intro comes
      obtain ⟨frame, answered, front⟩ := exists_answeredWith_of_value linked ⟨others, known⟩ comes
      exact ⟨answered.within, frame, ⟨answered.whole, answered.fits, front⟩,
        Call.accepts_iff.mpr (((judged answered).accepted_iff value).mp comes)⟩
    · rintro ⟨within, frame, answer, accepts⟩
      exact ((judged (answered within answer)).accepted_iff value).mpr (Call.accepts_iff.mp accepts)
  refine ⟨values, fun bytes comes => ?_,
    fun frame within answer => (judged (answered within answer)).fails_of_other⟩
  obtain ⟨-, frame, ⟨-, -, later, same⟩, accepts⟩ := (values _).mp comes
  cases call with
  | read unit start count =>
    obtain ⟨-, announced, there, enough, value⟩ := accepts
    refine ⟨announced, ?_, ?_⟩
    · rw [← same, List.getElem?_append_left (by omega), there]
    · rw [Option.some.inj value, List.length_take, List.length_drop]
      omega
  | write unit address value => exact absurd accepts.2.2 (Option.some_ne_none _)
  | writeMultiple unit start values => exact absurd accepts.2.2 (Option.some_ne_none _)

/-- A client that reads one register gets it, and the answer to writing a register is an error. -/
theorem perform_accepts_register :
    let client : Client Unit :=
      { config := { host := "device" }, factory := {}, link := some { peer := () }, isConnected := true }
    let read (frame : Bytes) :=
      client.perform ⟨fun _ _ => { state := (), answer := frame }⟩ (Call.read 1 0 1).operation {}
    (read [0, 0, 0, 0, 0, 0, 0, 5, 1, 3, 2, 0, 7]).1 = .ok (.value (some [0, 7])) ∧
      ((∃ reason, (read [0, 0, 0, 0, 0, 0, 0, 6, 1, 6, 0, 0, 0, 7]).1 = .error (.protocol reason)) ∨
        ∃ reason, (read [0, 0, 0, 0, 0, 0, 0, 6, 1, 6, 0, 0, 0, 7]).1 = .error (.reception reason)) := by
  intro client read
  let peer (frame : Bytes) : Peer Unit := ⟨fun _ _ => { state := (), answer := frame }⟩
  have basic : ∃ others, client.factory.resolvers = Resolver.basic :: others := ⟨[], rfl⟩
  have within : (Call.read 1 0 1).WithinLimits := by decide
  let one : Bytes := [0, 0, 0, 0, 0, 0, 0, 5, 1, 3, 2, 0, 7]
  let written : Bytes := [0, 0, 0, 0, 0, 0, 0, 6, 1, 6, 0, 0, 0, 7]
  obtain ⟨accepts, -⟩ := perform_accepts_iff rfl basic (peer one) (.read 1 0 1) .deadline
  obtain ⟨-, -, fails⟩ := perform_accepts_iff rfl basic (peer written) (.read 1 0 1) .deadline
  have answers : Call.Accepts one (some [0, 7]) (.read 1 0 1) := ⟨rfl, 2, rfl, by decide, rfl⟩
  exact ⟨(accepts _).mpr ⟨within, one, ⟨rfl, by decide, List.prefix_rfl⟩, answers⟩,
    fails written within ⟨rfl, by decide, List.prefix_rfl⟩ (by decide) (by decide)⟩

/-- Answers that say something else than they should: an odd number of bytes for two registers, and other
addresses, values and counts than those that were written.  Each of them is a success. -/
theorem accepts_other_contents :
    let client : Client Unit :=
      { config := { host := "device" }, factory := {}, link := some { peer := () }, isConnected := true }
    let perform (call : Call) (frame : Bytes) :=
      (client.perform ⟨fun _ _ => { state := (), answer := frame }⟩ call.operation {}).1
    let read : Bytes := [0, 0, 0, 0, 0, 0, 0, 6, 1, 3, 3, 0x12, 0x34, 0x56]
    let written : Bytes := [0, 0, 0, 0, 0, 0, 0, 6, 1, 6, 0, 9, 0, 8]
    let multiple : Bytes := [0, 0, 0, 0, 0, 0, 0, 6, 1, 0x10, 0, 9, 0, 8]
    (∃ bytes, perform (.read 1 0 2) read = .ok (.value (some bytes)) ∧ bytes.length ≠ 2 * 2) ∧
      (perform (.write 1 5 7) written = .ok (.value none) ∧
        ByteOrder.big.wordAt written 10 ≠ 5 ∧ ByteOrder.big.wordAt written 12 ≠ 7) ∧
      (perform (.writeMultiple 1 5 [7]) multiple = .ok (.value none) ∧
        ByteOrder.big.wordAt multiple 10 ≠ 5 ∧ ByteOrder.big.wordAt multiple 12 ≠ 1) := by
  intro client perform read written multiple
  have accepts (call : Call) (within : call.WithinLimits) (frame : Bytes) {value : Option Bytes}
      (whole : Frame.IsWhole .big frame) (fits : frame.length ≤ 16384) (accepted : call.Accepts frame value) :
      perform call frame = .ok (.value value) := by
    have answered := answeredWith_of_answer { host := "device" } call within frame whole fits
    exact ((judged_perform answered rfl .deadline).accepted_iff value).mpr (Call.accepts_iff.mp accepted)
  refine ⟨⟨[0x12, 0x34, 0x56], ?_, by decide⟩, ⟨?_, by decide, by decide⟩, ?_, by decide, by decide⟩
  · exact accepts (.read 1 0 2) (by decide) read rfl (by decide) ⟨rfl, 3, rfl, by decide, rfl⟩
  · exact accepts (.write 1 5 7) (by decide) written rfl (by decide) ⟨rfl, by decide, rfl⟩
  · exact accepts (.writeMultiple 1 5 [7]) (by decide) multiple rfl (by decide) ⟨rfl, by decide, rfl⟩

end Client

end ModbusTcp
