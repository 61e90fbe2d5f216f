import ModbusTcp.Client

/-!
# What becomes of a request

A request on an open link is turned away, or something is read back for it, or the link is lost with it.

* `Circumstances.Uncancelled` — nobody cancels a call.
* `Circumstances.Breaks` — the errors with which a call can end that has taken the link.
* `Client.admitted_eq_ok` — a request that takes the link.
* `Client.Exchanged` — what can become of a request, and of the link.
* **`Client.exchanged_transceive`** — this is all.
-/

namespace ModbusTcp

variable {σ : Type}

/-- Nobody cancels the call. -/
structure Circumstances.Uncancelled (circumstances : Circumstances) : Prop where
  start : circumstances.cancelled = false
  sending : ∀ count reason, circumstances.sending = some (count, reason) → reason ≠ .cancelled
  waiting : circumstances.waiting ≠ .cancelled

theorem Circumstances.uncancelled_default : ({} : Circumstances).Uncancelled :=
  ⟨rfl, fun _ _ stopped => absurd stopped (by simp), by decide⟩

/-- A call that has taken the link ends with a transport error, or it has been cancelled. -/
def Circumstances.Breaks (circumstances : Circumstances) (error : Error) : Prop :=
  error.isTransport = true ∨ ¬circumstances.Uncancelled ∧ error = .cancelled

/-- Who is not cancelled has a transport error. -/
theorem Circumstances.Uncancelled.isTransport {circumstances : Circumstances} {error : Error}
    (uncancelled : circumstances.Uncancelled) (breaks : circumstances.Breaks error) :
    error.isTransport = true :=
  breaks.resolve_right fun cancelled => cancelled.1 uncancelled

/-- Who has to stop has a transport error or has been cancelled. -/
theorem Stop.toError_cases (reason : Stop) {phase : IoError → Error}
    (transport : ∀ reason, (phase reason).isTransport = true) :
    (reason.toError phase).isTransport = true ∨ reason = .cancelled ∧ reason.toError phase = .cancelled := by
  cases reason with
  | deadline => exact .inl (transport _)
  | cancelled => exact .inr ⟨rfl, rfl⟩
  | failed reason => exact .inl (transport reason)

theorem Circumstances.breaks_toError {circumstances : Circumstances} {reason : Stop}
    (cancels : reason = .cancelled → ¬circumstances.Uncancelled) {phase : IoError → Error}
    (transport : ∀ reason, (phase reason).isTransport = true) :
    circumstances.Breaks (reason.toError phase) :=
  (reason.toError_cases transport).imp_right fun cancelled => ⟨cancels cancelled.1, cancelled.2⟩

/-- A frame has at most one PDU whose limits count. -/
theorem Frame.checkLimits_eq_ok {request : Frame} {pdu : Pdu} (carries : request.pdu? = some pdu)
    (limited : pdu.checkLimits = .ok ()) : ∀ other, request.pdu? = some other → other.checkLimits = .ok () := by
  intro other carries'
  obtain rfl : pdu = other := Option.some.inj (carries.symm.trans carries')
  exact limited

namespace Client

/-- The limits of a request count first, and only then whether it has been cancelled. -/
theorem checkRequest_cases (request : Frame) (cancelled : Bool) :
    (∃ pdu reason, request.pdu? = some pdu ∧ pdu.checkLimits = .error reason ∧
        checkRequest request cancelled = .error (.protocol reason)) ∨
      (∀ pdu, request.pdu? = some pdu → pdu.checkLimits = .ok ()) ∧
        checkRequest request cancelled = if cancelled then .error .cancelled else .ok () := by
  unfold checkRequest
  cases carries : request.pdu? with
  | none => exact .inr ⟨nofun, rfl⟩
  | some pdu =>
    cases limits : pdu.checkLimits with
    | error reason =>
      refine .inl ⟨pdu, reason, rfl, limits, ?_⟩
      simp only [Option.map_some, Option.getD_some, limits]
      rfl
    | ok _ =>
      refine .inr ⟨fun other same => ?_, ?_⟩
      · obtain rfl : pdu = other := by simpa using same
        exact limits
      · simp only [Option.map_some, Option.getD_some, limits]
        rfl

/-- A request within the limits that is not cancelled takes the free link. -/
theorem admitted_eq_ok {client : Client σ} {link : Link σ} (isOpen : client.link = some link) {request : Frame}
    (limits : ∀ pdu, request.pdu? = some pdu → pdu.checkLimits = .ok ()) {cancelled : Bool}
    (goesOn : cancelled = false) :
    (checkRequest request cancelled >>= fun _ => client.takeLink) =
      .ok (link, { client with link := none }) := by
  rcases checkRequest_cases request cancelled with ⟨pdu, reason, carries, beyond, _⟩ | ⟨_, checked⟩
  · cases (limits pdu carries).symm.trans beyond
  · rw [checked, goesOn, takeLink, isOpen]
    rfl

/-- A frame is a response, or the request has failed with a protocol error. -/
theorem classify_cases (response : Frame) :
    classify response = .ok response ∨ ∃ reason, classify response = .error (.protocol reason) := by
  unfold classify
  split
  · exact .inl rfl
  · exact .inr ⟨_, rfl⟩
  · exact .inr ⟨_, rfl⟩

/-- What can become of a request on an open link. -/
inductive Exchanged (client : Client σ) (link : Link σ) (request : Frame)
    (circumstances : Circumstances) : Except Error Frame → Client σ → Prop
  /-- It is beyond the limits, and the link is not touched. -/
  | beyond {pdu : Pdu} {reason : ProtocolError} (carries : request.pdu? = some pdu)
      (limits : pdu.checkLimits = .error reason) :
      Exchanged client link request circumstances (.error (.protocol reason)) client
  /-- It is cancelled before it starts, and the link is not touched. -/
  | withdrawn (limits : ∀ pdu, request.pdu? = some pdu → pdu.checkLimits = .ok ())
      (cancelled : circumstances.cancelled = true) :
      Exchanged client link request circumstances (.error .cancelled) client
  /-- It is written, a response is read back, and the link is free again. -/
  | answered {next : Link σ} (limits : ∀ pdu, request.pdu? = some pdu → pdu.checkLimits = .ok ())
      (written : next.written = link.written ++ request.encode client.config.order)
      (response : Frame) :
      Exchanged client link request circumstances (.ok response) (client.keep next)
  /-- It is written, a frame is read back that is no response, and the link is free again. -/
  | refused {next : Link σ} (limits : ∀ pdu, request.pdu? = some pdu → pdu.checkLimits = .ok ())
      (written : next.written = link.written ++ request.encode client.config.order)
      (reason : ProtocolError) :
      Exchanged client link request circumstances (.error (.protocol reason)) (client.keep next)
  /-- Some of it is written, and the link is lost. -/
  | lost {next : Link σ} {error : Error}
      (limits : ∀ pdu, request.pdu? = some pdu → pdu.checkLimits = .ok ()) (count : Nat)
      (written : next.written = link.written ++ (request.encode client.config.order).take count)
      (breaks : circumstances.Breaks error) :
      Exchanged client link request circumstances (.error error) (client.lose next)

section Exchanged

variable {client : Client σ} {link : Link σ} {request : Frame} {circumstances : Circumstances}

/-- What can become of a request that has been written. -/
theorem exchanged_receive {next : Link σ}
    (limits : ∀ pdu, request.pdu? = some pdu → pdu.checkLimits = .ok ())
    (written : next.written = link.written ++ request.encode client.config.order) :
    let received := receive { client with link := none } next circumstances.waiting
    client.Exchanged link request circumstances received.1 received.2 := by
  have whole : next.written =
      link.written ++ (request.encode client.config.order).take
        (request.encode client.config.order).length := by
    rw [List.take_length, written]
  simp only [receive]
  cases pull client.config.order client.config.maxFrame next.unread with
  | frame bytes rest =>
    simp only [conclude]
    cases Frame.decode client.factory.resolver .response client.config.order bytes with
    | ok result =>
      have kept : { next with unread := rest }.written =
          link.written ++ request.encode client.config.order := written
      dsimp only
      rcases classify_cases result.1 with given | ⟨reason, given⟩
      · rw [given]
        exact .answered limits kept result.1
      · rw [given]
        exact .refused limits kept reason
    | error reason => exact .lost limits _ whole (.inl rfl)
  | tooLarge length max => exact .lost limits _ whole (.inl rfl)
  | incomplete =>
    refine .lost limits _ whole ?_
    unfold absence
    split
    · exact .inl rfl
    · refine Circumstances.breaks_toError ?_ fun _ => rfl
      exact fun cancelled uncancelled => uncancelled.waiting cancelled

/-- **What becomes of a request on an open link.** -/
theorem exchanged_transceive (isOpen : client.link = some link) (device : Peer σ) (request : Frame)
    (circumstances : Circumstances) :
    let obtained := client.transceive device request circumstances
    client.Exchanged link request circumstances obtained.1 obtained.2 := by
  rcases checkRequest_cases request circumstances.cancelled with
    ⟨pdu, reason, carries, limits, checked⟩ | ⟨limits, checked⟩
  · rw [transceive, checked]
    exact .beyond carries limits
  · cases cancelled : circumstances.cancelled with
    | true =>
      rw [cancelled, if_pos rfl] at checked
      rw [transceive, cancelled, checked]
      exact .withdrawn limits cancelled
    | false =>
      rw [transceive, admitted_eq_ok isOpen limits cancelled]
      dsimp only
      cases stopped : circumstances.sending with
      | none => exact exchanged_receive limits rfl
      | some stop =>
        obtain ⟨count, reason⟩ := stop
        refine .lost limits count rfl (Circumstances.breaks_toError ?_ fun _ => rfl)
        intro cancelled uncancelled
        exact uncancelled.sending count reason stopped cancelled

end Exchanged

end Client

end ModbusTcp
