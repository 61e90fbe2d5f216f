import ModbusTcp.Client.Desk
import ModbusTcp.Proofs.Client.Errands

/-!
# The life of a client

Whatever is asked of a client, in whichever order, and whatever becomes of its connections: it counts as
connected exactly while it has a link, each failure leaves it in the state that belongs to it, and once it
has been disconnected it stays so.

* `Act` — what is asked of a client, and how it goes; `Client.after` for one act after the other.
* `Client.Sound` — what every act preserves.
* `Client.Reliable` — what can be relied on after any acts.
* `Desk.Sound`, `Desk.Tells`, `Desk.Closed` — the same for tasks that share a client.
* `Desk.Reliable` — what can be relied on after any events.
* **`Client.lifecycle`** — a new client is reliable, whether it is used by one task or by many.
-/

namespace ModbusTcp

variable {σ α : Type}

/-! ### Acts -/

/-- What is asked of a client, and how it goes: whether it is cancelled, how an attempt to connect ends,
and whether the link can be shut down. -/
inductive Act (σ : Type) where
  | connect (cancelled : Bool) (attempt : Attempt σ)
  | disconnect (shutdown : Except IoError Unit)
  | errand (errand : Errand) (circumstances : Circumstances)

namespace Act

/-- How an act ends. -/
def run (peer : Peer σ) (client : Client σ) : Act σ → Except Error Unit × Client σ
  | .connect cancelled attempt => client.connect cancelled attempt
  | .disconnect shutdown => (client.closing shutdown, client.disconnect)
  | .errand task circumstances => task.run peer client circumstances

/-- The act disconnects the client for good. -/
def retires : Act σ → Bool
  | .disconnect _ => true
  | .connect _ _ => false
  | .errand _ _ => false

end Act

/-- The client after several acts, one after the other. -/
def Client.after (peer : Peer σ) (client : Client σ) (acts : List (Act σ)) : Client σ :=
  acts.foldl (fun client act => (act.run peer client).2) client

namespace Client

/-! ### One task at a time -/

/-- A client counts as connected exactly if it has a link, and if it has been disconnected for good it
has none. -/
structure Sound (client : Client σ) : Prop where
  agrees : client.isConnected = client.link.isSome
  unlinked : client.isRetired = true → client.link = none

section Sound

variable {client next : Client σ} {circumstances : Circumstances}

/-- An errand preserves it. -/
theorem Sound.ends (sound : client.Sound) {result : Except Error α}
    (ends : client.Ends circumstances result next) : next.Sound := by
  cases ends with
  | refused reason factory => exact ⟨sound.agrees, sound.unlinked⟩
  | withdrawn cancelled factory => exact ⟨sound.agrees, sound.unlinked⟩
  | unconnected none factory => exact ⟨sound.agrees, sound.unlinked⟩
  | kept owned fails factory link =>
    refine ⟨sound.agrees.trans owned, fun retired => ?_⟩
    rw [sound.unlinked retired] at owned
    exact nomatch owned
  | lost owned breaks factory link => exact ⟨rfl, fun _ => rfl⟩

theorem sound_disconnect (client : Client σ) : client.disconnect.Sound := ⟨rfl, fun _ => rfl⟩

/-- Connecting preserves it. -/
theorem Sound.connect (sound : client.Sound) (cancelled : Bool) (attempt : Attempt σ) :
    (client.connect cancelled attempt).2.Sound := by
  rw [Client.connect]
  split
  · exact sound
  · split
    · exact sound
    · rename_i usable
      split
      · exact sound
      · cases attempt with
        | established link => exact ⟨rfl, fun retired => absurd retired usable⟩
        | stopped reason => exact sound

/-- **Every act preserves it.** -/
theorem Sound.run (sound : client.Sound) (peer : Peer σ) (act : Act σ) : (act.run peer client).2.Sound := by
  cases act with
  | connect cancelled attempt => exact sound.connect cancelled attempt
  | disconnect shutdown => exact sound_disconnect client
  | errand errand circumstances => exact sound.ends (ends_errand peer client circumstances errand)

/-- A client is retired by the first act that disconnects it, and stays so. -/
theorem isRetired_run (peer : Peer σ) (client : Client σ) (act : Act σ) :
    (act.run peer client).2.isRetired = (client.isRetired || act.retires) := by
  cases act with
  | connect cancelled attempt =>
    rw [Act.retires, Bool.or_false, Act.run, Client.connect]
    split
    · rfl
    · split
      · rfl
      · split
        · rfl
        · cases attempt <;> rfl
  | disconnect shutdown =>
    rw [Act.retires, Bool.or_true]
    rfl
  | errand errand circumstances =>
    rw [Act.retires, Bool.or_false]
    exact (ends_errand peer client circumstances errand).isRetired

theorem Sound.after (sound : client.Sound) (peer : Peer σ) (acts : List (Act σ)) :
    (client.after peer acts).Sound := by
  induction acts generalizing client with
  | nil => exact sound
  | cons act acts ih => exact ih (sound.run peer act)

theorem isRetired_after (peer : Peer σ) (client : Client σ) (acts : List (Act σ)) :
    (client.after peer acts).isRetired = (client.isRetired || acts.any Act.retires) := by
  induction acts generalizing client with
  | nil => exact (Bool.or_false _).symm
  | cons act acts ih =>
    rw [List.any_cons, ← Bool.or_assoc, ← isRetired_run peer client act]
    exact ih (act.run peer client).2

end Sound

/-! ### What each failure leaves -/

section Failures

variable {client next : Client σ} {circumstances : Circumstances}

/-- After a transport error there is no connection. -/
theorem Ends.of_isTransport {error : Error}
    (ends : client.Ends circumstances (.error error : Except Error α) next) (sound : client.Sound)
    (transport : error.isTransport = true) : next.isConnected = false := by
  cases ends with
  | refused reason factory => exact nomatch transport
  | withdrawn cancelled factory => exact nomatch transport
  | unconnected none factory =>
    show client.isConnected = false
    rw [sound.agrees, none, Option.isSome_none]
  | kept owned fails factory link =>
    obtain ⟨reason, rfl⟩ := fails error rfl
    exact nomatch transport
  | lost owned breaks factory link => rfl

/-- A protocol error leaves the connection as it was. -/
theorem Ends.of_protocol {reason : ProtocolError}
    (ends : client.Ends circumstances (.error (.protocol reason) : Except Error α) next) :
    next.isConnected = client.isConnected ∧ next.link.isSome = client.link.isSome := by
  cases ends with
  | refused reason factory => exact ⟨rfl, rfl⟩
  | kept owned fails factory link => exact ⟨rfl, owned.symm⟩
  | lost owned breaks factory link =>
    rcases breaks with transport | ⟨_, cancelled⟩
    · exact nomatch transport
    · exact nomatch cancelled

/-- Whoever is cancelled once the link is taken leaves no connection. -/
theorem Ends.of_cancelled
    (ends : client.Ends circumstances (.error .cancelled : Except Error α) next)
    (admitted : circumstances.cancelled = false) : next.isConnected = false := by
  cases ends with
  | withdrawn cancelled factory => exact nomatch admitted.symm.trans cancelled
  | kept owned fails factory link =>
    obtain ⟨reason, other⟩ := fails _ rfl
    exact nomatch other
  | lost owned breaks factory link => rfl

/-- Connecting a client that is connected changes nothing. -/
theorem Sound.connect_of_isConnected (sound : client.Sound) (connected : client.isConnected = true)
    (cancelled : Bool) (attempt : Attempt σ) :
    client.connect cancelled attempt = (if cancelled then .error .cancelled else .ok (), client) := by
  have owned : client.link.isSome = true := sound.agrees.symm.trans connected
  have usable : ¬client.isRetired = true := by
    intro retired
    rw [sound.unlinked retired] at owned
    exact nomatch owned
  rw [Client.connect, if_neg usable, if_pos owned]
  split <;> rfl

/-- A retired client does not connect. -/
theorem connect_of_isRetired (retired : client.isRetired = true) (attempt : Attempt σ) :
    client.connect false attempt = (.error (.connect .retired), client) := by
  rw [Client.connect, if_neg Bool.false_ne_true, if_pos retired]

/-- Without a link a request fails, unless it is turned away before. -/
theorem transceive_of_unlinked (none : client.link = none) (peer : Peer σ) {request : Frame}
    (limits : ∀ pdu, request.pdu? = some pdu → pdu.checkLimits = .ok ())
    (admitted : circumstances.cancelled = false) :
    client.transceive peer request circumstances = (.error (.transmission .notConnected), client) := by
  have missing : client.takeLink = .error (.transmission .notConnected) := by
    rw [takeLink, none]
  rw [transceive, admitted]
  rcases checkRequest_cases request false with ⟨pdu, reason, carries, beyond, _⟩ | ⟨_, checked⟩
  · rw [limits pdu carries] at beyond
    cases beyond
  · rw [checked, if_neg Bool.false_ne_true, missing]
    rfl

end Failures

/-- What can be relied on of a client that has been asked for some acts, whatever it is asked for next. -/
structure Reliable (peer : Peer σ) (acts : List (Act σ)) (client : Client σ) : Prop where
  /-- It counts as connected exactly if it has a link. -/
  agrees : client.isConnected = client.link.isSome
  /-- A transport error leaves it without a connection. -/
  transport : ∀ errand circumstances error,
    (Errand.run peer client circumstances errand).1 = .error error → error.isTransport = true →
      (Errand.run peer client circumstances errand).2.isConnected = false
  /-- A protocol error leaves the connection as it was. -/
  protocol : ∀ errand circumstances reason,
    (Errand.run peer client circumstances errand).1 = .error (.protocol reason) →
      (Errand.run peer client circumstances errand).2.isConnected = client.isConnected ∧
        (Errand.run peer client circumstances errand).2.link.isSome = client.link.isSome
  /-- Whoever is cancelled once the link is taken leaves no connection. -/
  cancelled : ∀ errand circumstances, circumstances.cancelled = false →
    (Errand.run peer client circumstances errand).1 = .error .cancelled →
      (Errand.run peer client circumstances errand).2.isConnected = false
  /-- Connecting again changes nothing. -/
  connected : client.isConnected = true → ∀ cancelled attempt,
    client.connect cancelled attempt = (if cancelled then .error .cancelled else .ok (), client)
  /-- Once it has been disconnected it is not connected any more, and does not become so. -/
  retired : acts.any Act.retires = true → client.isConnected = false ∧
    (∀ attempt, client.connect false attempt = (.error (.connect .retired), client)) ∧
    ∀ request circumstances, (∀ pdu, request.pdu? = some pdu → pdu.checkLimits = .ok ()) →
      circumstances.cancelled = false →
        client.transceive peer request circumstances = (.error (.transmission .notConnected), client)

/-- A new client is reliable after any acts. -/
theorem reliable_after (config : ClientConfig) (factory : FrameFactory) (peer : Peer σ)
    (acts : List (Act σ)) :
    Reliable peer acts (after peer { config, factory } acts) := by
  have fresh : Sound ({ config, factory } : Client σ) := ⟨rfl, fun _ => rfl⟩
  have sound := fresh.after peer acts
  have isRetired := isRetired_after peer { config, factory } acts
  generalize after peer { config, factory } acts = client at sound isRetired
  have ends (errand : Errand) (circumstances : Circumstances) {error : Error}
      (fails : (errand.run peer client circumstances).1 = .error error) :
      client.Ends circumstances (.error error : Except Error Unit)
        (errand.run peer client circumstances).2 :=
    fails ▸ (ends_errand peer client circumstances errand : client.Ends circumstances _ _)
  constructor
  · exact sound.agrees
  · intro errand circumstances error fails transport
    exact (ends errand circumstances fails).of_isTransport sound transport
  · intro errand circumstances reason fails
    exact (ends errand circumstances fails).of_protocol
  · intro errand circumstances admitted fails
    exact (ends errand circumstances fails).of_cancelled admitted
  · exact sound.connect_of_isConnected
  · intro disconnected
    have retired : client.isRetired = true := isRetired.trans disconnected
    have unlinked := sound.unlinked retired
    refine ⟨by rw [sound.agrees, unlinked, Option.isSome_none], connect_of_isRetired retired, ?_⟩
    intro request circumstances limits admitted
    exact transceive_of_unlinked unlinked peer limits admitted

end Client

/-! ### Many tasks -/

/-- The error of a task that needs a link, of a client that has been disconnected for good. -/
def Task.unlinkedError : Task → Error
  | .connect => .connect .retired
  | .disconnect | .exchange _ => .transmission .notConnected

namespace Desk

variable {desk : Desk σ}

/-- There is a link, which may be in use. -/
def hasLink (desk : Desk σ) : Bool :=
  match desk.holder with
  | some (_, .exchanging _) => true
  | some (_, .connecting) => false
  | none => desk.client.link.isSome

/-- The client counts as connected exactly if there is a link, which is not free while a task is admitted;
and it is retired as soon as somebody waits to disconnect it. -/
structure Sound (desk : Desk σ) : Prop where
  agrees : desk.client.isConnected = desk.hasLink
  taken : desk.holder.isSome = true → desk.client.link = none
  announced : ∀ ticket, (ticket, Task.disconnect) ∈ desk.queue → desk.client.isRetired = true

/-- What an event can tell a task, and what the task finds then. -/
inductive Tells (desk next : Desk σ) : Prop
  /-- Nobody is told anything. -/
  | nothing (same : next.outcomes = desk.outcomes)
  /-- A task that has no request is done. -/
  | done (ticket : Nat) (result : Except Error Unit)
      (told : next.outcomes = desk.outcomes ++ [(ticket, .done result)])
  /-- A frame has been read back, and the connection is as it was. -/
  | answered (ticket : Nat) {result : Except Error Frame} (fails : FailsByProtocol result)
      (told : next.outcomes = desk.outcomes ++ [(ticket, .response result)])
      (stays : next.client.isConnected = desk.client.isConnected)
  /-- The request has failed, and there is no connection. -/
  | failed (ticket : Nat) {error : Error} (breaks : error.isTransport = true ∨ error = .cancelled)
      (told : next.outcomes = desk.outcomes ++ [(ticket, .response (.error error))])
      (gone : next.client.isConnected = false)
  /-- A task is cancelled that has not been admitted. -/
  | withdrawn (ticket : Nat)
      (told : next.outcomes = desk.outcomes ++ [(ticket, .response (.error .cancelled))])
      (stays : next.holder = desk.holder)

/-- The client is retired and has no link, and nobody is admitted. -/
structure Closed (desk : Desk σ) : Prop where
  retired : desk.client.isRetired = true
  unlinked : desk.client.link = none
  unconnected : desk.client.isConnected = false
  idle : desk.holder = none

/-! #### A task is admitted -/

section Admit

variable {queue : List (Nat × Task)}

theorem Sound.give (sound : desk.Sound) (ticket : Nat) (outcome : Outcome) :
    (desk.give ticket outcome).Sound :=
  ⟨sound.agrees, sound.taken, sound.announced⟩

theorem Sound.dequeue (sound : desk.Sound) {queue : List (Nat × Task)}
    (fewer : ∀ task ∈ queue, task ∈ desk.queue) : { desk with queue }.Sound :=
  ⟨sound.agrees, sound.taken, fun ticket waits => sound.announced ticket (fewer _ waits)⟩

theorem Sound.enqueue (sound : desk.Sound) (waiting : Nat × Task)
    (other : waiting.2 = .disconnect → desk.client.isRetired = true) :
    { desk with queue := desk.queue ++ [waiting] }.Sound := by
  refine ⟨sound.agrees, sound.taken, fun ticket waits => ?_⟩
  rcases List.mem_append.mp waits with earlier | last
  · exact sound.announced ticket earlier
  · exact other (congrArg Prod.snd (List.mem_singleton.mp last).symm)

/-- While nobody is admitted the client itself is sound. -/
theorem Sound.agrees_of_idle (sound : desk.Sound) (idle : desk.holder = none) :
    desk.client.isConnected = desk.client.link.isSome := by
  rw [sound.agrees, hasLink, idle]

theorem Sound.admitTask (sound : desk.Sound) (idle : desk.holder = none) (shutdown : Except IoError Unit)
    (ticket : Nat) (task : Task) : (desk.admitTask shutdown ticket task).Sound := by
  have agrees := sound.agrees_of_idle idle
  cases task with
  | connect =>
    simp only [Desk.admitTask]
    split
    · exact sound.give ticket _
    · split
      · exact sound.give ticket _
      · rename_i unlinked
        have none : desk.client.link = none := Option.not_isSome_iff_eq_none.mp unlinked
        refine ⟨?_, fun _ => none, sound.announced⟩
        rw [none] at agrees
        exact agrees
  | disconnect =>
    have closed : Sound { desk with client := desk.client.close } := by
      refine ⟨?_, fun _ => rfl, sound.announced⟩
      rw [hasLink]
      dsimp only
      rw [idle]
      rfl
    exact closed.give ticket _
  | exchange request =>
    simp only [Desk.admitTask, Client.takeLink]
    cases isFree : desk.client.link with
    | none => exact sound.give ticket _
    | some link =>
      rw [isFree] at agrees
      exact ⟨agrees, fun _ => rfl, sound.announced⟩

theorem tells_admitTask (sound : desk.Sound) (idle : desk.holder = none) (shutdown : Except IoError Unit)
    (ticket : Nat) (task : Task) : desk.Tells (desk.admitTask shutdown ticket task) := by
  have agrees := sound.agrees_of_idle idle
  cases task with
  | connect =>
    simp only [admitTask]
    split
    · exact .done ticket _ rfl
    · split
      · exact .done ticket _ rfl
      · exact .nothing rfl
  | disconnect => exact .done ticket _ rfl
  | exchange request =>
    simp only [admitTask, Client.takeLink]
    cases isFree : desk.client.link with
    | none =>
      rw [isFree] at agrees
      exact .failed ticket (.inl rfl) rfl agrees
    | some link => exact .nothing rfl

end Admit

/-! #### A task goes on -/

section Go

variable {ticket : Nat} {flight : Flight σ}

/-- The admitted task leaves a sound client. -/
theorem Sound.release (sound : desk.Sound) {client : Client σ}
    (agrees : client.isConnected = client.link.isSome)
    (retired : client.isRetired = desk.client.isRetired) : (desk.release client).Sound :=
  ⟨agrees, nofun, fun ticket waits => retired.trans (sound.announced ticket waits)⟩

theorem Sound.failExchange (sound : desk.Sound) (ticket : Nat) (flight : Flight σ) (error : Error) :
    (desk.failExchange ticket flight error).Sound := by
  have lost : (desk.release (desk.client.lose flight.link)).Sound := sound.release rfl rfl
  exact lost.give ticket _

theorem tells_failExchange (ticket : Nat) (flight : Flight σ) {error : Error}
    (breaks : error.isTransport = true ∨ error = .cancelled) :
    desk.Tells (desk.failExchange ticket flight error) :=
  .failed ticket breaks rfl rfl

/-- What the bytes of a response come to: a frame has been read back, or the link is lost. -/
theorem conclude_cases (client : Client σ) (link : Link σ) (bytes : Bytes) :
    (∃ result, FailsByProtocol result ∧ client.conclude link bytes = (result, client.keep link)) ∨
      ∃ reason, client.conclude link bytes = (.error (.reception reason), client.lose link) := by
  rw [Client.conclude]
  split
  · rename_i response _ _
    refine .inl ⟨_, ?_, rfl⟩
    rcases Client.classify_cases response with given | ⟨reason, given⟩
    · rw [given]
      exact .ok response
    · rw [given]
      exact .protocol reason
  · exact .inr ⟨_, rfl⟩

theorem Sound.stepConnecting (sound : desk.Sound) (holds : desk.holder = some (ticket, .connecting))
    (event : Event σ) : (desk.stepConnecting ticket event).Sound := by
  have unlinked : desk.client.link = none := sound.taken (Option.isSome_of_eq_some holds)
  have unconnected : desk.client.isConnected = false := by
    rw [sound.agrees, hasLink, holds]
  have released : (desk.release desk.client).Sound :=
    sound.release (by rw [unlinked, unconnected, Option.isSome_none]) rfl
  cases event with
  | attempted attempt =>
    cases attempt with
    | established link =>
      have opened : (desk.release { desk.client with link := some link, isConnected := true }).Sound :=
        sound.release rfl rfl
      exact opened.give ticket _
    | stopped reason => exact released.give ticket _
  | stop reason => exact released.give ticket _
  | drop => exact released
  | _ => exact sound

theorem tells_stepConnecting (desk : Desk σ) (ticket : Nat) (event : Event σ) :
    desk.Tells (desk.stepConnecting ticket event) := by
  cases event with
  | attempted attempt => exact .done ticket _ rfl
  | stop reason => exact .done ticket _ rfl
  | drop => exact .nothing rfl
  | _ => exact .nothing rfl

theorem Sound.stepExchange (sound : desk.Sound)
    (holds : desk.holder = some (ticket, .exchanging flight)) (peer : Peer σ) (event : Event σ) :
    (desk.stepExchange peer ticket flight event).Sound := by
  have unlinked : desk.client.link = none := sound.taken (Option.isSome_of_eq_some holds)
  have connected : desk.client.isConnected = true := by
    rw [sound.agrees, hasLink, holds]
  have goesOn (flight : Flight σ) : { desk with holder := some (ticket, .exchanging flight) }.Sound :=
    ⟨connected, fun _ => unlinked, sound.announced⟩
  cases event with
  | send count => exact goesOn _
  | receive count =>
    simp only [Desk.stepExchange]
    split
    · exact goesOn _
    · exact sound
  | conclude =>
    simp only [Desk.stepExchange]
    split
    · split
      · exact sound.failExchange ticket flight _
      · split
        · rcases conclude_cases desk.client flight.link flight.received with
            ⟨result, _, concluded⟩ | ⟨reason, concluded⟩
          · have kept : (desk.release (desk.client.keep flight.link)).Sound := sound.release connected rfl
            rw [concluded]
            exact kept.give ticket _
          · have lost : (desk.release (desk.client.lose flight.link)).Sound := sound.release rfl rfl
            rw [concluded]
            exact lost.give ticket _
        · exact sound
    · exact sound
  | stop reason => exact sound.failExchange ticket flight _
  | ended =>
    simp only [Desk.stepExchange]
    split
    · exact sound.failExchange ticket flight _
    · exact sound
  | drop => exact sound.release rfl rfl
  | _ => exact sound

theorem tells_stepExchange (sound : desk.Sound)
    (holds : desk.holder = some (ticket, .exchanging flight)) (peer : Peer σ) (event : Event σ) :
    desk.Tells (desk.stepExchange peer ticket flight event) := by
  have connected : desk.client.isConnected = true := by
    rw [sound.agrees, hasLink, holds]
  cases event with
  | receive count =>
    simp only [stepExchange]
    split
    · exact .nothing rfl
    · exact .nothing rfl
  | conclude =>
    simp only [stepExchange]
    split
    · split
      · exact tells_failExchange ticket flight (.inl rfl)
      · split
        · rcases conclude_cases desk.client flight.link flight.received with
            ⟨result, fails, concluded⟩ | ⟨reason, concluded⟩
          · rw [concluded]
            exact .answered ticket fails rfl rfl
          · rw [concluded]
            exact .failed ticket (.inl rfl) rfl rfl
        · exact .nothing rfl
    · exact .nothing rfl
  | stop reason =>
    refine tells_failExchange ticket flight ?_
    have transport (sent : Bool) : ∀ reason,
        ((if sent then Error.reception else Error.transmission) reason).isTransport = true := by
      cases sent <;> exact fun _ => rfl
    exact (reason.toError_cases (transport _)).imp_right And.right
  | ended =>
    simp only [stepExchange]
    split
    · exact tells_failExchange ticket flight (.inl rfl)
    · exact .nothing rfl
  | _ => exact .nothing rfl

end Go

/-! #### Any event -/

/-- **Every event preserves it.** -/
theorem Sound.step (sound : desk.Sound) (peer : Peer σ) (event : Event σ) :
    (desk.step peer event).Sound := by
  cases event with
  | start ticket task =>
    cases task with
    | disconnect => exact ⟨sound.agrees, sound.taken, fun _ _ => rfl⟩
    | connect => exact sound.enqueue (ticket, .connect) nofun
    | exchange request => exact sound.enqueue (ticket, .exchange request) nofun
  | withdraw ticket =>
    simp only [Desk.step]
    split
    · exact (sound.dequeue fun _ stays => (List.mem_filter.mp stays).1).give ticket _
    · exact sound
  | leave ticket => exact sound.dequeue fun _ stays => (List.mem_filter.mp stays).1
  | enter shutdown =>
    simp only [Desk.step]
    split
    · rename_i ticket task queue idle waits
      have fewer : ∀ other ∈ queue, other ∈ desk.queue := by
        rw [waits]
        exact fun other => List.mem_cons_of_mem _
      exact (sound.dequeue fewer).admitTask idle shutdown ticket task
    · exact sound
  | _ =>
    cases holds : desk.holder with
    | none =>
      simp only [Desk.step, holds]
      exact sound
    | some held =>
      obtain ⟨ticket, activity⟩ := held
      cases activity with
      | connecting =>
        simp only [Desk.step, holds]
        exact sound.stepConnecting holds _
      | exchanging flight =>
        simp only [Desk.step, holds]
        exact sound.stepExchange holds peer _

/-- **All that an event can tell.** -/
theorem tells_step (sound : desk.Sound) (peer : Peer σ) (event : Event σ) :
    desk.Tells (desk.step peer event) := by
  cases event with
  | start ticket task => exact .nothing rfl
  | withdraw ticket =>
    simp only [step]
    split
    · rename_i task _
      cases task with
      | connect => exact .done ticket _ rfl
      | disconnect => exact .done ticket _ rfl
      | exchange request => exact .withdrawn ticket rfl rfl
    · exact .nothing rfl
  | leave ticket => exact .nothing rfl
  | enter shutdown =>
    simp only [step]
    split
    · rename_i ticket task queue idle waits
      have fewer : ∀ other ∈ queue, other ∈ desk.queue := by
        rw [waits]
        exact fun other => List.mem_cons_of_mem _
      -- What a task is told does not depend on who waits behind it.
      cases tells_admitTask (sound.dequeue fewer) idle shutdown ticket task with
      | nothing same => exact .nothing same
      | done ticket result told => exact .done ticket result told
      | answered ticket fails told stays => exact .answered ticket fails told stays
      | failed ticket breaks told gone => exact .failed ticket breaks told gone
      | withdrawn ticket told stays => exact .withdrawn ticket told stays
    · exact .nothing rfl
  | _ =>
    cases holds : desk.holder with
    | none =>
      simp only [step, holds]
      exact .nothing rfl
    | some held =>
      obtain ⟨ticket, activity⟩ := held
      cases activity with
      | connecting =>
        simp only [step, holds]
        exact tells_stepConnecting desk ticket _
      | exchanging flight =>
        simp only [step, holds]
        exact tells_stepExchange sound holds peer _

theorem Sound.run (sound : desk.Sound) (peer : Peer σ) (events : List (Event σ)) :
    (desk.run peer events).Sound := by
  induction events generalizing desk with
  | nil => exact sound
  | cons event events ih => exact ih (sound.step peer event)

/-! #### What a task is told of a failure -/

section Told

variable {next : Desk σ} {ticket : Nat} {error : Error}

/-- Only one thing is told at a time. -/
theorem outcome_eq {given given' : Nat × Outcome} (told : next.outcomes = desk.outcomes ++ [given])
    (told' : next.outcomes = desk.outcomes ++ [given']) : given = given' :=
  List.singleton_inj.mp (List.append_cancel_left (told.symm.trans told'))

theorem outcomes_ne (same : next.outcomes = desk.outcomes) (given : Nat × Outcome) :
    next.outcomes ≠ desk.outcomes ++ [given] := by
  intro told
  have lengths := congrArg List.length (same.symm.trans told)
  simp at lengths

/-- A request that fails has lost the connection, or has left it as it was: with a protocol error, or
without having been admitted. -/
theorem Tells.cases_error (tells : desk.Tells next)
    (told : next.outcomes = desk.outcomes ++ [(ticket, .response (.error error))]) :
    (error.isTransport = true ∨ error = .cancelled) ∧ next.client.isConnected = false ∨
      (∃ reason, error = .protocol reason) ∧ next.client.isConnected = desk.client.isConnected ∨
      error = .cancelled ∧ next.holder = desk.holder := by
  cases tells with
  | nothing same => exact absurd told (outcomes_ne same _)
  | done ticket' result told' => exact nomatch outcome_eq told told'
  | answered ticket' fails told' stays =>
    have same := outcome_eq told told'
    injection same with _ same
    injection same with same
    exact .inr (.inl ⟨fails error same.symm, stays⟩)
  | failed ticket' breaks told' gone =>
    have same := outcome_eq told told'
    injection same with _ same
    injection same with same
    injection same with same
    rw [same]
    exact .inl ⟨breaks, gone⟩
  | withdrawn ticket' told' stays =>
    have same := outcome_eq told told'
    injection same with _ same
    injection same with same
    injection same with same
    exact .inr (.inr ⟨same, stays⟩)

end Told

/-! #### Retired clients -/

section Closed

/-- Whoever is admitted to disconnect the client closes it. -/
theorem Sound.closed (sound : desk.Sound) (peer : Peer σ) (idle : desk.holder = none) {ticket : Nat}
    {queue : List (Nat × Task)} (waits : desk.queue = (ticket, .disconnect) :: queue)
    (shutdown : Except IoError Unit) : (desk.step peer (.enter shutdown)).Closed := by
  have retired : desk.client.isRetired = true := by
    refine sound.announced ticket ?_
    rw [waits]
    exact List.mem_cons_self
  simp only [Desk.step, idle, waits]
  exact ⟨retired, rfl, rfl, rfl⟩

/-- What a task finds that is admitted to a closed client. -/
theorem Closed.admitTask (closed : desk.Closed) (shutdown : Except IoError Unit) (ticket : Nat)
    (task : Task) : (desk.admitTask shutdown ticket task).Closed := by
  cases task with
  | connect =>
    rw [Desk.admitTask, if_pos closed.retired]
    exact ⟨closed.retired, closed.unlinked, closed.unconnected, closed.idle⟩
  | disconnect => exact ⟨closed.retired, rfl, rfl, closed.idle⟩
  | exchange request =>
    simp only [Desk.admitTask, Client.takeLink, closed.unlinked]
    exact ⟨closed.retired, closed.unlinked, closed.unconnected, closed.idle⟩

theorem Closed.outcomes_enter (closed : desk.Closed) (peer : Peer σ) {ticket : Nat} {task : Task}
    {queue : List (Nat × Task)} (waits : desk.queue = (ticket, task) :: queue)
    (other : task ≠ .disconnect) (shutdown : Except IoError Unit) :
    (desk.step peer (.enter shutdown)).outcomes =
      desk.outcomes ++ [(ticket, task.failure task.unlinkedError)] := by
  simp only [Desk.step, closed.idle, waits]
  cases task with
  | connect =>
    rw [Desk.admitTask, if_pos closed.retired]
    rfl
  | disconnect => exact absurd rfl other
  | exchange request =>
    simp only [Desk.admitTask, Client.takeLink, closed.unlinked]
    rfl

/-- **A closed client stays so.** -/
theorem Closed.step (closed : desk.Closed) (peer : Peer σ) (event : Event σ) :
    (desk.step peer event).Closed := by
  obtain ⟨retired, unlinked, unconnected, idle⟩ := closed
  cases event with
  | start ticket task =>
    cases task with
    | connect => exact ⟨retired, unlinked, unconnected, idle⟩
    | disconnect => exact ⟨rfl, unlinked, unconnected, idle⟩
    | exchange request => exact ⟨retired, unlinked, unconnected, idle⟩
  | withdraw ticket =>
    simp only [Desk.step]
    split
    · exact ⟨retired, unlinked, unconnected, idle⟩
    · exact ⟨retired, unlinked, unconnected, idle⟩
  | leave ticket => exact ⟨retired, unlinked, unconnected, idle⟩
  | enter shutdown =>
    simp only [Desk.step]
    split
    · rename_i ticket task queue _ _
      have closed : { desk with queue }.Closed := ⟨retired, unlinked, unconnected, idle⟩
      exact closed.admitTask shutdown ticket task
    · exact ⟨retired, unlinked, unconnected, idle⟩
  | _ =>
    simp only [Desk.step, idle]
    exact ⟨retired, unlinked, unconnected, idle⟩

theorem Closed.run (closed : desk.Closed) (peer : Peer σ) (events : List (Event σ)) :
    (desk.run peer events).Closed := by
  induction events generalizing desk with
  | nil => exact closed
  | cons event events ih => exact ih (closed.step peer event)

end Closed

/-- What can be relied on of a client that tasks share, whatever happens next. -/
structure Reliable (peer : Peer σ) (desk : Desk σ) : Prop where
  /-- While nobody is admitted the client counts as connected exactly if it has a link. -/
  agrees : desk.holder = none → desk.client.isConnected = desk.client.link.isSome
  /-- A transport error leaves it without a connection. -/
  transport : ∀ event ticket error,
    (desk.step peer event).outcomes = desk.outcomes ++ [(ticket, .response (.error error))] →
      error.isTransport = true → (desk.step peer event).client.isConnected = false
  /-- A protocol error leaves the connection as it was. -/
  protocol : ∀ event ticket reason,
    (desk.step peer event).outcomes = desk.outcomes ++ [(ticket, .response (.error (.protocol reason)))] →
      (desk.step peer event).client.isConnected = desk.client.isConnected
  /-- Whoever is cancelled after having been admitted leaves no connection. -/
  cancelled : ∀ event ticket,
    (desk.step peer event).outcomes = desk.outcomes ++ [(ticket, .response (.error .cancelled))] →
      desk.holder ≠ (desk.step peer event).holder → (desk.step peer event).client.isConnected = false
  /-- Connecting again changes nothing. -/
  connected : ∀ ticket queue shutdown, desk.holder = none → desk.queue = (ticket, .connect) :: queue →
    desk.client.isConnected = true → (desk.step peer (.enter shutdown)).client = desk.client
  /-- Once it has been disconnected, even if the transport cannot be shut down, it is not connected any more,
  and does not become so. -/
  retired : ∀ ticket queue shutdown events, desk.holder = none →
    desk.queue = (ticket, .disconnect) :: queue →
      let later := (desk.step peer (.enter shutdown)).run peer events
      later.client.isConnected = false ∧ ∀ ticket task queue shutdown,
        later.queue = (ticket, task) :: queue → task ≠ .disconnect →
          (later.step peer (.enter shutdown)).outcomes =
            later.outcomes ++ [(ticket, task.failure task.unlinkedError)]

/-- What is sound is reliable. -/
theorem Sound.reliable (sound : desk.Sound) (peer : Peer σ) : desk.Reliable peer := by
  constructor
  · exact sound.agrees_of_idle
  · intro event ticket error told transport
    rcases (tells_step sound peer event).cases_error told with
      ⟨_, gone⟩ | ⟨⟨reason, rfl⟩, _⟩ | ⟨rfl, _⟩
    · exact gone
    · exact nomatch transport
    · exact nomatch transport
  · intro event ticket reason told
    rcases (tells_step sound peer event).cases_error told with
      ⟨transport | other, _⟩ | ⟨_, stays⟩ | ⟨other, _⟩
    · exact nomatch transport
    · exact nomatch other
    · exact stays
    · exact nomatch other
  · intro event ticket told leaves
    rcases (tells_step sound peer event).cases_error told with
      ⟨_, gone⟩ | ⟨⟨reason, other⟩, _⟩ | ⟨_, stays⟩
    · exact gone
    · exact nomatch other
    · exact absurd stays.symm leaves
  · intro ticket queue shutdown idle waits connected
    have owned : desk.client.link.isSome = true := (sound.agrees_of_idle idle).symm.trans connected
    simp only [Desk.step, idle, waits, Desk.admitTask]
    rw [if_pos owned]
    split <;> rfl
  · intro ticket queue shutdown events idle waits
    have closed := (sound.closed peer idle waits shutdown).run peer events
    exact ⟨closed.unconnected, fun _ _ _ shutdown next other => closed.outcomes_enter peer next other shutdown⟩

end Desk

/-- **The life of a client.**  A new client can be relied on after any acts, one after the other, and after
anything that can happen to tasks that share it, whatever becomes of its connections and however its peers
behave. -/
theorem Client.lifecycle (config : ClientConfig) (factory : FrameFactory) (peer : Peer σ) :
    (∀ acts : List (Act σ), Client.Reliable peer acts (Client.after peer { config, factory } acts)) ∧
      ∀ events : List (Event σ),
        Desk.Reliable peer (Desk.run peer { client := { config, factory } } events) := by
  constructor
  · exact reliable_after config factory peer
  · intro events
    have fresh : Desk.Sound ({ client := { config, factory } } : Desk σ) := ⟨rfl, nofun, nofun⟩
    exact (fresh.run peer events).reliable peer

end ModbusTcp
