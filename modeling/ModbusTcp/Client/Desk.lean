import ModbusTcp.Client

/-!
# Sharing a client

Any number of tasks share a client.  They wait in one queue, the first comes first, and one task at a
time is admitted; it keeps the link to itself until it is done.  Everything that happens is an event:
the transport takes or hands over any number of bytes, and a task can be stopped or dropped at any
point.

* `Desk` — the client, the task that has been admitted and those that wait.
* `Desk.step` — what an event does.
* `Desk.call` — what happens when a task is called for.
* `Desk.settle` — lets the tasks run until all are done, on a transport that takes everything at once.
-/

namespace ModbusTcp

/-- What a task asks for. -/
inductive Task where
  | connect
  | disconnect
  | exchange (request : Frame)
deriving DecidableEq, Repr

/-- What a task is given in the end. -/
inductive Outcome where
  | done (result : Except Error Unit)
  | response (result : Except Error Frame)

/-- The outcome of a task that has failed. -/
def Task.failure (task : Task) (error : Error) : Outcome :=
  match task with
  | .connect | .disconnect => .done (.error error)
  | .exchange _ => .response (.error error)

/-- Why a task is turned away before it waits to be admitted. -/
def Task.check (task : Task) (cancelled : Bool) : Except Error Unit :=
  match task with
  | .connect => if cancelled then .error .cancelled else .ok ()
  | .disconnect => .ok ()
  | .exchange request => Client.checkRequest request cancelled

/-- An exchange under way: the link, the bytes that are still to be sent, and what has been received of
the response. -/
structure Flight (σ : Type) where
  link : Link σ
  unsent : Bytes
  received : Bytes := []

/-- What the admitted task is doing. -/
inductive Activity (σ : Type) where
  | connecting
  | exchanging (flight : Flight σ)

/-- A client with the tasks that share it.  Each task has a ticket; outcomes are kept in the order in
which they were given. -/
structure Desk (σ : Type) where
  client : Client σ
  holder : Option (Nat × Activity σ) := none
  queue : List (Nat × Task) := []
  outcomes : List (Nat × Outcome) := []

/-- What can happen. -/
inductive Event (σ : Type) where
  /-- A task starts and waits to be admitted. -/
  | start (ticket : Nat) (task : Task)
  /-- A waiting task is cancelled. -/
  | withdraw (ticket : Nat)
  /-- A waiting task is dropped, and nobody waits for its outcome. -/
  | leave (ticket : Nat)
  /-- The first task in the queue is admitted, if nobody is.  If it disconnects the client the transport is
  shut down, unless that fails. -/
  | enter (shutdown : Except IoError Unit := .ok ())
  /-- The attempt to connect ends. -/
  | attempted (attempt : Attempt σ)
  /-- The transport takes some of the bytes that are to be sent. -/
  | send (count : Nat)
  /-- The transport hands over some of the bytes that the response is missing. -/
  | receive (count : Nat)
  /-- Nothing is missing any more, or the response is too large. -/
  | conclude
  /-- The admitted task is stopped. -/
  | stop (reason : Stop)
  /-- The peer has ended its side, and nothing is left to read. -/
  | ended
  /-- The admitted task is dropped, and nobody waits for its outcome. -/
  | drop

namespace Desk

variable {σ : Type}

/-- Gives a task its outcome. -/
def give (desk : Desk σ) (ticket : Nat) (outcome : Outcome) : Desk σ :=
  { desk with outcomes := desk.outcomes ++ [(ticket, outcome)] }

/-- The admitted task is done; the client is as it has left it. -/
def release (desk : Desk σ) (client : Client σ) : Desk σ := { desk with client, holder := none }

/-- Admits a task, given whether the transport can be shut down. -/
def admitTask (desk : Desk σ) (shutdown : Except IoError Unit) (ticket : Nat) : Task → Desk σ
  | .connect =>
    if desk.client.isRetired then desk.give ticket (.done (.error (.connect .retired)))
    else if desk.client.link.isSome then desk.give ticket (.done (.ok ()))
    else { desk with holder := some (ticket, .connecting) }
  | .disconnect =>
    { desk with client := desk.client.close }.give ticket (.done (desk.client.closing shutdown))
  | .exchange request =>
    match desk.client.takeLink with
    | .error error => desk.give ticket (.response (.error error))
    | .ok (link, client) =>
      let flight : Flight σ := { link, unsent := request.encode client.config.order }
      { desk with client, holder := some (ticket, .exchanging flight) }

/-- How many bytes the response is missing. -/
def wanted (desk : Desk σ) (flight : Flight σ) : Nat :=
  Frame.missing desk.client.config.order flight.received

/-- The response is larger than allowed. -/
def tooLarge? (desk : Desk σ) (flight : Flight σ) : Option Nat :=
  let length := Frame.expectedLength desk.client.config.order flight.received
  if desk.client.config.maxFrame < length then some length else none

/-- The exchange fails, and the link is lost with it. -/
def failExchange (desk : Desk σ) (ticket : Nat) (flight : Flight σ) (error : Error) : Desk σ :=
  (desk.release (desk.client.lose flight.link)).give ticket (.response (.error error))

/-- What an event does to an exchange under way. -/
def stepExchange (peer : Peer σ) (desk : Desk σ) (ticket : Nat) (flight : Flight σ) :
    Event σ → Desk σ
  | .send count =>
    let flight :=
      { flight with
        link := flight.link.write peer (flight.unsent.take count)
        unsent := flight.unsent.drop count }
    { desk with holder := some (ticket, .exchanging flight) }
  | .receive count =>
    let count := min count (desk.wanted flight)
    if flight.unsent.isEmpty ∧ (desk.tooLarge? flight).isNone ∧ count ≤ flight.link.unread.length then
      let flight :=
        { flight with
          received := flight.received ++ flight.link.unread.take count
          link := flight.link.skip count }
      { desk with holder := some (ticket, .exchanging flight) }
    else desk
  | .conclude =>
    if flight.unsent.isEmpty then
      match desk.tooLarge? flight with
      | some length =>
        desk.failExchange ticket flight
          (.reception (ProtocolError.frameTooLarge length desk.client.config.maxFrame).toIoError)
      | none =>
        if desk.wanted flight = 0 then
          let (result, client) := desk.client.conclude flight.link flight.received
          (desk.release client).give ticket (.response result)
        else desk
    else desk
  | .stop reason =>
    let phase := if flight.unsent.isEmpty then Error.reception else Error.transmission
    desk.failExchange ticket flight (reason.toError phase)
  | .ended =>
    if flight.unsent.isEmpty ∧ flight.link.ended then
      desk.failExchange ticket flight (.reception .earlyEof)
    else desk
  | .drop => desk.release (desk.client.lose flight.link)
  | _ => desk

/-- What an event does to an attempt to connect. -/
def stepConnecting (desk : Desk σ) (ticket : Nat) : Event σ → Desk σ
  | .attempted attempt =>
    let (result, client) := desk.client.settle attempt
    (desk.release client).give ticket (.done result)
  | .stop reason => (desk.release desk.client).give ticket (.done (.error (reason.toError .connect)))
  | .drop => desk.release desk.client
  | _ => desk

/-- What an event does.  Disconnecting counts from the moment it starts, although it closes the link
only once it is admitted. -/
def step (peer : Peer σ) (desk : Desk σ) (event : Event σ) : Desk σ :=
  match event with
  | .start ticket task =>
    let client :=
      match task with
      | .disconnect => { desk.client with isRetired := true }
      | _ => desk.client
    { desk with client, queue := desk.queue ++ [(ticket, task)] }
  | .withdraw ticket =>
    match desk.queue.find? (·.1 = ticket) with
    | some (_, task) =>
      { desk with queue := desk.queue.filter (·.1 ≠ ticket) }.give ticket (task.failure .cancelled)
    | none => desk
  | .leave ticket => { desk with queue := desk.queue.filter (·.1 ≠ ticket) }
  | .enter shutdown =>
    match desk.holder, desk.queue with
    | none, (ticket, task) :: queue => { desk with queue }.admitTask shutdown ticket task
    | _, _ => desk
  | event =>
    match desk.holder with
    | some (ticket, .connecting) => desk.stepConnecting ticket event
    | some (ticket, .exchanging flight) => desk.stepExchange peer ticket flight event
    | none => desk

/-- What several events do, one after the other. -/
def run (peer : Peer σ) (desk : Desk σ) (events : List (Event σ)) : Desk σ :=
  events.foldl (step peer) desk

/-- A task is called for: unless it is turned away it starts, and it goes on until it has to wait.  An
attempt to connect whose end is known at once does not wait. -/
def call (peer : Peer σ) (instant : Option (Attempt σ)) (desk : Desk σ) (ticket : Nat) (task : Task)
    (cancelled : Bool) : Desk σ :=
  match task.check cancelled with
  | .error error => desk.give ticket (task.failure error)
  | .ok () =>
    let desk := (desk.step peer (.start ticket task)).step peer .enter
    match desk.holder, instant with
    | some (_, .connecting), some attempt => desk.step peer (.attempted attempt)
    | _, _ => desk

/-! ### A transport that takes everything at once -/

/-- What happens next: the transport takes all bytes of a request and hands over what the response is
missing, as long as there is enough; a silent peer is waited for until `silence` happens. -/
def next? (network : Network σ) (silence : Event σ) (desk : Desk σ) : Option (Event σ) :=
  match desk.holder with
  | some (_, .connecting) => some (.attempted (network desk.client.links.length))
  | some (_, .exchanging flight) =>
    if !flight.unsent.isEmpty then some (.send flight.unsent.length)
    else if (desk.tooLarge? flight).isSome ∨ desk.wanted flight = 0 then some .conclude
    else if desk.wanted flight ≤ flight.link.unread.length then some (.receive (desk.wanted flight))
    else if flight.link.ended then some .ended
    else some silence
  | none => if desk.queue.isEmpty then none else some .enter

/-- Lets so many events happen. -/
def settleFor (peer : Peer σ) (network : Network σ) (silence : Event σ) : Nat → Desk σ → Desk σ
  | 0, desk => desk
  | count + 1, desk =>
    match desk.next? network silence with
    | some event => settleFor peer network silence count (desk.step peer event)
    | none => desk

/-- Lets the tasks run until all are done: a task takes at most five events, from being admitted over
sending, receiving the length field and receiving the rest to its conclusion. -/
def settle (peer : Peer σ) (network : Network σ) (silence : Event σ) (desk : Desk σ) : Desk σ :=
  desk.settleFor peer network silence (5 * (desk.queue.length + 1))

end Desk

end ModbusTcp
