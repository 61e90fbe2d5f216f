import ModbusTcp.Server
import ModbusTcp.Server.Connection

/-!
# A server at work

Any number of tasks start and stop a server.  They wait in one queue, the first comes first, and one task
at a time is admitted; it keeps the server to itself until it is done, or dropped.  While the server runs a
loop accepts connections.  Each connection is served until it ends, however that is, and whoever supervises
it takes its entry away then.  All of this happens side by side: everything that happens is an event.

* `Station` — the server, the task that has been admitted and those that wait, the loops and the
  connections that they have created.
* `AcceptLoop.step` — what an event does to a loop.
* `Station.step` — what an event does.
-/

namespace ModbusTcp

/-- What a task asks of a server. -/
inductive ServerTask where
  | start
  | stop
deriving DecidableEq, Repr

/-- What a task is given in the end. -/
inductive ServerOutcome where
  | started (result : Except Error Endpoint)
  | stopped

/-! ### Loops -/

/-- The loop that accepts connections: whether it has been told to end, and the peer for whom it is
creating a connection. -/
structure AcceptLoop where
  isCancelled : Bool := false
  creating : Option Endpoint := none
deriving DecidableEq, Repr

/-- What can happen to a loop. -/
inductive LoopEvent where
  /-- It accepts a peer. -/
  | arrive (peer : Endpoint)
  /-- A connection has been created for the peer. -/
  | create
  /-- The peer is refused. -/
  | refuse
  /-- It sees that it has been told to end. -/
  | quit

/-- What an event makes of a loop, unless that ends, and for whom a connection has been created. -/
def AcceptLoop.step (loop : AcceptLoop) : LoopEvent → Option AcceptLoop × Option Endpoint
  | .arrive peer =>
    if loop.isCancelled ∨ loop.creating.isSome then (some loop, none)
    else (some { loop with creating := some peer }, none)
  | .create => (some { loop with creating := none }, loop.creating)
  | .refuse => (some { loop with creating := none }, none)
  | .quit => if loop.isCancelled ∧ loop.creating.isNone then (none, none) else (some loop, none)

/-! ### Connections -/

/-- What has become of a connection: it is served, it has ended, or note has been taken of its end. -/
inductive Stage where
  | served
  | ended
  | noted
deriving DecidableEq, Repr

/-- A connection under supervision, with the id of its entry. -/
structure Supervised where
  id : UInt64
  peer : Endpoint
  stage : Stage := .served
deriving DecidableEq, Repr

/-! ### Stations -/

/-- A server with the tasks that start and stop it, the loop that accepts its connections, the loops that
nobody waits for, and all connections that have ever been created.  Each task has a ticket; outcomes are
kept in the order in which they were given. -/
structure Station where
  server : Server
  holder : Option (Nat × ServerTask) := none
  queue : List (Nat × ServerTask) := []
  outcomes : List (Nat × ServerOutcome) := []
  loop : Option AcceptLoop := none
  strays : List AcceptLoop := []
  connections : List Supervised := []

namespace Station

/-- What can happen. -/
inductive Event where
  /-- A task starts and waits to be admitted. -/
  | start (ticket : Nat) (task : ServerTask)
  /-- A waiting task is dropped, and nobody waits for its outcome. -/
  | leave (ticket : Nat)
  /-- The first task in the queue is admitted, if nobody is. -/
  | enter
  /-- The server that is being started gets to listen, or does not. -/
  | bound (result : Except IoError Endpoint)
  /-- The loop of the server that is being stopped has ended. -/
  | joined
  /-- The admitted task is dropped, and nobody waits for its outcome. -/
  | drop
  /-- Something happens to the loop of the server. -/
  | loop (event : LoopEvent)
  /-- Something happens to a loop that nobody waits for. -/
  | stray (index : Nat) (event : LoopEvent)
  /-- A connection ends, or whoever serves it is aborted. -/
  | finish (index : Nat) (ending : Option Ending)
  /-- Note is taken of the end of a connection. -/
  | note (index : Nat)

/-- Gives a task its outcome. -/
def give (station : Station) (ticket : Nat) (outcome : ServerOutcome) : Station :=
  { station with outcomes := station.outcomes ++ [(ticket, outcome)] }

/-- Admits a task. -/
def admitTask (station : Station) (ticket : Nat) : ServerTask → Station
  | .start =>
    match station.server.beginStart with
    | .error error => station.give ticket (.started (.error error))
    | .ok server => { station with server, holder := some (ticket, .start) }
  | .stop =>
    match station.server.beginStop with
    | none => station.give ticket .stopped
    | some server =>
      { station with
        server
        holder := some (ticket, .stop)
        loop := station.loop.map fun loop => { loop with isCancelled := true } }

/-- The admitted task is done; the server is as it has left it. -/
def release (station : Station) (server : Server) : Station := { station with server, holder := none }

/-- What becomes of a server that is being started. -/
def settleStart (station : Station) (ticket : Nat) (bound : Except IoError Endpoint) : Station :=
  let (result, server) := station.server.finishStart bound
  let loop : Option AcceptLoop :=
    match bound with
    | .ok _ => some {}
    | .error _ => station.loop
  ({ station with loop }.release server).give ticket (.started result)

/-- The admitted task is dropped: the server is in the state in which it has been for the task, and nobody
waits any more for the loop that the task has told to end. -/
def abandon (station : Station) : ServerTask → Station
  | .start => station.release station.server
  | .stop =>
    { station.release station.server with
      loop := none
      strays := station.strays ++ station.loop.toList }

/-- Enters a connection that has been created for a peer, if there is one. -/
def enroll (station : Station) : Option Endpoint → Station
  | none => station
  | some peer =>
    let (id, server) := station.server.enroll peer
    { station with server, connections := station.connections ++ [{ id, peer }] }

/-- What an event does. -/
def step (station : Station) : Event → Station
  | .start ticket task => { station with queue := station.queue ++ [(ticket, task)] }
  | .leave ticket => { station with queue := station.queue.filter (·.1 ≠ ticket) }
  | .enter =>
    match station.holder, station.queue with
    | none, (ticket, task) :: queue => { station with queue }.admitTask ticket task
    | _, _ => station
  | .bound result =>
    match station.holder with
    | some (ticket, .start) => station.settleStart ticket result
    | _ => station
  | .joined =>
    match station.holder, station.loop with
    | some (ticket, .stop), none => (station.release station.server.finishStop).give ticket .stopped
    | _, _ => station
  | .drop =>
    match station.holder with
    | some (_, task) => station.abandon task
    | none => station
  | .loop event =>
    match station.loop with
    | some loop =>
      let (loop, created) := loop.step event
      { station with loop }.enroll created
    | none => station
  | .stray index event =>
    match station.strays[index]? with
    | some loop =>
      let (loop, created) := loop.step event
      let strays := station.strays.take index ++ loop.toList ++ station.strays.drop (index + 1)
      { station with strays }.enroll created
    | none => station
  | .finish index _ =>
    match station.connections[index]? with
    | some ⟨id, peer, .served⟩ =>
      { station with connections := station.connections.set index ⟨id, peer, .ended⟩ }
    | _ => station
  | .note index =>
    match station.connections[index]? with
    | some ⟨id, peer, .ended⟩ =>
      { station with
        server := station.server.release id
        connections := station.connections.set index ⟨id, peer, .noted⟩ }
    | _ => station

/-- What several events do, one after the other. -/
def run (station : Station) (events : List Event) : Station := events.foldl step station

end Station

end ModbusTcp
