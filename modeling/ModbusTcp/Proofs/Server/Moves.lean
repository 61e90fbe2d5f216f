import ModbusTcp.Server.Station

/-!
# What can happen to a server at work

An event does one of a few things to a server, to the task that has been admitted, to the loops and to the
connections.

* `AcceptLoop.isCancelled_of_step`, `AcceptLoop.isCancelled_of_end` — a loop does not forget whether it has
  been told to end, and does not end before.
* `Station.admitTask_start`, `Station.admitTask_stop` and their counterparts — what comes of a task that is
  admitted.
* `Station.Moves` — all that an event can do.
* **`Station.moves`** — this is all.
-/

namespace ModbusTcp

/-! ### Loops -/

namespace AcceptLoop

variable {loop later : AcceptLoop} {event : LoopEvent}

/-- Nothing that happens to a loop tells it to end, or not to end. -/
theorem isCancelled_of_step (goesOn : (loop.step event).1 = some later) :
    later.isCancelled = loop.isCancelled := by
  cases event with
  | create | refuse =>
    obtain rfl := Option.some.inj goesOn
    rfl
  | arrive peer =>
    rw [step] at goesOn
    split at goesOn
    · obtain rfl := Option.some.inj goesOn
      rfl
    · obtain rfl := Option.some.inj goesOn
      rfl
  | quit =>
    rw [step] at goesOn
    split at goesOn
    · cases goesOn
    · obtain rfl := Option.some.inj goesOn
      rfl

/-- A loop only ends if it has been told to. -/
theorem isCancelled_of_end (ends : (loop.step event).1 = none) : loop.isCancelled = true := by
  cases event with
  | create | refuse => cases ends
  | arrive peer =>
    rw [step] at ends
    split at ends
    · cases ends
    · cases ends
  | quit =>
    rw [step] at ends
    split at ends
    · next told => exact told.1
    · cases ends

end AcceptLoop

namespace Station

variable {station : Station}

/-! ### Tasks that are admitted -/

section Admit

/-- A server that runs is not started. -/
theorem admitTask_start_of_isRunning (runs : station.server.isRunning = true) (ticket : Nat) :
    station.admitTask ticket .start =
      station.give ticket (.started (.error (.config (.serverRunning station.server.state)))) := by
  rw [admitTask, Server.beginStart, if_pos runs]

theorem admitTask_start (rests : station.server.isRunning = false) (ticket : Nat) :
    station.admitTask ticket .start =
      { station with
        server := { station.server with state := .initializing }
        holder := some (ticket, .start) } := by
  rw [admitTask, Server.beginStart, if_neg (by simp [rests])]

/-- A server that does not run is not stopped. -/
theorem admitTask_stop_of_not_isRunning (rests : station.server.isRunning = false) (ticket : Nat) :
    station.admitTask ticket .stop = station.give ticket .stopped := by
  rw [admitTask, Server.beginStop, rests]
  rfl

theorem admitTask_stop (runs : station.server.isRunning = true) (ticket : Nat) :
    station.admitTask ticket .stop =
      { station with
        server := { station.server with state := .stopping, isRunning := false }
        holder := some (ticket, .stop)
        loop := station.loop.map fun loop => { loop with isCancelled := true } } := by
  rw [admitTask, Server.beginStop, if_pos runs]

/-- The first task in the queue is admitted. -/
theorem step_enter (idle : station.holder = none) {ticket : Nat} {task : ServerTask}
    {queue : List (Nat × ServerTask)} (waits : station.queue = (ticket, task) :: queue) :
    station.step .enter = { station with queue }.admitTask ticket task := by
  simp only [step, idle, waits]

end Admit

/-! ### All that an event can do -/

/-- What can happen to a station. -/
inductive Moves (now : Station) : Event → Station → Prop where
  /-- At most it changes who waits, and what tasks have been told. -/
  | rests (event : Event) (queue : List (Nat × ServerTask)) (outcomes : List (Nat × ServerOutcome)) :
      Moves now event { now with queue, outcomes }
  /-- A task is admitted that starts the server. -/
  | starts (idle : now.holder = none) (rests : now.server.isRunning = false) (ticket : Nat)
      (queue : List (Nat × ServerTask)) :
      Moves now .enter
        { now with
          server := { now.server with state := .initializing }
          holder := some (ticket, .start)
          queue }
  /-- A task is admitted that stops the server, and the loop is told to end. -/
  | stops (idle : now.holder = none) (runs : now.server.isRunning = true) (ticket : Nat)
      (queue : List (Nat × ServerTask)) :
      Moves now .enter
        { now with
          server := { now.server with state := .stopping, isRunning := false }
          holder := some (ticket, .stop)
          queue
          loop := now.loop.map fun loop => { loop with isCancelled := true } }
  /-- The server listens, and a loop accepts connections. -/
  | listens {ticket : Nat} (holds : now.holder = some (ticket, .start)) (endpoint : Endpoint)
      (outcomes : List (Nat × ServerOutcome)) :
      Moves now (.bound (.ok endpoint))
        { now with
          server := { now.server with state := .accepting, isRunning := true }
          holder := none
          outcomes
          loop := some {} }
  /-- The server does not get to listen. -/
  | fails {ticket : Nat} (holds : now.holder = some (ticket, .start)) (reason : IoError)
      (outcomes : List (Nat × ServerOutcome)) :
      Moves now (.bound (.error reason))
        { now with server := { now.server with state := .stopped }, holder := none, outcomes }
  /-- The loop has ended, and the server is stopped. -/
  | joins {ticket : Nat} (holds : now.holder = some (ticket, .stop)) (none : now.loop = none)
      (outcomes : List (Nat × ServerOutcome)) :
      Moves now .joined
        { now with server := { now.server with state := .stopped }, holder := Option.none, outcomes }
  /-- Nobody starts the server any more. -/
  | dropsStart {ticket : Nat} (holds : now.holder = some (ticket, .start)) :
      Moves now .drop { now with holder := none }
  /-- Nobody waits any more for the loop that has been told to end. -/
  | dropsStop {ticket : Nat} (holds : now.holder = some (ticket, .stop)) :
      Moves now .drop
        { now with holder := none, loop := none, strays := now.strays ++ now.loop.toList }
  /-- Something happens to the loop of the server. -/
  | loops {loop : AcceptLoop} (there : now.loop = some loop) (event : LoopEvent) :
      Moves now (.loop event) ({ now with loop := (loop.step event).1 }.enroll (loop.step event).2)
  /-- Something happens to a loop that nobody waits for. -/
  | strays {index : Nat} {loop : AcceptLoop} (there : now.strays[index]? = some loop) (event : LoopEvent) :
      Moves now (.stray index event)
        ({ now with
          strays := now.strays.take index ++ (loop.step event).1.toList ++ now.strays.drop (index + 1)
        }.enroll (loop.step event).2)
  /-- A connection ends. -/
  | finishes {index : Nat} {id : UInt64} {peer : Endpoint}
      (there : now.connections[index]? = some ⟨id, peer, .served⟩) (ending : Option Ending) :
      Moves now (.finish index ending)
        { now with connections := now.connections.set index ⟨id, peer, .ended⟩ }
  /-- Note is taken of the end of a connection. -/
  | notes {index : Nat} {id : UInt64} {peer : Endpoint}
      (there : now.connections[index]? = some ⟨id, peer, .ended⟩) :
      Moves now (.note index)
        { now with
          server := now.server.release id
          connections := now.connections.set index ⟨id, peer, .noted⟩ }

section Moves

/-- What can happen when a task is admitted. -/
theorem moves_admitTask (idle : station.holder = none) (queue : List (Nat × ServerTask)) (ticket : Nat)
    (task : ServerTask) : station.Moves .enter ({ station with queue }.admitTask ticket task) := by
  cases runs : station.server.isRunning with
  | true =>
    cases task with
    | start =>
      rw [@admitTask_start_of_isRunning { station with queue } runs]
      exact .rests .enter queue _
    | stop =>
      rw [@admitTask_stop { station with queue } runs]
      exact .stops idle runs ticket queue
  | false =>
    cases task with
    | start =>
      rw [@admitTask_start { station with queue } runs]
      exact .starts idle runs ticket queue
    | stop =>
      rw [@admitTask_stop_of_not_isRunning { station with queue } runs]
      exact .rests .enter queue _

/-- **This is all that an event can do.** -/
theorem moves (station : Station) (event : Event) : station.Moves event (station.step event) := by
  have unchanged : station.Moves event station := .rests event station.queue station.outcomes
  cases event with
  | start ticket task => exact .rests _ _ station.outcomes
  | leave ticket => exact .rests _ _ station.outcomes
  | enter =>
    simp only [step]
    split
    · next ticket task queue idle waits => exact moves_admitTask idle queue ticket task
    · exact unchanged
  | bound result =>
    simp only [step]
    split
    · next ticket holds =>
      cases result with
      | error reason => exact .fails holds reason _
      | ok endpoint => exact .listens holds endpoint _
    · exact unchanged
  | joined =>
    simp only [step]
    split
    · next ticket holds none => exact .joins holds none _
    · exact unchanged
  | drop =>
    simp only [step]
    split
    · next ticket task holds =>
      cases task with
      | start => exact .dropsStart holds
      | stop => exact .dropsStop holds
    · exact unchanged
  | loop event =>
    simp only [step]
    split
    · next loop there => exact .loops there event
    · exact unchanged
  | stray index event =>
    simp only [step]
    split
    · next loop there => exact .strays there event
    · exact unchanged
  | finish index ending =>
    simp only [step]
    split
    · next id peer there => exact .finishes there ending
    · exact unchanged
  | note index =>
    simp only [step]
    split
    · next id peer there => exact .notes there
    · exact unchanged

end Moves

end Station

end ModbusTcp
