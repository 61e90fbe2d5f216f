import ModbusTcp.Client.Desk

/-!
# What can happen to a client that is shared

An event does one of a few things to the client and to the task that has been admitted, and each of them
is seen from outside: tasks enter and leave, connections are opened and closed, the peer speaks.

* `Desk.notes`, `Desk.trace` — what an observer notes of an event, and of a run.
* `Desk.verdicts` — what tasks have been told of the responses that were read for them.
* `Situation.Moves` — all that an event can do, and what is noted of it.
* **`Desk.moves`** — this is all.
-/

namespace ModbusTcp

variable {σ : Type}

/-! ### What an observer notes -/

/-- What can be seen of a client and of its connections from outside. -/
inductive Note where
  /-- A task is admitted. -/
  | entered (ticket : Nat)
  /-- The admitted task is done, or gone. -/
  | left (ticket : Nat)
  /-- A connection is opened, on which the peer may have spoken first. -/
  | opened (greeting : Bytes)
  /-- The connection is closed. -/
  | closed
  /-- The admitted task takes the connection for a request. -/
  | asked (ticket : Nat) (request : Frame)
  /-- The peer speaks. -/
  | heard (bytes : Bytes)
  /-- The admitted task gives the connection back, after it has read these bytes. -/
  | answered (ticket : Nat) (bytes : Bytes)

namespace Desk

/-- What is noted when a task is admitted. -/
def notesOfTask (desk next : Desk σ) (ticket : Nat) (task : Task) : List Note :=
  match next.holder, task with
  | some (_, .exchanging _), .exchange request => [.entered ticket, .asked ticket request]
  | some _, _ => [.entered ticket]
  | none, _ =>
    if desk.client.past.length < next.client.past.length then [.entered ticket, .closed, .left ticket]
    else [.entered ticket, .left ticket]

/-- What is noted while a task is connecting. -/
def notesOfConnecting (next : Desk σ) (ticket : Nat) (event : Event σ) : List Note :=
  match next.holder, event with
  | some _, _ => []
  | none, .attempted (.established link) => [.opened link.unread, .left ticket]
  | none, _ => [.left ticket]

/-- What is noted while an exchange is under way. -/
def notesOfExchange (peer : Peer σ) (next : Desk σ) (ticket : Nat) (flight : Flight σ)
    (event : Event σ) : List Note :=
  match next.holder, next.client.link with
  | some _, _ =>
    match event with
    | .send count => [.heard (peer.react flight.link.peer (flight.unsent.take count)).answer]
    | _ => []
  | none, some _ => [.answered ticket flight.received, .left ticket]
  | none, none => [.closed, .left ticket]

/-- What is noted when an event happens. -/
def notes (peer : Peer σ) (desk : Desk σ) (event : Event σ) : List Note :=
  let next := desk.step peer event
  match desk.holder, event, desk.queue with
  | none, .enter _, (ticket, task) :: _ => desk.notesOfTask next ticket task
  | none, _, _ => []
  | some (ticket, .connecting), _, _ => next.notesOfConnecting ticket event
  | some (ticket, .exchanging flight), _, _ => next.notesOfExchange peer ticket flight event

/-- What is noted while several events happen, one after the other. -/
def trace (peer : Peer σ) : Desk σ → List (Event σ) → List Note
  | _, [] => []
  | desk, event :: events => desk.notes peer event ++ trace peer (desk.step peer event) events

end Desk

/-! ### What responses come to -/

/-- What the bytes of a response come to for the task that has asked. -/
def Client.verdict (config : ClientConfig) (factory : FrameFactory) (bytes : Bytes) :
    Except Error Frame :=
  match Frame.decode factory.resolver .response config.order bytes with
  | .ok (response, _) => classify response
  | .error reason => .error (.reception reason.toIoError)

/-- What a task has been told of a response.  Every other failure is one of the transport or of the
client itself. -/
def Outcome.verdict? : Outcome → Option (Except Error Frame)
  | .response (.ok frame) => some (.ok frame)
  | .response (.error (.protocol error)) => some (.error (.protocol error))
  | _ => none

theorem Outcome.verdict?_classify (response : Frame) :
    (Outcome.response (Client.classify response)).verdict? = some (Client.classify response) := by
  unfold Client.classify
  split <;> rfl

theorem Outcome.verdict?_failure (task : Task) : (task.failure .cancelled).verdict? = none := by
  cases task <;> rfl

theorem Outcome.verdict?_stop (reason : Stop) (sent : Bool) :
    (Outcome.response (.error (reason.toError (if sent then .reception else .transmission)))).verdict? =
      none := by
  cases reason <;> cases sent <;> rfl

namespace Desk

/-- What tasks have been told of responses, in the order in which they were told. -/
def verdicts (desk : Desk σ) : List (Nat × Except Error Frame) :=
  desk.outcomes.filterMap fun (ticket, outcome) => outcome.verdict?.map (ticket, ·)

end Desk

/-! ### All that an event can do -/

/-- What of a desk has to do with its connections. -/
structure Situation (σ : Type) where
  config : ClientConfig
  factory : FrameFactory
  past : List (Link σ)
  free : Option (Link σ)
  holder : Option (Nat × Activity σ)
  verdicts : List (Nat × Except Error Frame)

/-- The situation of a desk. -/
def Desk.situation (desk : Desk σ) : Situation σ where
  config := desk.client.config
  factory := desk.client.factory
  past := desk.client.past
  free := desk.client.link
  holder := desk.holder
  verdicts := desk.verdicts

/-- What can happen to a situation, and what is noted of it. -/
inductive Situation.Moves (peer : Peer σ) (now : Situation σ) : List Note → Situation σ → Prop
  /-- Nothing happens that has to do with a connection. -/
  | rests : Moves peer now [] now
  /-- A task is admitted, and it is done at once. -/
  | passes (idle : now.holder = none) (ticket : Nat) :
      Moves peer now [.entered ticket, .left ticket] now
  /-- A task is admitted that closes the free link. -/
  | disconnects (idle : now.holder = none) {link : Link σ} (isFree : now.free = some link) (ticket : Nat) :
      Moves peer now [.entered ticket, .closed, .left ticket]
        { now with past := now.past ++ [link], free := none }
  /-- A task is admitted that opens a link. -/
  | connects (idle : now.holder = none) (isFree : now.free = none) (ticket : Nat) :
      Moves peer now [.entered ticket] { now with holder := some (ticket, .connecting) }
  /-- A link is open, on which nothing is written yet. -/
  | opens {ticket : Nat} (holds : now.holder = some (ticket, .connecting)) {link : Link σ}
      (fresh : link.written = []) :
      Moves peer now [.opened link.unread, .left ticket] { now with free := some link, holder := none }
  /-- The attempt to open a link is given up. -/
  | fails {ticket : Nat} (holds : now.holder = some (ticket, .connecting)) :
      Moves peer now [.left ticket] { now with holder := none }
  /-- A task is admitted that takes the free link for its request. -/
  | asks (idle : now.holder = none) {link : Link σ} (isFree : now.free = some link) (ticket : Nat)
      (request : Frame) :
      Moves peer now [.entered ticket, .asked ticket request]
        { now with
          free := none
          holder := some (ticket, .exchanging { link, unsent := request.encode now.config.order }) }
  /-- Some bytes are sent, and the peer reacts. -/
  | sends {ticket : Nat} {flight : Flight σ} (holds : now.holder = some (ticket, .exchanging flight))
      (count : Nat) :
      Moves peer now [.heard (peer.react flight.link.peer (flight.unsent.take count)).answer]
        { now with
          holder := some (ticket, .exchanging
            { flight with
              link := flight.link.write peer (flight.unsent.take count)
              unsent := flight.unsent.drop count }) }
  /-- Some bytes are received that the response is missing. -/
  | receives {ticket : Nat} {flight : Flight σ} (holds : now.holder = some (ticket, .exchanging flight))
      {count : Nat} (missing : count ≤ Frame.missing now.config.order flight.received)
      (present : count ≤ flight.link.unread.length) :
      Moves peer now []
        { now with
          holder := some (ticket, .exchanging
            { flight with
              received := flight.received ++ flight.link.unread.take count
              link := flight.link.skip count }) }
  /-- All is sent, the response is complete, and the link is free again. -/
  | concludes {ticket : Nat} {flight : Flight σ}
      (holds : now.holder = some (ticket, .exchanging flight)) (sent : flight.unsent = [])
      (complete : Frame.missing now.config.order flight.received = 0) :
      Moves peer now [.answered ticket flight.received, .left ticket]
        { now with
          free := some flight.link
          holder := none
          verdicts := now.verdicts ++
            [(ticket, Client.verdict now.config now.factory flight.received)] }
  /-- The exchange fails or is given up. -/
  | loses {ticket : Nat} {flight : Flight σ} (holds : now.holder = some (ticket, .exchanging flight)) :
      Moves peer now [.closed, .left ticket]
        { now with past := now.past ++ [flight.link], free := none, holder := none }

/-- The settings stay what they are. -/
theorem Situation.Moves.config {peer : Peer σ} {now next : Situation σ} {notes : List Note}
    (moved : now.Moves peer notes next) : next.config = now.config := by
  cases moved <;> rfl

theorem Situation.Moves.factory {peer : Peer σ} {now next : Situation σ} {notes : List Note}
    (moved : now.Moves peer notes next) : next.factory = now.factory := by
  cases moved <;> rfl

namespace Desk

theorem verdicts_give (desk : Desk σ) (ticket : Nat) (outcome : Outcome) :
    (desk.give ticket outcome).verdicts =
      desk.verdicts ++ (outcome.verdict?.map (ticket, ·)).toList := by
  cases told : outcome.verdict? <;> simp [verdicts, give, told]

/-- An outcome changes what tasks have been told, and nothing else. -/
theorem situation_give (desk : Desk σ) (ticket : Nat) (outcome : Outcome) :
    (desk.give ticket outcome).situation =
      { desk.situation with
        verdicts := desk.verdicts ++ (outcome.verdict?.map (ticket, ·)).toList } := by
  rw [situation, verdicts_give]
  rfl

/-- An outcome that is not about a response does not even change that. -/
theorem situation_give_of_none {outcome : Outcome} (other : outcome.verdict? = none) (desk : Desk σ)
    (ticket : Nat) : (desk.give ticket outcome).situation = desk.situation := by
  rw [situation_give, other, Option.map_none, Option.toList_none, List.append_nil]
  rfl

section Moves

variable {desk : Desk σ}

/-- A task that is done at once. -/
theorem moves_give (peer : Peer σ) (idle : desk.holder = none) {outcome : Outcome}
    (other : outcome.verdict? = none) (queue : List (Nat × Task)) (ticket : Nat) (task : Task) :
    let next := { desk with queue }.give ticket outcome
    Situation.Moves peer desk.situation (desk.notesOfTask next ticket task) next.situation := by
  intro next
  have same : next.situation = desk.situation := situation_give_of_none other { desk with queue } ticket
  have noted : desk.notesOfTask next ticket task = [.entered ticket, .left ticket] := by
    have holder : next.holder = none := idle
    have past : ¬ desk.client.past.length < next.client.past.length := Nat.lt_irrefl _
    unfold notesOfTask
    rw [holder]
    exact if_neg past
  rw [same, noted]
  exact .passes idle ticket

/-- What can happen when a task is admitted. -/
theorem moves_admitTask (peer : Peer σ) (idle : desk.holder = none) (queue : List (Nat × Task))
    (shutdown : Except IoError Unit) (ticket : Nat) (task : Task) :
    let next := { desk with queue }.admitTask shutdown ticket task
    Situation.Moves peer desk.situation (desk.notesOfTask next ticket task) next.situation := by
  cases task with
  | connect =>
    simp only [admitTask]
    by_cases retired : desk.client.isRetired
    · rw [if_pos retired]
      exact moves_give peer idle rfl queue ticket _
    · rw [if_neg retired]
      by_cases isFree : desk.client.link.isSome
      · rw [if_pos isFree]
        exact moves_give peer idle rfl queue ticket _
      · rw [if_neg isFree]
        exact .connects idle (Option.not_isSome_iff_eq_none.mp isFree) ticket
  | disconnect =>
    intro next
    have same : next.situation =
        { desk.situation with past := desk.client.past ++ desk.client.link.toList, free := none } :=
      situation_give_of_none rfl { desk with queue, client := desk.client.close } ticket
    have holder : next.holder = none := idle
    have past : next.client.past = desk.client.past ++ desk.client.link.toList := rfl
    unfold notesOfTask
    rw [same, holder, past]
    cases isFree : desk.client.link with
    | none =>
      have unchanged : { desk.situation with past := desk.client.past ++ [], free := none } =
          desk.situation := by
        rw [List.append_nil, ← isFree]
        rfl
      rw [Option.toList_none, unchanged, List.append_nil, if_neg (Nat.lt_irrefl _)]
      exact .passes idle ticket
    | some link =>
      have longer : desk.client.past.length < (desk.client.past ++ [link]).length := by simp
      rw [Option.toList_some, if_pos longer]
      exact .disconnects idle isFree ticket
  | exchange request =>
    simp only [admitTask, Client.takeLink]
    cases isFree : desk.client.link with
    | none => exact moves_give peer idle rfl queue ticket _
    | some link => exact .asks idle isFree ticket request

/-- What can happen while a task is connecting. -/
theorem moves_stepConnecting (peer : Peer σ) {ticket : Nat}
    (holds : desk.holder = some (ticket, .connecting)) (event : Event σ)
    (fresh : ∀ link, event = .attempted (.established link) → link.written = []) :
    let next := desk.stepConnecting ticket event
    Situation.Moves peer desk.situation (next.notesOfConnecting ticket event) next.situation := by
  have ignored : Situation.Moves peer desk.situation (desk.notesOfConnecting ticket event)
      desk.situation := by
    unfold notesOfConnecting
    rw [holds]
    exact .rests
  intro next
  cases event with
  | attempted attempt =>
    cases attempt with
    | established link =>
      have same : next.situation = { desk.situation with free := some link, holder := none } :=
        situation_give_of_none rfl _ ticket
      rw [same]
      exact .opens holds (fresh link rfl)
    | stopped reason =>
      have same : next.situation = { desk.situation with holder := none } :=
        situation_give_of_none rfl _ ticket
      rw [same]
      exact .fails holds
  | stop reason =>
    have same : next.situation = { desk.situation with holder := none } :=
      situation_give_of_none rfl _ ticket
    rw [same]
    exact .fails holds
  | drop => exact .fails holds
  | _ => exact ignored

/-- An exchange that fails. -/
theorem moves_failExchange (peer : Peer σ) {ticket : Nat} {flight : Flight σ}
    (holds : desk.holder = some (ticket, .exchanging flight)) {error : Error}
    (other : (Outcome.response (.error error)).verdict? = none) (event : Event σ) :
    let next := desk.failExchange ticket flight error
    Situation.Moves peer desk.situation (next.notesOfExchange peer ticket flight event)
      next.situation := by
  intro next
  have same : next.situation =
      { desk.situation with past := desk.client.past ++ [flight.link], free := none, holder := none } :=
    situation_give_of_none other (desk.release (desk.client.lose flight.link)) ticket
  rw [same]
  exact .loses holds

/-- An exchange whose response is complete. -/
theorem moves_conclude (peer : Peer σ) {ticket : Nat} {flight : Flight σ}
    (holds : desk.holder = some (ticket, .exchanging flight)) (sent : flight.unsent = [])
    (complete : Frame.missing desk.client.config.order flight.received = 0) (event : Event σ) :
    let concluded := desk.client.conclude flight.link flight.received
    let next := (desk.release concluded.2).give ticket (.response concluded.1)
    Situation.Moves peer desk.situation (next.notesOfExchange peer ticket flight event)
      next.situation := by
  cases decoded : Frame.decode desk.client.factory.resolver .response desk.client.config.order
      flight.received with
  | error reason =>
    have concluded : desk.client.conclude flight.link flight.received =
        (.error (.reception reason.toIoError), desk.client.lose flight.link) := by
      rw [Client.conclude, decoded]
    rw [concluded]
    exact moves_failExchange peer holds rfl event
  | ok result =>
    have verdict : Client.verdict desk.client.config desk.client.factory flight.received =
        Client.classify result.1 := by
      rw [Client.verdict, decoded]
    have concluded : desk.client.conclude flight.link flight.received =
        (Client.classify result.1, desk.client.keep flight.link) := by
      rw [Client.conclude, decoded]
    rw [concluded]
    dsimp only
    rw [situation_give, Outcome.verdict?_classify, ← verdict]
    exact .concludes holds sent complete

/-- What can happen while an exchange is under way. -/
theorem moves_stepExchange (peer : Peer σ) {ticket : Nat} {flight : Flight σ}
    (holds : desk.holder = some (ticket, .exchanging flight)) (event : Event σ) :
    let next := desk.stepExchange peer ticket flight event
    Situation.Moves peer desk.situation (next.notesOfExchange peer ticket flight event)
      next.situation := by
  have ignored (silent : ∀ count, event ≠ .send count) :
      Situation.Moves peer desk.situation (desk.notesOfExchange peer ticket flight event)
        desk.situation := by
    unfold notesOfExchange
    rw [holds]
    cases event with
    | send count => exact absurd rfl (silent count)
    | _ => exact .rests
  cases event with
  | send count => exact .sends holds count
  | receive count =>
    simp only [stepExchange]
    split
    · rename_i allowed
      exact .receives holds (Nat.min_le_right ..) allowed.2.2
    · exact ignored nofun
  | conclude =>
    simp only [stepExchange]
    by_cases sent : flight.unsent.isEmpty
    · rw [if_pos sent]
      cases large : desk.tooLarge? flight with
      | some length => exact moves_failExchange peer holds rfl _
      | none =>
        dsimp only
        by_cases complete : desk.wanted flight = 0
        · rw [if_pos complete]
          exact moves_conclude peer holds (List.isEmpty_iff.mp sent) complete _
        · rw [if_neg complete]
          exact ignored nofun
    · rw [if_neg sent]
      exact ignored nofun
  | stop reason => exact moves_failExchange peer holds (Outcome.verdict?_stop reason _) _
  | ended =>
    simp only [stepExchange]
    split
    · exact moves_failExchange peer holds rfl _
    · exact ignored nofun
  | drop => exact .loses holds
  | _ => exact ignored nofun

/-- An event that has nothing to do with a connection. -/
theorem moves_of_same {peer : Peer σ} {event : Event σ}
    (same : (desk.step peer event).situation = desk.situation)
    (silent : ∀ count, event ≠ .send count)
    (outside : desk.holder = none → ∀ shutdown, event ≠ .enter shutdown) :
    Situation.Moves peer desk.situation (desk.notes peer event) (desk.step peer event).situation := by
  have holder : (desk.step peer event).holder = desk.holder := congrArg Situation.holder same
  have quiet : desk.notes peer event = [] := by
    unfold notes
    cases holds : desk.holder with
    | none =>
      cases event with
      | enter shutdown => exact absurd rfl (outside holds shutdown)
      | _ => rfl
    | some held =>
      rw [holds] at holder
      obtain ⟨ticket, activity⟩ := held
      cases activity with
      | connecting =>
        dsimp only
        unfold notesOfConnecting
        rw [holder]
      | exchanging flight =>
        dsimp only
        unfold notesOfExchange
        rw [holder]
        cases event with
        | send count => exact absurd rfl (silent count)
        | _ => rfl
  rw [same, quiet]
  exact .rests

/-- **All that an event can do.** -/
theorem moves (peer : Peer σ) (desk : Desk σ) (event : Event σ)
    (fresh : ∀ link, event = .attempted (.established link) → link.written = []) :
    Situation.Moves peer desk.situation (desk.notes peer event) (desk.step peer event).situation := by
  cases event with
  | start ticket task => exact moves_of_same (by cases task <;> rfl) nofun nofun
  | withdraw ticket =>
    refine moves_of_same ?_ nofun nofun
    simp only [step]
    split
    · exact situation_give_of_none (Outcome.verdict?_failure _) _ _
    · rfl
  | leave ticket => exact moves_of_same rfl nofun nofun
  | enter shutdown =>
    cases holds : desk.holder with
    | none =>
      cases waiting : desk.queue with
      | nil =>
        have same : desk.step peer (.enter shutdown) = desk := by simp only [step, holds, waiting]
        have quiet : desk.notes peer (.enter shutdown) = [] := by simp only [notes, holds, waiting]
        rw [same, quiet]
        exact .rests
      | cons first queue =>
        have admitted : desk.step peer (.enter shutdown) =
            { desk with queue }.admitTask shutdown first.1 first.2 := by
          simp only [step, holds, waiting]
        have noted : desk.notes peer (.enter shutdown) =
            desk.notesOfTask (desk.step peer (.enter shutdown)) first.1 first.2 := by
          simp only [notes, holds, waiting]
        rw [noted, admitted]
        exact moves_admitTask peer holds queue shutdown first.1 first.2
    | some held =>
      have same : desk.step peer (.enter shutdown) = desk := by simp only [step, holds]
      exact moves_of_same (congrArg situation same) nofun (by simp [holds])
  | _ =>
    cases holds : desk.holder with
    | none =>
      simp only [notes, step, holds]
      exact .rests
    | some held =>
      obtain ⟨ticket, activity⟩ := held
      cases activity with
      | connecting =>
        simp only [notes, step, holds]
        exact moves_stepConnecting peer holds _ fresh
      | exchanging flight =>
        simp only [notes, step, holds]
        exact moves_stepExchange peer holds _

end Moves

end Desk

end ModbusTcp
