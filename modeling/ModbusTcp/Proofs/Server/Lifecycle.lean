import Mathlib.Data.List.Nodup
import ModbusTcp.Proofs.Server.Moves

/-!
# The life of a server

However tasks start and stop a server, and whatever becomes of its connections in between, its state says
whether it accepts connections while nobody starts or stops it, and there is an entry for every connection
until note has been taken of its end.  A task can be dropped in the middle.  The server is in the state then
in which it has been for the task, until another one starts it, and the loop that has been told to end does
so on its own.  The ids of entries have 64 bits, so that an id comes again after that many connections.

* `Station.abandoned` — the admitted task that has been dropped, if none has come to its end since.
* `Station.Ordered` — how the state of the server, the admitted task and the loops belong together.
* `Station.Accounted` — how the entries and the connections belong together.
* `Station.Becomes`, `Station.exists_getElem?_moves` — what can become of a connection.
* `Station.Reliable` — what can be relied on after any events.
* **`Station.run_reliable`** — a new server is reliable.
* `Station.run_start`, `Station.run_stop`, `Station.run_accept` — what is left alone comes to what the
  server does in one go.
-/

namespace ModbusTcp

namespace Supervised

/-- The entry of a connection, until note has been taken of its end. -/
def listing (connection : Supervised) : Option (UInt64 × Endpoint) :=
  if connection.stage = .noted then none else some (connection.id, connection.peer)

theorem exists_append_of_getElem? {connections : List Supervised} {index : Nat} {connection : Supervised}
    (there : connections[index]? = some connection) :
    ∃ before after, connections = before ++ connection :: after ∧
      ∀ next, connections.set index next = before ++ next :: after := by
  obtain ⟨lt, rfl⟩ := List.getElem?_eq_some_iff.mp there
  refine ⟨connections.take index, connections.drop (index + 1), ?_, fun next => ?_⟩
  · rw [List.getElem_cons_drop, List.take_append_drop]
  · rw [List.set_eq_take_append_cons_drop, if_pos lt]

theorem listing_eq_some {connection : Supervised} {entry : UInt64 × Endpoint} :
    connection.listing = some entry ↔ connection.stage ≠ .noted ∧ entry = (connection.id, connection.peer) := by
  rw [listing]
  split
  · rename_i noted
    exact ⟨nofun, fun still => absurd noted still.1⟩
  · rename_i noted
    exact ⟨fun same => ⟨noted, (Option.some.inj same).symm⟩, fun same => congrArg some same.2.symm⟩

/-- Taking away the entry of another connection leaves the entries of these. -/
theorem filter_entries {connections : List Supervised} {id : UInt64}
    (other : id ∉ connections.map Supervised.id) :
    (connections.filterMap listing).filter (·.1 ≠ id) = connections.filterMap listing := by
  rw [List.filter_eq_self]
  intro entry among
  obtain ⟨connection, member, has⟩ := List.mem_filterMap.mp among
  rw [(listing_eq_some.mp has).2]
  exact decide_eq_true fun same => other (same ▸ List.mem_map_of_mem member)

end Supervised

/-! ### Numbers of connections -/

/-- The ids that so many connections get, one after the other. -/
def Registry.ids (count : Nat) : List UInt64 := (List.range count).map UInt64.ofNat

namespace Registry

theorem ids_succ (count : Nat) : ids (count + 1) = ids count ++ [.ofNat count] := by
  rw [ids, List.range_succ, List.map_append]
  rfl

theorem ofNat_ne {first second : Nat} (before : first < second) (few : second < UInt64.size) :
    UInt64.ofNat first ≠ UInt64.ofNat second := by
  intro same
  have same : (UInt64.ofNat first).toNat = (UInt64.ofNat second).toNat := congrArg UInt64.toNat same
  rw [UInt64.toNat_ofNat_of_lt' (Nat.lt_trans before few), UInt64.toNat_ofNat_of_lt' few] at same
  omega

/-- The next id is none of those before, unless all ids have been given. -/
theorem ofNat_not_mem_ids {count : Nat} (few : count < UInt64.size) : UInt64.ofNat count ∉ ids count := by
  intro among
  obtain ⟨earlier, before, same⟩ := List.mem_map.mp among
  exact ofNat_ne (List.mem_range.mp before) few same

theorem nodup_ids {count : Nat} (few : count ≤ UInt64.size) : (ids count).Nodup := by
  induction count with
  | zero => exact List.nodup_nil
  | succ count ih =>
    rw [ids_succ, List.nodup_append]
    refine ⟨ih (Nat.le_of_succ_le few), List.pairwise_singleton .., fun id old other new => ?_⟩
    obtain rfl := List.mem_singleton.mp new
    exact fun same => ofNat_not_mem_ids few (same ▸ old)

end Registry

/-- The state in which a server is for a task. -/
def ServerTask.state : ServerTask → ServerState
  | .start => .initializing
  | .stop => .stopping

namespace Station

variable {station now next : Station} {event : Event}

/-! ### Tasks that are dropped -/

/-- The admitted task that has been dropped, if none has come to its end since: after an event, given what
it was before. -/
def abandonedBy (now next : Station) (event : Event) (before : Option ServerTask) : Option ServerTask :=
  match now.holder, next.holder, event with
  | some (_, task), none, .drop => some task
  | some _, none, _ => none
  | _, _, _ => before

/-- The admitted task that has been dropped, if none has come to its end since: after several events. -/
def abandoned (station : Station) (before : Option ServerTask) : List Event → Option ServerTask
  | [] => before
  | event :: events =>
    let next := station.step event
    next.abandoned (station.abandonedBy next event before) events

theorem abandonedBy_of_same (same : next.holder = now.holder) (event : Event) (before : Option ServerTask) :
    now.abandonedBy next event before = before := by
  unfold abandonedBy
  rw [same]
  cases now.holder <;> rfl

/-! ### The state of the server -/

/-- The state in between while a task is admitted, or has been dropped; in all other cases the server
accepts connections exactly if there is a loop. -/
def expectedState (station : Station) (abandoned : Option ServerTask) : ServerState :=
  match (station.holder.map (·.2)).or abandoned with
  | some task => task.state
  | none => if station.loop.isSome then .accepting else .stopped

/-- The state of the server belongs to the admitted task, or to the one that has been dropped, and to the
loop.  There is no loop while the server is being started, or once a task has been dropped; a loop has been
told to end exactly if the server is being stopped, and the server runs exactly if there is a loop that has
not.  All loops that nobody waits for have been told to end. -/
structure Ordered (station : Station) (abandoned : Option ServerTask) : Prop where
  state : station.server.state = station.expectedState abandoned
  running : station.server.isRunning = (station.holder.isNone && station.loop.isSome)
  starting : ∀ ticket, station.holder = some (ticket, .start) → station.loop = none
  cancelled : ∀ loop, station.loop = some loop → loop.isCancelled = station.holder.isSome
  dropped : station.holder = none → abandoned.isSome → station.loop = none
  strays : ∀ loop ∈ station.strays, loop.isCancelled = true

section Ordered

variable {abandoned : Option ServerTask}

theorem Ordered.isRunning_of_idle (ordered : station.Ordered abandoned) (idle : station.holder = none) :
    station.server.isRunning = station.loop.isSome := by
  rw [ordered.running, idle]
  rfl

/-- A server does not run while a task is admitted. -/
theorem Ordered.rests_of_holder (ordered : station.Ordered abandoned) {ticket : Nat} {task : ServerTask}
    (holds : station.holder = some (ticket, task)) : station.server.isRunning = false := by
  rw [ordered.running, holds]
  rfl

theorem Ordered.rests_iff (ordered : station.Ordered abandoned) (idle : station.holder = none) :
    station.server.isRunning = false ↔ station.loop = none := by
  rw [ordered.isRunning_of_idle idle, Option.isSome_eq_false_iff, Option.isNone_iff_eq_none]

/-- Who waits, what tasks have been told, the entries and the connections do not matter. -/
theorem Ordered.of_same (ordered : station.Ordered abandoned) (same : next.holder = station.holder)
    (state : next.server.state = station.server.state)
    (running : next.server.isRunning = station.server.isRunning) (loop : next.loop = station.loop)
    (strays : next.strays = station.strays) : next.Ordered abandoned := by
  refine ⟨?_, ?_, ?_, ?_, ?_, ?_⟩
  · rw [state, ordered.state, expectedState, expectedState, same, loop]
  · rw [running, same, loop]
    exact ordered.running
  · rw [same, loop]
    exact ordered.starting
  · rw [same, loop]
    exact ordered.cancelled
  · rw [same, loop]
    exact ordered.dropped
  · rw [strays]
    exact ordered.strays

theorem holder_enroll (station : Station) (created : Option Endpoint) :
    (station.enroll created).holder = station.holder := by
  cases created <;> rfl

theorem strays_enroll (station : Station) (created : Option Endpoint) :
    (station.enroll created).strays = station.strays := by
  cases created <;> rfl

theorem Ordered.enroll (ordered : station.Ordered abandoned) (created : Option Endpoint) :
    (station.enroll created).Ordered abandoned := by
  cases created with
  | none => exact ordered
  | some peer => exact ordered.of_same rfl rfl rfl rfl rfl

/-- While nobody leaves it does not matter who has been dropped. -/
theorem Ordered.stays (ordered : next.Ordered abandoned) (same : next.holder = now.holder) :
    next.Ordered (now.abandonedBy next event abandoned) := by
  rw [abandonedBy_of_same same]
  exact ordered

/-- A loop goes on, or ends because it has been told to. -/
theorem Ordered.loops (ordered : station.Ordered abandoned) {loop : AcceptLoop}
    (there : station.loop = some loop) (event : LoopEvent) :
    { station with loop := (loop.step event).1 }.Ordered abandoned := by
  have told : loop.isCancelled = station.holder.isSome := ordered.cancelled loop there
  cases ends : (loop.step event).1 with
  | some later =>
    have same : later.isCancelled = loop.isCancelled := AcceptLoop.isCancelled_of_step ends
    refine ⟨?_, ?_, ?_, ?_, ?_, ordered.strays⟩
    · show station.server.state = _
      rw [ordered.state, expectedState, expectedState, there]
      rfl
    · show station.server.isRunning = _
      rw [ordered.running, there]
      rfl
    · intro ticket holds
      cases there.symm.trans (ordered.starting ticket holds)
    · rintro _ ⟨⟩
      exact same.trans told
    · intro idle dropped
      cases there.symm.trans (ordered.dropped idle dropped)
  | none =>
    -- Only the loop of a server that is being stopped has been told to end.
    have holds : station.holder.isSome = true := told.symm.trans (AcceptLoop.isCancelled_of_end ends)
    obtain ⟨held, holds⟩ := Option.isSome_iff_exists.mp holds
    refine ⟨?_, ?_, fun _ _ => rfl, nofun, fun _ _ => rfl, ordered.strays⟩
    · show station.server.state = _
      rw [ordered.state, expectedState, expectedState, holds]
      rfl
    · show station.server.isRunning = _
      rw [ordered.running, holds]
      rfl

theorem Ordered.strayed (ordered : station.Ordered abandoned) {index : Nat} {loop : AcceptLoop}
    (there : station.strays[index]? = some loop) (event : LoopEvent) :
    Ordered { station with
      strays := station.strays.take index ++ (loop.step event).1.toList ++ station.strays.drop (index + 1)
    } abandoned := by
  refine ⟨ordered.state, ordered.running, ordered.starting, ordered.cancelled, ordered.dropped, ?_⟩
  intro other member
  rcases List.mem_append.mp member with member | after
  · rcases List.mem_append.mp member with before | later
    · exact ordered.strays other (List.mem_of_mem_take before)
    · rw [AcceptLoop.isCancelled_of_step (Option.mem_toList.mp later)]
      exact ordered.strays loop (List.mem_of_getElem? there)
  · exact ordered.strays other (List.mem_of_mem_drop after)

/-- A server without a loop is at rest once nobody is admitted, in the state in which it has been left. -/
theorem ordered_of_rest (idle : next.holder = none) (none : next.loop = none)
    (rests : next.server.isRunning = false)
    (state : next.server.state = (abandoned.map ServerTask.state).getD .stopped)
    (strays : ∀ loop ∈ next.strays, loop.isCancelled = true) : next.Ordered abandoned := by
  refine ⟨?_, ?_, fun _ _ => none, fun loop there => ?_, fun _ _ => none, strays⟩
  · rw [state, expectedState, idle, none]
    cases abandoned <;> rfl
  · rw [rests, idle, none]
    rfl
  · cases none.symm.trans there

/-- **Whatever happens preserves it.** -/
theorem Ordered.moves (ordered : now.Ordered abandoned) (moved : now.Moves event next) :
    next.Ordered (now.abandonedBy next event abandoned) := by
  cases moved with
  | rests event queue outcomes =>
    exact Ordered.stays (ordered.of_same rfl rfl rfl rfl rfl) rfl
  | starts idle rests ticket queue =>
    have none : now.loop = none := (ordered.rests_iff idle).mp rests
    refine ⟨rfl, rests, fun _ _ => none, fun loop there => ?_, nofun, ordered.strays⟩
    cases none.symm.trans there
  | stops idle runs ticket queue =>
    refine ⟨rfl, rfl, nofun, fun loop there => ?_, nofun, ordered.strays⟩
    obtain ⟨before, _, rfl⟩ := Option.map_eq_some_iff.mp there
    rfl
  | listens holds endpoint outcomes =>
    simp only [abandonedBy, holds]
    refine ⟨rfl, rfl, nofun, ?_, nofun, ordered.strays⟩
    rintro _ ⟨⟩
    rfl
  | fails holds reason outcomes =>
    simp only [abandonedBy, holds]
    exact ordered_of_rest rfl (ordered.starting _ holds) (ordered.rests_of_holder holds) rfl ordered.strays
  | joins holds none outcomes =>
    simp only [abandonedBy, holds]
    exact ordered_of_rest rfl none (ordered.rests_of_holder holds) rfl ordered.strays
  | dropsStart holds =>
    have state := ordered.state
    rw [expectedState, holds] at state
    simp only [abandonedBy, holds]
    exact ordered_of_rest rfl (ordered.starting _ holds) (ordered.rests_of_holder holds) state ordered.strays
  | dropsStop holds =>
    have state := ordered.state
    rw [expectedState, holds] at state
    simp only [abandonedBy, holds]
    refine ordered_of_rest rfl rfl (ordered.rests_of_holder holds) state fun loop member => ?_
    rcases List.mem_append.mp member with stray | own
    · exact ordered.strays loop stray
    · rw [ordered.cancelled loop (Option.mem_toList.mp own), holds]
      rfl
  | loops there event => exact ((ordered.loops there event).enroll _).stays (holder_enroll ..)
  | strays there event => exact ((ordered.strayed there event).enroll _).stays (holder_enroll ..)
  | finishes there ending => exact Ordered.stays (ordered.of_same rfl rfl rfl rfl rfl) rfl
  | notes there => exact Ordered.stays (ordered.of_same rfl rfl rfl rfl rfl) rfl

end Ordered

/-! ### The entries -/

/-- Connections are numbered in the order in which they are created.  Until an id comes again, every
connection has an entry until note has been taken of its end, and there are no others. -/
structure Accounted (station : Station) : Prop where
  next : station.server.registry.nextId = .ofNat station.connections.length
  ids : station.connections.map Supervised.id = Registry.ids station.connections.length
  entries : station.connections.length ≤ UInt64.size →
    station.server.registry.live = (station.connections.filterMap Supervised.listing).reverse

section Accounted

/-- Only the entries and the connections matter. -/
theorem Accounted.of_eq (accounted : station.Accounted)
    (registry : next.server.registry = station.server.registry)
    (connections : next.connections = station.connections) : next.Accounted := by
  refine ⟨?_, ?_, ?_⟩
  · rw [registry, connections]
    exact accounted.next
  · rw [connections]
    exact accounted.ids
  · rw [registry, connections]
    exact accounted.entries

/-- A connection is created. -/
theorem Accounted.enroll (accounted : station.Accounted) (created : Option Endpoint) :
    (station.enroll created).Accounted := by
  cases created with
  | none => exact accounted
  | some peer =>
    have length : (station.enroll (some peer)).connections.length = station.connections.length + 1 :=
      List.length_append
    refine ⟨?_, ?_, fun few => ?_⟩
    · show station.server.registry.nextId + 1 = _
      rw [accounted.next, length, UInt64.ofNat_add]
      rfl
    · rw [length, Registry.ids_succ, ← accounted.ids, ← accounted.next]
      exact List.map_append
    · rw [length] at few
      -- No connection has got the id before, so that no entry is replaced.
      have fresh : station.server.registry.nextId ∉ station.connections.map Supervised.id := by
        rw [accounted.next, accounted.ids]
        exact Registry.ofNat_not_mem_ids few
      have others : (station.server.registry.remove station.server.registry.nextId).live =
          station.server.registry.live := by
        rw [Registry.remove, accounted.entries (Nat.le_of_succ_le few), List.filter_reverse,
          Supervised.filter_entries fresh]
      show (_, peer) :: (station.server.registry.remove _).live =
        ((station.connections ++ [_]).filterMap Supervised.listing).reverse
      rw [others, accounted.entries (Nat.le_of_succ_le few), List.filterMap_append, List.reverse_append]
      rfl

/-- Another connection with the same id takes the place of a connection. -/
theorem Accounted.replaced (accounted : station.Accounted) {index : Nat} {connection : Supervised}
    (there : station.connections[index]? = some connection) (other : Supervised)
    (same : other.id = connection.id) {live : List (UInt64 × Endpoint)}
    (entries : station.connections.length ≤ UInt64.size →
      live = ((station.connections.set index other).filterMap Supervised.listing).reverse) :
    Accounted { station with
      server := { station.server with registry := { station.server.registry with live } }
      connections := station.connections.set index other } := by
  have length : (station.connections.set index other).length = station.connections.length :=
    List.length_set
  have ids : (station.connections.set index other).map Supervised.id =
      station.connections.map Supervised.id := by
    obtain ⟨before, after, connections, set⟩ := Supervised.exists_append_of_getElem? there
    rw [set, connections, List.map_append, List.map_append, List.map_cons, List.map_cons, same]
  refine ⟨?_, ?_, ?_⟩
  · exact accounted.next.trans (congrArg UInt64.ofNat length.symm)
  · rw [ids, length]
    exact accounted.ids
  · rw [length]
    exact entries

/-- A connection ends; its entry is still there. -/
theorem Accounted.finish (accounted : station.Accounted) {index : Nat} {id : UInt64} {peer : Endpoint}
    (there : station.connections[index]? = some ⟨id, peer, .served⟩) :
    { station with connections := station.connections.set index ⟨id, peer, .ended⟩ }.Accounted := by
  refine accounted.replaced there ⟨id, peer, .ended⟩ rfl fun few => ?_
  obtain ⟨before, after, connections, set⟩ := Supervised.exists_append_of_getElem? there
  rw [accounted.entries few, set, connections, List.filterMap_append, List.filterMap_append,
    List.filterMap_cons, List.filterMap_cons]
  rfl

/-- No two connections have the same id, until one comes again. -/
theorem Accounted.distinct (accounted : station.Accounted) (few : station.connections.length ≤ UInt64.size) :
    (station.connections.map Supervised.id).Nodup := by
  rw [accounted.ids]
  exact Registry.nodup_ids few

/-- Note is taken of the end of a connection: its own entry is taken away. -/
theorem Accounted.note (accounted : station.Accounted) {index : Nat} {id : UInt64} {peer : Endpoint}
    (there : station.connections[index]? = some ⟨id, peer, .ended⟩) :
    Accounted { station with
      server := station.server.release id
      connections := station.connections.set index ⟨id, peer, .noted⟩ } := by
  refine accounted.replaced there ⟨id, peer, .noted⟩ rfl fun few => ?_
  obtain ⟨before, after, connections, set⟩ := Supervised.exists_append_of_getElem? there
  have distinct := accounted.distinct few
  rw [connections, List.map_append, List.map_cons, List.nodup_middle, List.nodup_cons, List.mem_append,
    not_or] at distinct
  obtain ⟨⟨earlier, later⟩, _⟩ := distinct
  rw [accounted.entries few, set, connections, List.filter_reverse, List.filterMap_append, List.filter_append]
  show (_ ++ ((id, peer) :: _).filter _).reverse = _
  rw [List.filter_cons_of_neg (by simp), Supervised.filter_entries earlier,
    Supervised.filter_entries later, List.filterMap_append, List.filterMap_cons]
  rfl

/-- **Whatever happens preserves it.** -/
theorem Accounted.moves (accounted : now.Accounted) (moved : now.Moves event next) : next.Accounted := by
  cases moved with
  | loops there event =>
    refine Accounted.enroll ?_ _
    exact accounted.of_eq rfl rfl
  | strays there event =>
    refine Accounted.enroll ?_ _
    exact accounted.of_eq rfl rfl
  | finishes there ending => exact accounted.finish there
  | notes there => exact accounted.note there
  | _ => exact accounted.of_eq rfl rfl

/-- Nothing else has an entry, and every connection has its own. -/
theorem Accounted.mem_live_iff (accounted : station.Accounted)
    (few : station.connections.length ≤ UInt64.size) {index : Nat} {connection : Supervised}
    (there : station.connections[index]? = some connection) :
    (connection.id, connection.peer) ∈ station.server.registry.live ↔ connection.stage ≠ .noted := by
  rw [accounted.entries few, List.mem_reverse, List.mem_filterMap]
  constructor
  · rintro ⟨other, member, has⟩
    obtain ⟨still, same⟩ := Supervised.listing_eq_some.mp has
    have one : connection = other :=
      List.inj_on_of_nodup_map (accounted.distinct few) (List.mem_of_getElem? there) member
        (congrArg Prod.fst same)
    exact one ▸ still
  · intro still
    exact ⟨connection, List.mem_of_getElem? there, Supervised.listing_eq_some.mpr ⟨still, rfl⟩⟩

/-- The connections whose end is yet to be noted are counted. -/
theorem Accounted.connectionCount (accounted : station.Accounted)
    (few : station.connections.length ≤ UInt64.size) :
    station.server.connectionCount = station.connections.countP (·.stage ≠ .noted) := by
  rw [Server.connectionCount, accounted.entries few, List.length_reverse, List.length_filterMap_eq_countP]
  refine List.countP_congr fun connection _ => ?_
  rw [Supervised.listing]
  split <;> simp [*]

end Accounted

/-! ### What becomes of connections -/

section Connections

/-- What an event makes of the connection in a place. -/
inductive Becomes (index : Nat) : Event → Supervised → Supervised → Prop where
  | same (event : Event) (connection : Supervised) : Becomes index event connection connection
  | ended (ending : Option Ending) (id : UInt64) (peer : Endpoint) :
    Becomes index (.finish index ending) ⟨id, peer, .served⟩ ⟨id, peer, .ended⟩
  | noted (id : UInt64) (peer : Endpoint) :
    Becomes index (.note index) ⟨id, peer, .ended⟩ ⟨id, peer, .noted⟩

/-- A loop adds a connection behind the others, at most. -/
theorem exists_connections_enroll (station : Station) (created : Option Endpoint) :
    ∃ new, (station.enroll created).connections = station.connections ++ new ∧ new.length ≤ 1 := by
  cases created with
  | none => exact ⟨[], (List.append_nil _).symm, Nat.zero_le _⟩
  | some peer => exact ⟨_, rfl, Nat.le_refl _⟩

/-- An event adds a connection behind the others, at most, or it makes something of one of them. -/
theorem connections_cases (moved : now.Moves event next) :
    (∃ new, next.connections = now.connections ++ new ∧ new.length ≤ 1) ∨
      ∃ (place : Nat) (old new : Supervised), now.connections[place]? = some old ∧
        next.connections = now.connections.set place new ∧ Becomes place event old new := by
  cases moved with
  | loops there event => exact .inl (exists_connections_enroll { now with loop := _ } _)
  | strays there event => exact .inl (exists_connections_enroll { now with strays := _ } _)
  | finishes there ending => exact .inr ⟨_, _, _, there, rfl, .ended ending _ _⟩
  | notes there => exact .inr ⟨_, _, _, there, rfl, .noted _ _⟩
  | _ => exact .inl ⟨[], (List.append_nil _).symm, Nat.zero_le _⟩

/-- Whatever happens, a connection keeps its place and its id.  It ends on its own, and only then is note
taken of its end. -/
theorem exists_getElem?_moves {index : Nat} {connection : Supervised}
    (there : now.connections[index]? = some connection) (moved : now.Moves event next) :
    ∃ later, next.connections[index]? = some later ∧ Becomes index event connection later := by
  have inside : index < now.connections.length := (List.getElem?_eq_some_iff.mp there).1
  rcases connections_cases moved with ⟨new, connections, _⟩ | ⟨place, old, new, replaces, connections, becomes⟩
  · rw [connections, List.getElem?_append_left inside]
    exact ⟨connection, there, .same event connection⟩
  · rw [connections]
    by_cases same : place = index
    · subst same
      obtain rfl : connection = old := Option.some.inj (there.symm.trans replaces)
      exact ⟨new, List.getElem?_set_self inside, becomes⟩
    · exact ⟨connection, (List.getElem?_set_ne same).trans there, .same event connection⟩

/-- At most one connection is created at a time. -/
theorem length_connections_moves (moved : now.Moves event next) :
    next.connections.length ≤ now.connections.length + 1 := by
  rcases connections_cases moved with ⟨new, connections, one⟩ | ⟨place, old, new, _, connections, _⟩
  · rw [connections, List.length_append]
    omega
  · rw [connections, List.length_set]
    exact Nat.le_succ _

end Connections

/-! ### What can be relied on -/

/-- A task that starts the server next gets it to accept connections, if it gets to listen. -/
def Startable (station : Station) : Prop :=
  ∀ ticket queue endpoint,
    let started := run { station with queue := (ticket, .start) :: queue } [.enter, .bound (.ok endpoint)]
    started.server.state = .accepting ∧ started.loop = some {} ∧
      started.outcomes = station.outcomes ++ [(ticket, .started (.ok endpoint))]

/-- What can be relied on, given the admitted task that has been dropped, if none has come to its end
since. -/
structure Reliable (station : Station) (abandoned : Option ServerTask) : Prop where
  /-- While nobody starts or stops the server, and the last one who did has not been dropped, it accepts
  connections exactly if it has a loop. -/
  settled : station.holder = none → abandoned = none →
    station.server.state = if station.loop.isSome then .accepting else .stopped
  /-- A task that has been dropped leaves the server without a loop, in the state in which it has been for the
  task.  The server can be started. -/
  dropped : ∀ task, station.holder = none → abandoned = some task →
    station.server.state = task.state ∧ station.loop = none ∧ station.Startable
  /-- Whatever loops nobody waits for, they have been told to end. -/
  strays : ∀ loop ∈ station.strays, loop.isCancelled = true
  /-- To start a server that runs fails, and that is all that comes of it. -/
  refused : ∀ ticket queue, station.holder = none → station.loop.isSome →
    station.queue = (ticket, .start) :: queue →
      station.step .enter =
        { station with queue }.give ticket (.started (.error (.config (.serverRunning .accepting))))
  /-- A server that does not get to listen is stopped, and can be started. -/
  unbound : ∀ ticket reason, station.holder = some (ticket, .start) →
    station.step (.bound (.error reason)) =
        (station.release { station.server with state := .stopped }).give ticket
          (.started (.error (.connect reason))) ∧
      station.loop = none ∧ (station.step (.bound (.error reason))).Startable
  /-- To stop a server that does not run does nothing. -/
  rested : ∀ ticket queue, station.holder = none → station.loop = none →
    station.queue = (ticket, .stop) :: queue →
      station.step .enter = { station with queue }.give ticket .stopped
  /-- Once note has been taken of all that have ended, those that have not are counted. -/
  counted : (∀ connection ∈ station.connections, connection.stage ≠ .ended) →
    station.server.connectionCount = station.connections.countP (·.stage = .served)
  /-- A connection has an entry, under an id of its own, until note has been taken of its end. -/
  listed : ∀ (index : Nat) connection, station.connections[index]? = some connection →
    ((connection.id, connection.peer) ∈ station.server.registry.live ↔ connection.stage ≠ .noted)
  distinct : (station.connections.map Supervised.id).Nodup
  /-- The entry of a connection goes when note is taken of its own end, and by nothing else. -/
  kept : ∀ (index : Nat) connection event, station.connections[index]? = some connection →
    (connection.id, connection.peer) ∈ station.server.registry.live →
      (connection.id, connection.peer) ∉ (station.step event).server.registry.live →
        event = .note index ∧ connection.stage = .ended

section Reliable

variable {abandoned : Option ServerTask}

theorem startable_of_idle (idle : station.holder = none) (rests : station.server.isRunning = false) :
    station.Startable := by
  intro ticket queue endpoint
  have entered : { station with queue := (ticket, .start) :: queue }.step .enter =
      { station with
        server := { station.server with state := .initializing }
        holder := some (ticket, .start)
        queue } := by
    rw [@step_enter { station with queue := (ticket, .start) :: queue } idle _ _ _ rfl]
    exact @admitTask_start { station with queue } rests ticket
  simp only [run, List.foldl_cons, List.foldl_nil, entered]
  exact ⟨rfl, rfl, rfl⟩

theorem Ordered.settled (ordered : station.Ordered none) (idle : station.holder = none) :
    station.server.state = if station.loop.isSome then .accepting else .stopped := by
  rw [ordered.state, expectedState, idle]
  rfl

theorem Ordered.after_drop {task : ServerTask} (ordered : station.Ordered (some task))
    (idle : station.holder = none) :
    station.server.state = task.state ∧ station.loop = none ∧ station.Startable := by
  have none : station.loop = none := ordered.dropped idle rfl
  have rests : station.server.isRunning = false := (ordered.rests_iff idle).mpr none
  refine ⟨?_, none, startable_of_idle idle rests⟩
  rw [ordered.state, expectedState, idle]
  rfl

/-- A server that has a loop has not been left by a task that was dropped. -/
theorem Ordered.accepting (ordered : station.Ordered abandoned) (idle : station.holder = none)
    (there : station.loop.isSome) : station.server.state = .accepting := by
  cases abandoned with
  | none =>
    rw [ordered.settled idle]
    exact if_pos there
  | some task =>
    rw [ordered.dropped idle rfl] at there
    cases there

theorem Ordered.refused (ordered : station.Ordered abandoned) (idle : station.holder = none)
    (there : station.loop.isSome) {ticket : Nat} {queue : List (Nat × ServerTask)}
    (waits : station.queue = (ticket, .start) :: queue) :
    station.step .enter =
      { station with queue }.give ticket (.started (.error (.config (.serverRunning .accepting)))) := by
  have runs : station.server.isRunning = true := (ordered.isRunning_of_idle idle).trans there
  rw [step_enter idle waits, ← ordered.accepting idle there]
  exact @admitTask_start_of_isRunning { station with queue } runs ticket

theorem Ordered.unbound (ordered : station.Ordered abandoned) {ticket : Nat}
    (holds : station.holder = some (ticket, .start)) (reason : IoError) :
    station.step (.bound (.error reason)) =
        (station.release { station.server with state := .stopped }).give ticket
          (.started (.error (.connect reason))) ∧
      station.loop = none ∧ (station.step (.bound (.error reason))).Startable := by
  have failed : station.step (.bound (.error reason)) =
      (station.release { station.server with state := .stopped }).give ticket
        (.started (.error (.connect reason))) := by
    simp only [Station.step, holds]
    rfl
  refine ⟨failed, ordered.starting ticket holds, ?_⟩
  rw [failed]
  exact startable_of_idle rfl (ordered.rests_of_holder holds)

theorem Ordered.rested (ordered : station.Ordered abandoned) (idle : station.holder = none)
    (none : station.loop = none) {ticket : Nat} {queue : List (Nat × ServerTask)}
    (waits : station.queue = (ticket, .stop) :: queue) :
    station.step .enter = { station with queue }.give ticket .stopped := by
  have rests : station.server.isRunning = false := (ordered.rests_iff idle).mpr none
  rw [step_enter idle waits]
  exact @admitTask_stop_of_not_isRunning { station with queue } rests ticket

theorem Accounted.counted (accounted : station.Accounted) (few : station.connections.length ≤ UInt64.size)
    (noted : ∀ connection ∈ station.connections, connection.stage ≠ .ended) :
    station.server.connectionCount = station.connections.countP (·.stage = .served) := by
  rw [accounted.connectionCount few]
  refine List.countP_congr fun connection member => ?_
  have past := noted connection member
  cases stage : connection.stage with
  | served => simp
  | ended => exact absurd stage past
  | noted => simp

/-- The next connection still gets an id of its own. -/
theorem Accounted.kept (accounted : station.Accounted) (few : station.connections.length < UInt64.size)
    {index : Nat} {connection : Supervised} (there : station.connections[index]? = some connection)
    (listed : (connection.id, connection.peer) ∈ station.server.registry.live)
    (gone : (connection.id, connection.peer) ∉ (station.step event).server.registry.live) :
    event = .note index ∧ connection.stage = .ended := by
  have moved : station.Moves event (station.step event) := station.moves event
  have fewThen : (station.step event).connections.length ≤ UInt64.size :=
    Nat.le_trans (length_connections_moves moved) few
  obtain ⟨later, still, becomes⟩ := exists_getElem?_moves there moved
  have after := (accounted.moves moved).mem_live_iff fewThen still
  cases becomes with
  | same =>
    have unnoted := (accounted.mem_live_iff (Nat.le_of_lt few) there).mp listed
    exact absurd (after.mpr unnoted) gone
  | ended => exact absurd (after.mpr nofun) gone
  | noted => exact ⟨rfl, rfl⟩

theorem Reliable.of_invariants (ordered : station.Ordered abandoned) (accounted : station.Accounted)
    (few : station.connections.length < UInt64.size) : station.Reliable abandoned where
  settled idle nobody := (nobody ▸ ordered).settled idle
  dropped _ idle somebody := (somebody ▸ ordered).after_drop idle
  strays := ordered.strays
  refused _ _ idle there waits := ordered.refused idle there waits
  unbound _ reason holds := ordered.unbound holds reason
  rested _ _ idle none waits := ordered.rested idle none waits
  counted := accounted.counted (Nat.le_of_lt few)
  listed _ _ there := accounted.mem_live_iff (Nat.le_of_lt few) there
  distinct := accounted.distinct (Nat.le_of_lt few)
  kept _ _ _ there listed gone := accounted.kept few there listed gone

end Reliable

/-! ### Runs -/

theorem Ordered.run {abandoned : Option ServerTask} (ordered : station.Ordered abandoned)
    (events : List Event) : (station.run events).Ordered (station.abandoned abandoned events) := by
  induction events generalizing station abandoned with
  | nil => exact ordered
  | cons event events ih => exact ih (ordered.moves (station.moves event))

theorem Accounted.run (accounted : station.Accounted) (events : List Event) :
    (station.run events).Accounted := by
  induction events generalizing station with
  | nil => exact accounted
  | cons event events ih => exact ih (accounted.moves (station.moves event))

/-- Only a task that is dropped leaves anything behind. -/
theorem nobody_dropped (moved : now.Moves event next) (other : event ≠ .drop) (none : now.strays = []) :
    now.abandonedBy next event Option.none = Option.none ∧ next.strays = [] := by
  cases moved with
  | rests event queue outcomes => exact ⟨abandonedBy_of_same (by rfl) _ _, none⟩
  | starts idle rests ticket queue => exact ⟨by simp only [abandonedBy, idle], none⟩
  | stops idle runs ticket queue => exact ⟨by simp only [abandonedBy, idle], none⟩
  | listens holds endpoint outcomes => exact ⟨by simp only [abandonedBy, holds], none⟩
  | fails holds reason outcomes => exact ⟨by simp only [abandonedBy, holds], none⟩
  | joins holds ended outcomes => exact ⟨by simp only [abandonedBy, holds], none⟩
  | dropsStart holds => exact absurd rfl other
  | dropsStop holds => exact absurd rfl other
  | loops there event =>
    exact ⟨abandonedBy_of_same (by rw [holder_enroll]) _ _, (strays_enroll ..).trans none⟩
  | strays there event =>
    rw [none] at there
    cases there
  | finishes there ending => exact ⟨abandonedBy_of_same (by rfl) _ _, none⟩
  | notes there => exact ⟨abandonedBy_of_same (by rfl) _ _, none⟩

theorem run_undropped (nobody : station.strays = []) {events : List Event} (undropped : .drop ∉ events) :
    station.abandoned none events = none ∧ (station.run events).strays = [] := by
  induction events generalizing station with
  | nil => exact ⟨rfl, nobody⟩
  | cons event events ih =>
    rw [List.mem_cons, not_or] at undropped
    obtain ⟨settled, none⟩ := nobody_dropped (station.moves event) (Ne.symm undropped.1) nobody
    rw [Station.abandoned, settled]
    exact ih none undropped.2

/-- **A new server is reliable**, whatever happens to it, as long as fewer connections have been created than
there are ids.  Unless an admitted task is dropped, its state is settled whenever nobody starts or stops it,
and there is no loop but its own. -/
theorem run_reliable (config : ServerConfig) (events : List Event)
    (few : (run { server := { config } } events).connections.length < UInt64.size) :
    let station := run { server := { config } } events
    let abandoned := abandoned { server := { config } } none events
    station.Reliable abandoned ∧ (.drop ∉ events → abandoned = none ∧ station.strays = []) := by
  intro station abandoned
  have ordered : Ordered { server := { config } } none := ⟨rfl, rfl, nofun, nofun, nofun, nofun⟩
  have accounted : Accounted { server := { config } } := ⟨rfl, rfl, fun _ => rfl⟩
  exact ⟨.of_invariants (ordered.run events) (accounted.run events) few, run_undropped rfl⟩

/-- A connection outlives the run of the server that has created it.  In the next run a task that stops the
server is dropped, and one that starts it; the loop creates one more connection all the same, and ends.  The
server is started once more, and then note is taken of the end of the first connection. -/
theorem run_reliable_of_dropped :
    let listens : Event := .bound (.ok ⟨.v4 0, 502⟩)
    let first : List Event :=
      [.start 0 .start, .enter, listens, .loop (.arrive ⟨.v4 1, 1000⟩), .loop .create,
        .start 1 .stop, .enter, .loop .quit, .joined, .start 2 .start, .enter, listens]
    let dropped : List Event :=
      first ++ [.loop (.arrive ⟨.v4 2, 1000⟩), .start 3 .stop, .enter, .drop, .start 4 .start, .enter, .drop]
    let last : List Event :=
      dropped ++ [.stray 0 .create, .stray 0 .quit, .start 5 .start, .enter, listens, .finish 0 none, .note 0]
    ((run { server := { config := {} } } first).server.state = .accepting ∧
        (run { server := { config := {} } } first).strays = []) ∧
      ((run { server := { config := {} } } dropped).server.state = .initializing ∧
        (run { server := { config := {} } } dropped).Startable) ∧
      (run { server := { config := {} } } last).connections.length < UInt64.size ∧
      (run { server := { config := {} } } last).server.state = .accepting ∧
      (run { server := { config := {} } } last).server.connectionCount = 1 := by
  intro listens first dropped last
  obtain ⟨reliable, undropped⟩ := run_reliable {} first (by decide)
  obtain ⟨settled, alone⟩ := undropped (by simp [first, listens])
  obtain ⟨reliableThen, -⟩ := run_reliable {} dropped (by decide)
  obtain ⟨state, -, startable⟩ := reliableThen.dropped .start (by decide +kernel) (by decide +kernel)
  have few : (run { server := { config := {} } } last).connections.length < UInt64.size := by decide
  obtain ⟨reliableLast, -⟩ := run_reliable {} last few
  refine ⟨⟨?_, alone⟩, ⟨state, startable⟩, few, ?_, ?_⟩
  · exact (reliable.settled (by decide +kernel) settled).trans (if_pos (by decide +kernel))
  · exact (reliableLast.settled (by decide +kernel) (by decide +kernel)).trans (if_pos (by decide +kernel))
  · exact (reliableLast.counted (by decide +kernel)).trans (by decide +kernel)

/-! ### What is left alone -/

section Alone

variable {abandoned : Option ServerTask}

/-- A start that is left alone comes to what the server does in one go. -/
theorem run_start (idle : station.holder = none) (empty : station.queue = []) (ticket : Nat)
    (bound : Except IoError Endpoint) :
    let started := station.run [.start ticket .start, .enter, .bound bound]
    started.server = (station.server.start bound).2 ∧ started.holder = none ∧
      started.outcomes = station.outcomes ++ [(ticket, .started (station.server.start bound).1)] := by
  have waits : station.step (.start ticket .start) = { station with queue := [(ticket, .start)] } := by
    rw [step, empty]
    rfl
  have enters := @step_enter { station with queue := [(ticket, .start)] } idle _ _ _ rfl
  simp only [run, List.foldl_cons, List.foldl_nil, waits, enters]
  cases runs : station.server.isRunning with
  | true =>
    rw [@admitTask_start_of_isRunning { station with queue := [] } runs, Server.start, Server.beginStart,
      if_pos runs]
    simp only [step, give, idle]
    exact ⟨trivial, trivial, trivial⟩
  | false =>
    rw [@admitTask_start { station with queue := [] } runs, Server.start, Server.beginStart,
      if_neg (by simp [runs])]
    exact ⟨rfl, rfl, rfl⟩

/-- So does a stop, once the loop has nothing to create. -/
theorem run_stop (ordered : station.Ordered abandoned) (idle : station.holder = none)
    (empty : station.queue = []) (done : ∀ loop, station.loop = some loop → loop.creating = none)
    (ticket : Nat) :
    let stopped := station.run [.start ticket .stop, .enter, .loop .quit, .joined]
    stopped.server = station.server.stop ∧ stopped.holder = none ∧ stopped.loop = none ∧
      stopped.outcomes = station.outcomes ++ [(ticket, .stopped)] := by
  have waits : station.step (.start ticket .stop) = { station with queue := [(ticket, .stop)] } := by
    rw [step, empty]
    rfl
  have enters := @step_enter { station with queue := [(ticket, .stop)] } idle _ _ _ rfl
  cases there : station.loop with
  | none =>
    have rests : station.server.isRunning = false := (ordered.rests_iff idle).mpr there
    rw [@admitTask_stop_of_not_isRunning { station with queue := [] } rests] at enters
    simp only [run, List.foldl_cons, List.foldl_nil, waits, enters]
    rw [Server.stop, Server.beginStop, if_neg (by simp [rests])]
    simp only [step, give, idle, there]
    exact ⟨trivial, trivial, trivial, trivial⟩
  | some loop =>
    have runs : station.server.isRunning = true := by
      rw [ordered.isRunning_of_idle idle, there]
      rfl
    rw [@admitTask_stop { station with queue := [] } runs] at enters
    simp only [run, List.foldl_cons, List.foldl_nil, waits, enters]
    rw [Server.stop, Server.beginStop, if_pos runs]
    have ends : ({ loop with isCancelled := true } : AcceptLoop).step .quit = (none, none) := by
      rw [AcceptLoop.step, done loop there]
      rfl
    simp only [step, there, Option.map_some, ends]
    exact ⟨rfl, rfl, rfl, rfl⟩

/-- A loop that is left alone creates a connection as the server does in one go. -/
theorem run_accept (ordered : station.Ordered abandoned) (idle : station.holder = none) {loop : AcceptLoop}
    (there : station.loop = some loop) (free : loop.creating = none) (peer : Endpoint) :
    let accepted := station.run [.loop (.arrive peer), .loop .create]
    ∃ id, station.server.accept peer = some (id, accepted.server) ∧
      accepted.connections = station.connections ++ [⟨id, peer, .served⟩] := by
  have runs : station.server.isRunning = true := by
    rw [ordered.isRunning_of_idle idle, there]
    rfl
  have heeds : loop.isCancelled = false := by
    rw [ordered.cancelled loop there, idle]
    rfl
  have comes : loop.step (.arrive peer) = (some { loop with creating := some peer }, none) := by
    rw [AcceptLoop.step]
    exact if_neg (by simp [heeds, free])
  have arrives : station.step (.loop (.arrive peer)) =
      { station with loop := some { loop with creating := some peer } } := by
    simp only [step, there, comes]
    rfl
  rw [Server.accept, if_pos runs]
  simp only [run, List.foldl_cons, List.foldl_nil, arrives]
  exact ⟨_, rfl, rfl⟩

end Alone

end Station

end ModbusTcp
