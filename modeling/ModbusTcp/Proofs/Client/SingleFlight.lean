import ModbusTcp.Proofs.Client.Moves
import ModbusTcp.Proofs.Framing

/-!
# One exchange at a time

Tasks that share a client take turns, and whatever happens to one of them, no other is ever given its
response.  The notes of a run are put in order, connection by connection, and what they say is compared
with what is on the links.

* `Journal` — the notes in order: who was admitted and who has left, and a `Session` for each connection.
* `Session.Settled`, `Session.Flies`, `Session.Aligned` — how requests and responses stand to each other
  on a connection that is free, on one that is in use, and on any.
* `Journal.Follows` — what a journal has to do with the situation that it has led to, and
  `Journal.Follows.moves` that it follows whatever happens.
* **`Desk.run_single_flight`** — every connection stays aligned, whatever the tasks and the transport do.
-/

namespace ModbusTcp

variable {σ : Type}

/-! ### The notes in order -/

/-- What has been noted of one connection: the requests in the order in which they took it, what each of
them had read when it gave it back, and all that the peer has said. -/
structure Session where
  asked : List (Nat × Frame) := []
  answered : List (Nat × Bytes) := []
  heard : Bytes := []

namespace Session

/-- Who has taken the connection. -/
def tickets (session : Session) : List Nat := session.asked.map (·.1)

/-- What those had read who gave the connection back. -/
def frames (session : Session) : List Bytes := session.answered.map (·.2)

/-- The bytes of requests, one after the other. -/
def spell (order : ByteOrder) (requests : List (Nat × Frame)) : Bytes :=
  requests.flatMap fun (_, request) => request.encode order

theorem spell_append (order : ByteOrder) (first second : List (Nat × Frame)) :
    spell order (first ++ second) = spell order first ++ spell order second :=
  List.flatMap_append

theorem spell_singleton (order : ByteOrder) (ticket : Nat) (request : Frame) :
    spell order [(ticket, request)] = request.encode order :=
  List.flatMap_singleton ..

end Session

/-- All notes in order. -/
structure Journal where
  entered : List Nat := []
  left : List Nat := []
  closed : List Session := []
  current : Option Session := none

namespace Journal

/-- All connections, in the order in which they were opened. -/
def sessions (journal : Journal) : List Session := journal.closed ++ journal.current.toList

/-- All responses, in the order in which they were read. -/
def answered (journal : Journal) : List (Nat × Bytes) := journal.sessions.flatMap (·.answered)

/-- The journal with something noted of the current connection. -/
def onCurrent (journal : Journal) (note : Session → Session) : Journal :=
  { journal with current := journal.current.map note }

/-- The journal with one more note. -/
def add (journal : Journal) : Note → Journal
  | .entered ticket => { journal with entered := journal.entered ++ [ticket] }
  | .left ticket => { journal with left := journal.left ++ [ticket] }
  | .opened greeting => { journal with closed := journal.sessions, current := some { heard := greeting } }
  | .closed => { journal with closed := journal.sessions, current := none }
  | .asked ticket request =>
    journal.onCurrent fun session => { session with asked := session.asked ++ [(ticket, request)] }
  | .heard bytes => journal.onCurrent fun session => { session with heard := session.heard ++ bytes }
  | .answered ticket bytes =>
    journal.onCurrent fun session => { session with answered := session.answered ++ [(ticket, bytes)] }

/-- The journal with more notes. -/
def addAll (journal : Journal) (notes : List Note) : Journal := notes.foldl add journal

/-- The journal of a run. -/
def ofRun (peer : Peer σ) (desk : Desk σ) (events : List (Event σ)) : Journal :=
  addAll {} (desk.trace peer events)

end Journal

/-! ### Requests and responses on a connection -/

namespace Session

variable {order : ByteOrder} {session : Session}

/-- Nothing is under way on a connection: every request has been written, and is answered with the frame
that was the next in what the peer has said. -/
structure Settled (order : ByteOrder) (session : Session) (link : Link σ) : Prop where
  turns : session.answered.map (·.1) = session.tickets
  written : link.written = spell order session.asked
  heard : session.heard = session.frames.flatten ++ link.unread
  whole : ∀ bytes ∈ session.frames, Frame.IsWhole order bytes

/-- One exchange is under way on a connection, after earlier ones that are over. -/
structure Flies (order : ByteOrder) (session : Session) (earlier : List (Nat × Frame)) (ticket : Nat)
    (request : Frame) (flight : Flight σ) : Prop where
  asked : session.asked = earlier ++ [(ticket, request)]
  turns : session.answered.map (·.1) = earlier.map (·.1)
  written : flight.link.written ++ flight.unsent = spell order session.asked
  unsent : flight.unsent <:+ request.encode order
  heard : session.heard = session.frames.flatten ++ (flight.received ++ flight.link.unread)
  whole : ∀ bytes ∈ session.frames, Frame.IsWhole order bytes
  partly : flight.received.length ≤ Frame.expectedLength order flight.received

/-- How requests and responses stand to each other on any connection: at most the last request is
unanswered, all others are written in full, and each was answered with the frame that stands in its
place in what the peer has said. -/
structure Aligned (order : ByteOrder) (session : Session) (link : Link σ) : Prop where
  turns : session.answered.map (·.1) <+: session.tickets
  pending : session.asked.length ≤ session.answered.length + 1
  wholly : spell order (session.asked.take session.answered.length) <+: link.written
  partly : link.written <+: spell order session.asked
  frames : session.frames <+: Frame.cut order session.heard
  whole : ∀ bytes ∈ session.frames, Frame.IsWhole order bytes

/-- Connections, one by one, are aligned with what has been noted of them. -/
structure AllAligned (order : ByteOrder) (sessions : List Session) (links : List (Link σ)) : Prop where
  length : sessions.length = links.length
  each : ∀ pair ∈ sessions.zip links, pair.1.Aligned order pair.2

theorem AllAligned.nil : AllAligned order [] ([] : List (Link σ)) := ⟨rfl, nofun⟩

theorem Aligned.alone {link : Link σ} (aligned : session.Aligned order link) :
    AllAligned order [session] [link] := by
  refine ⟨rfl, fun pair member => ?_⟩
  obtain rfl := List.mem_singleton.mp member
  exact aligned

theorem AllAligned.append {sessions later : List Session} {links others : List (Link σ)}
    (first : AllAligned order sessions links) (second : AllAligned order later others) :
    AllAligned order (sessions ++ later) (links ++ others) := by
  refine ⟨?_, fun pair member => ?_⟩
  · rw [List.length_append, List.length_append, first.length, second.length]
  · rw [List.zip_append first.length, List.mem_append] at member
    rcases member with member | member
    · exact first.each pair member
    · exact second.each pair member

theorem AllAligned.exists_of_mem {sessions : List Session} {links : List (Link σ)}
    (all : AllAligned order sessions links) (member : session ∈ sessions) :
    ∃ link : Link σ, session.Aligned order link := by
  obtain ⟨index, inside, rfl⟩ := List.mem_iff_getElem.mp member
  have beside : index < links.length := all.length ▸ inside
  have pair : (sessions[index], links[index]) ∈ sessions.zip links := by
    rw [List.mem_iff_getElem]
    exact ⟨index, by rw [List.length_zip]; omega, List.getElem_zip⟩
  exact ⟨links[index], all.each _ pair⟩

/-- What was read as whole frames is what the peer has said, cut into frames. -/
theorem frames_prefix_cut {rest : Bytes} (heard : session.heard = session.frames.flatten ++ rest)
    (whole : ∀ bytes ∈ session.frames, Frame.IsWhole order bytes) :
    session.frames <+: Frame.cut order session.heard := by
  rw [heard, Frame.cut_flatten_append whole]
  exact List.prefix_append ..

theorem length_asked_eq {requests : List (Nat × Frame)}
    (turns : session.answered.map (·.1) = requests.map (·.1)) :
    requests.length = session.answered.length := by
  have lengths := congrArg List.length turns
  rw [List.length_map, List.length_map] at lengths
  exact lengths.symm

theorem Settled.aligned {link : Link σ} (settled : session.Settled order link) :
    session.Aligned order link := by
  have lengths : session.asked.length = session.answered.length := length_asked_eq settled.turns
  have all : spell order (session.asked.take session.answered.length) = link.written := by
    rw [← lengths, List.take_length, settled.written]
  exact ⟨settled.turns ▸ List.prefix_rfl, by omega, all ▸ List.prefix_rfl,
    settled.written ▸ List.prefix_rfl, frames_prefix_cut settled.heard settled.whole, settled.whole⟩

theorem Flies.aligned {earlier : List (Nat × Frame)} {ticket : Nat} {request : Frame}
    {flight : Flight σ} (flies : session.Flies order earlier ticket request flight) :
    session.Aligned order flight.link := by
  have lengths : earlier.length = session.answered.length := length_asked_eq flies.turns
  -- Of the last request a part is written, all earlier ones are written in full.
  obtain ⟨part, split⟩ := flies.unsent
  have written : flight.link.written = spell order earlier ++ part := by
    have all := flies.written
    rw [flies.asked, spell_append, spell_singleton, ← split, ← List.append_assoc] at all
    exact List.append_cancel_right all
  refine ⟨?_, ?_, ?_, ⟨_, flies.written⟩, ?_, flies.whole⟩
  · rw [flies.turns, tickets, flies.asked, List.map_append]
    exact List.prefix_append ..
  · rw [flies.asked, List.length_append, lengths]
    exact Nat.le_refl _
  · rw [flies.asked, ← lengths, List.take_left, written]
    exact List.prefix_append ..
  · exact frames_prefix_cut flies.heard flies.whole

/-- A connection that has just been opened. -/
theorem settled_opened {link : Link σ} (fresh : link.written = []) :
    Settled order { heard := link.unread } link :=
  ⟨rfl, fresh, rfl, nofun⟩

/-- A request takes the connection. -/
theorem Settled.asks {link : Link σ} (settled : session.Settled order link) (ticket : Nat)
    (request : Frame) :
    Flies order { session with asked := session.asked ++ [(ticket, request)] } session.asked ticket
      request { link, unsent := request.encode order } where
  asked := rfl
  turns := settled.turns
  written := by
    rw [settled.written, spell_append, spell_singleton]
  unsent := List.suffix_rfl
  heard := settled.heard
  whole := settled.whole
  partly := Nat.zero_le _

section Flies

variable {earlier : List (Nat × Frame)} {ticket : Nat} {request : Frame} {flight : Flight σ}

/-- Some bytes of the request are written, and the peer speaks. -/
theorem Flies.sends (flies : session.Flies order earlier ticket request flight) (peer : Peer σ)
    (count : Nat) :
    Flies order
      { session with
        heard := session.heard ++ (peer.react flight.link.peer (flight.unsent.take count)).answer }
      earlier ticket request
      { flight with
        link := flight.link.write peer (flight.unsent.take count)
        unsent := flight.unsent.drop count } where
  asked := flies.asked
  turns := flies.turns
  written := by
    rw [← flies.written]
    simp [Link.write]
  unsent := (List.drop_suffix ..).trans flies.unsent
  heard := by
    rw [flies.heard]
    simp [Link.write, frames]
  whole := flies.whole
  partly := flies.partly

/-- Some bytes are read that the response is missing. -/
theorem Flies.receives (flies : session.Flies order earlier ticket request flight) {count : Nat}
    (missing : count ≤ Frame.missing order flight.received) :
    session.Flies order earlier ticket request
      { flight with
        received := flight.received ++ flight.link.unread.take count
        link := flight.link.skip count } where
  asked := flies.asked
  turns := flies.turns
  written := flies.written
  unsent := flies.unsent
  heard := by
    rw [flies.heard]
    simp [Link.skip]
  whole := flies.whole
  partly := by
    refine Frame.length_append_le_expectedLength flies.partly ?_
    rw [List.length_take]
    omega

/-- The response is complete, and the connection is given back. -/
theorem Flies.concludes (flies : session.Flies order earlier ticket request flight)
    (sent : flight.unsent = []) (complete : Frame.missing order flight.received = 0) :
    Settled order { session with answered := session.answered ++ [(ticket, flight.received)] }
      flight.link where
  turns := by
    rw [tickets, flies.asked, List.map_append, List.map_append, flies.turns]
    rfl
  written := by
    rw [← flies.written, sent, List.append_nil]
  heard := by
    rw [flies.heard]
    simp [frames]
  whole := by
    intro bytes member
    rw [frames, List.map_append, List.mem_append] at member
    rcases member with member | member
    · exact flies.whole bytes member
    · obtain rfl : bytes = flight.received := by simpa using member
      have atMost := flies.partly
      rw [Frame.missing] at complete
      rw [Frame.IsWhole]
      omega

end Flies

/-- What stands in the journal as the current connection is the one that is free or in use. -/
inductive Stands (order : ByteOrder) :
    Option Session → Option (Link σ) → Option (Nat × Activity σ) → Prop
  /-- There is no connection. -/
  | nothing : Stands order none none none
  /-- There is none yet. -/
  | connecting {ticket : Nat} : Stands order none none (some (ticket, .connecting))
  /-- The connection is free. -/
  | free {session : Session} {link : Link σ} (settled : session.Settled order link) :
      Stands order (some session) (some link) none
  /-- The connection is in use. -/
  | flying {session : Session} {earlier : List (Nat × Frame)} {ticket : Nat} {request : Frame}
      {flight : Flight σ} (flies : session.Flies order earlier ticket request flight) :
      Stands order (some session) none (some (ticket, .exchanging flight))

section Stands

variable {current : Option Session} {free : Option (Link σ)} {holder : Option (Nat × Activity σ)}

theorem Stands.of_free {link : Link σ} (stands : Stands order current (some link) holder) :
    ∃ session, current = some session ∧ holder = none ∧ session.Settled order link := by
  cases stands with
  | free settled => exact ⟨_, rfl, rfl, settled⟩

theorem Stands.of_connecting {ticket : Nat}
    (stands : Stands order current free (some (ticket, .connecting))) : current = none ∧ free = none := by
  cases stands with
  | connecting => exact ⟨rfl, rfl⟩

theorem Stands.of_exchanging {ticket : Nat} {flight : Flight σ}
    (stands : Stands order current free (some (ticket, .exchanging flight))) :
    ∃ session earlier request, current = some session ∧ free = none ∧
      session.Flies order earlier ticket request flight := by
  cases stands with
  | flying flies => exact ⟨_, _, _, rfl, rfl, flies⟩

theorem Stands.of_nothing (stands : Stands order current (none : Option (Link σ)) none) :
    current = none := by
  cases stands with
  | nothing => rfl

end Stands

end Session

/-! ### The journal of a run -/

/-- What a journal has to do with the situation it has led to. -/
structure Journal.Follows (journal : Journal) (now : Situation σ) : Prop where
  turns : journal.entered = journal.left ++ (now.holder.map (·.1)).toList
  admission : (journal.sessions.flatMap (·.tickets)).Sublist journal.entered
  closed : Session.AllAligned now.config.order journal.closed now.past
  stands : Session.Stands now.config.order journal.current now.free now.holder
  verdicts : now.verdicts = journal.answered.map fun (ticket, bytes) =>
    (ticket, Client.verdict now.config now.factory bytes)

namespace Journal

theorem addAll_append (journal : Journal) (first second : List Note) :
    journal.addAll (first ++ second) = (journal.addAll first).addAll second :=
  List.foldl_append

section Moves

variable {peer : Peer σ} {journal : Journal} {now next : Situation σ} {notes : List Note}

/-- Who is admitted leaves before the next one is admitted. -/
theorem turns_of_moves (turns : journal.entered = journal.left ++ (now.holder.map (·.1)).toList)
    (moved : now.Moves peer notes next) :
    (journal.addAll notes).entered =
      (journal.addAll notes).left ++ (next.holder.map (·.1)).toList := by
  cases moved <;> simp_all [addAll, add, onCurrent]

/-- **Whatever happens, the journal follows it.** -/
theorem Follows.moves (follows : journal.Follows now) (moved : now.Moves peer notes next) :
    (journal.addAll notes).Follows next := by
  have turns := turns_of_moves follows.turns moved
  obtain ⟨entered, left, closed, current⟩ := journal
  obtain ⟨-, admission, aligned, stands, verdicts⟩ := follows
  cases moved with
  | rests => exact ⟨turns, admission, aligned, stands, verdicts⟩
  | passes idle ticket =>
    exact ⟨turns, admission.trans (List.sublist_append_left ..), aligned, stands, verdicts⟩
  | disconnects idle isFree ticket =>
    rw [isFree] at stands
    obtain ⟨session, rfl, -, settled⟩ := stands.of_free
    refine ⟨turns, ?_, aligned.append settled.aligned.alone, ?_, ?_⟩
    · simpa [addAll, add, sessions] using admission.trans (List.sublist_append_left ..)
    · rw [idle]
      exact .nothing
    · simpa [addAll, add, sessions, answered] using verdicts
  | connects idle isFree ticket =>
    rw [isFree, idle] at stands
    obtain rfl := stands.of_nothing
    refine ⟨turns, admission.trans (List.sublist_append_left ..), aligned, ?_, verdicts⟩
    rw [isFree]
    exact .connecting
  | opens holds fresh =>
    rw [holds] at stands
    obtain ⟨rfl, isFree⟩ := stands.of_connecting
    refine ⟨turns, ?_, ?_, .free (Session.settled_opened fresh), ?_⟩
    · simpa [addAll, add, sessions, Session.tickets] using admission
    · simpa [addAll, add, sessions] using aligned
    · simpa [addAll, add, sessions, answered] using verdicts
  | fails holds =>
    rw [holds] at stands
    obtain ⟨rfl, isFree⟩ := stands.of_connecting
    refine ⟨turns, admission, aligned, ?_, verdicts⟩
    rw [isFree]
    exact .nothing
  | asks idle isFree ticket request =>
    rw [isFree] at stands
    obtain ⟨session, rfl, -, settled⟩ := stands.of_free
    have one : [ticket].Sublist [ticket] := .refl _
    refine ⟨turns, ?_, aligned, .flying (settled.asks ticket request), ?_⟩
    · simpa [addAll, add, onCurrent, sessions, Session.tickets] using admission.append one
    · simpa [addAll, add, onCurrent, sessions, answered] using verdicts
  | sends holds count =>
    rw [holds] at stands
    obtain ⟨session, earlier, request, rfl, isFree, flies⟩ := stands.of_exchanging
    refine ⟨turns, ?_, aligned, ?_, ?_⟩
    · simpa [addAll, add, onCurrent, sessions, Session.tickets] using admission
    · rw [isFree]
      exact .flying (flies.sends peer count)
    · simpa [addAll, add, onCurrent, sessions, answered] using verdicts
  | receives holds missing present =>
    rw [holds] at stands
    obtain ⟨session, earlier, request, rfl, isFree, flies⟩ := stands.of_exchanging
    refine ⟨turns, admission, aligned, ?_, verdicts⟩
    rw [isFree]
    exact .flying (flies.receives missing)
  | concludes holds sent complete =>
    rw [holds] at stands
    obtain ⟨session, earlier, request, rfl, isFree, flies⟩ := stands.of_exchanging
    refine ⟨turns, ?_, aligned, .free (flies.concludes sent complete), ?_⟩
    · simpa [addAll, add, onCurrent, sessions, Session.tickets] using admission
    · simp [addAll, add, onCurrent, sessions, answered, verdicts]
  | loses holds =>
    rw [holds] at stands
    obtain ⟨session, earlier, request, rfl, isFree, flies⟩ := stands.of_exchanging
    refine ⟨turns, ?_, aligned.append flies.aligned.alone, .nothing, ?_⟩
    · simpa [addAll, add, sessions] using admission
    · simpa [addAll, add, sessions, answered] using verdicts

end Moves

/-- The journal of a run follows it from its beginning to its end, and the settings stay what they are. -/
theorem Follows.run (peer : Peer σ) {events : List (Event σ)} {desk : Desk σ} {journal : Journal}
    (fresh : ∀ link, .attempted (.established link) ∈ events → link.written = [])
    (follows : journal.Follows desk.situation) :
    (journal.addAll (desk.trace peer events)).Follows (desk.run peer events).situation ∧
      (desk.run peer events).client.config = desk.client.config ∧
      (desk.run peer events).client.factory = desk.client.factory := by
  induction events generalizing desk journal with
  | nil => exact ⟨follows, rfl, rfl⟩
  | cons event events ih =>
    have moved := desk.moves peer event fun link same => fresh link (same ▸ List.mem_cons_self ..)
    have later := ih (fun link member => fresh link (List.mem_cons_of_mem _ member))
      (follows.moves moved)
    have config : (desk.step peer event).client.config = desk.client.config := moved.config
    have factory : (desk.step peer event).client.factory = desk.client.factory := moved.factory
    rw [config, factory] at later
    rw [Desk.trace, addAll_append]
    exact later

end Journal

/-! ### One exchange at a time -/

/-- The connections in the order in which they were opened: those that are closed, and then the one that
is free or in use. -/
def Desk.connections (desk : Desk σ) : List (Link σ) :=
  desk.client.links ++
    match desk.holder with
    | some (_, .exchanging flight) => [flight.link]
    | _ => []

/-- What a journal says of the desk that its run has led to. -/
structure Desk.SingleFlight (config : ClientConfig) (factory : FrameFactory) (desk : Desk σ)
    (journal : Journal) : Prop where
  /-- Every task has left before the next one was admitted, so that at most one is inside. -/
  turns : journal.entered = journal.left ++ (desk.holder.map (·.1)).toList
  /-- Requests take a connection in the order in which tasks were admitted. -/
  admission : (journal.sessions.flatMap (·.tickets)).Sublist journal.entered
  /-- On every connection that was ever opened, requests and responses are aligned. -/
  aligned : Session.AllAligned config.order journal.sessions desk.connections
  /-- On a connection that is free, as many requests were written as responses were read. -/
  settled : ∀ link, desk.client.link = some link →
    ∃ session, journal.current = some session ∧ session.Settled config.order link
  /-- Tasks were told what the responses come to that they have read, one by one. -/
  verdicts : desk.verdicts = journal.answered.map fun (ticket, bytes) =>
    (ticket, Client.verdict config factory bytes)
  /-- A task that was given a response was not given up, and it was given the frame that stands in the
  place of its request in what the peer has said. -/
  given : ∀ ticket response, (ticket, .response (.ok response)) ∈ desk.outcomes →
    ∃ session ∈ journal.sessions, ∃ place < session.answered.length, ∃ bytes,
      session.tickets[place]? = some ticket ∧
      (Frame.cut config.order session.heard)[place]? = some bytes ∧
      Client.verdict config factory bytes = .ok response

/-- A response that was read stands in its place, between requests and frames. -/
theorem Session.Aligned.exists_place {order : ByteOrder} {session : Session} {link : Link σ}
    (aligned : session.Aligned order link) {ticket : Nat} {bytes : Bytes}
    (member : (ticket, bytes) ∈ session.answered) :
    ∃ place < session.answered.length, session.tickets[place]? = some ticket ∧
      (Frame.cut order session.heard)[place]? = some bytes := by
  obtain ⟨place, here⟩ := List.mem_iff_getElem?.mp member
  obtain ⟨inside, -⟩ := List.getElem?_eq_some_iff.mp here
  obtain ⟨_, tickets⟩ := aligned.turns
  obtain ⟨_, frames⟩ := aligned.frames
  refine ⟨place, inside, ?_, ?_⟩
  · rw [← tickets, List.getElem?_append_left (by rwa [List.length_map]), List.getElem?_map, here]
    rfl
  · rw [← frames, Session.frames, List.getElem?_append_left (by rwa [List.length_map]),
      List.getElem?_map, here]
    rfl

section Follows

variable {desk : Desk σ} {journal : Journal}

theorem Journal.Follows.aligned (follows : journal.Follows desk.situation) :
    Session.AllAligned desk.client.config.order journal.sessions desk.connections := by
  have closed : Session.AllAligned desk.client.config.order journal.closed desk.client.past :=
    follows.closed
  have stands : Session.Stands desk.client.config.order journal.current desk.client.link
    desk.holder := follows.stands
  rw [sessions, Desk.connections, Client.links, List.append_assoc]
  apply closed.append
  generalize journal.current = current, desk.client.link = free, desk.holder = holder at stands
  cases stands with
  | nothing => exact .nil
  | connecting => exact .nil
  | free settled => exact settled.aligned.alone
  | flying flies => exact flies.aligned.alone

/-- Who was given a response has read it, and it was in its place. -/
theorem Journal.Follows.given (follows : journal.Follows desk.situation) {ticket : Nat}
    {response : Frame} (given : (ticket, .response (.ok response)) ∈ desk.outcomes) :
    ∃ session ∈ journal.sessions, ∃ place < session.answered.length, ∃ bytes,
      session.tickets[place]? = some ticket ∧
      (Frame.cut desk.client.config.order session.heard)[place]? = some bytes ∧
      Client.verdict desk.client.config desk.client.factory bytes = .ok response := by
  have told : (ticket, .ok response) ∈ desk.verdicts := List.mem_filterMap.mpr ⟨_, given, rfl⟩
  have verdicts : desk.verdicts = _ := follows.verdicts
  rw [verdicts, List.mem_map] at told
  obtain ⟨⟨_, bytes⟩, read, same⟩ := told
  simp only [Prod.mk.injEq] at same
  obtain ⟨rfl, verdict⟩ := same
  obtain ⟨session, member, here⟩ := List.mem_flatMap.mp read
  obtain ⟨link, aligned⟩ := follows.aligned.exists_of_mem member
  obtain ⟨place, inside, asked, cut⟩ := aligned.exists_place here
  exact ⟨_, member, place, inside, bytes, asked, cut, verdict⟩

theorem Journal.Follows.settled (follows : journal.Follows desk.situation) {link : Link σ}
    (isFree : desk.client.link = some link) :
    ∃ session, journal.current = some session ∧
      session.Settled desk.client.config.order link := by
  have stands : Session.Stands desk.client.config.order journal.current desk.client.link
    desk.holder := follows.stands
  rw [isFree] at stands
  obtain ⟨session, current, -, settled⟩ := stands.of_free
  exact ⟨session, current, settled⟩

theorem Journal.Follows.singleFlight (follows : journal.Follows desk.situation) :
    desk.SingleFlight desk.client.config desk.client.factory journal where
  turns := follows.turns
  admission := follows.admission
  aligned := follows.aligned
  settled _ := follows.settled
  verdicts := follows.verdicts
  given _ _ := follows.given

end Follows

/-- **Every connection stays aligned**, whatever the tasks that share a client, the transport and the
peers do. -/
theorem Desk.run_single_flight (peer : Peer σ) (config : ClientConfig) (factory : FrameFactory)
    (events : List (Event σ))
    (fresh : ∀ link, .attempted (.established link) ∈ events → link.written = []) :
    let start : Desk σ := { client := { config, factory } }
    (start.run peer events).SingleFlight config factory (Journal.ofRun peer start events) := by
  intro start
  have begins : Journal.Follows {} start.situation := ⟨rfl, .slnil, .nil, .nothing, rfl⟩
  obtain ⟨follows, sameConfig, sameFactory⟩ := begins.run peer fresh
  have single := follows.singleFlight
  rwa [sameConfig, sameFactory] at single

/-- A peer that answers fourteen bytes with a register that counts its answers. -/
def Peer.counting : Peer (Nat × UInt8) where
  react := fun (pending, count) bytes =>
    if pending + bytes.length < 14 then { state := (pending + bytes.length, count) }
    else
      { state := (pending + bytes.length - 14, count + 1)
        answer := [0, 1, 0, 0, 0, 0, 0, 5, 1, 3, 2, 0, count] }

/-- The second of three exchanges is dropped while its response is on the way.  The third one is on
another connection, and it is given what the peer says there. -/
theorem Desk.run_single_flight_of_dropped :
    let request : Frame := (FrameFactory.readRegisters {} 1 0 1).1
    let events : List (Event (Nat × UInt8)) :=
      [.start 0 .connect, .start 1 (.exchange request), .start 2 (.exchange request), .enter,
        .attempted (.established { peer := (0, 0) }), .start 3 .connect, .start 4 (.exchange request),
        .enter, .send 5, .enter, .send 9, .receive 8, .receive 9, .conclude,
        .enter, .send 14, .receive 4, .drop,
        .enter, .attempted (.established { peer := (0, 9) }),
        .enter, .send 14, .receive 8, .receive 5, .conclude]
    let start : Desk (Nat × UInt8) := { client := { config := {}, factory := {} } }
    let journal := Journal.ofRun Peer.counting start events
    (start.run Peer.counting events).SingleFlight {} {} journal ∧
      journal.sessions.map (·.tickets) = [[1, 2], [4]] ∧
      journal.sessions.map (·.frames) =
        [[[0, 1, 0, 0, 0, 0, 0, 5, 1, 3, 2, 0, 0]], [[0, 1, 0, 0, 0, 0, 0, 5, 1, 3, 2, 0, 9]]] := by
  intro request events start journal
  refine ⟨run_single_flight Peer.counting {} {} events ?_, ?_, ?_⟩
  · intro link opened
    simp only [events, List.mem_cons, reduceCtorEq, false_or, Event.attempted.injEq,
      Attempt.established.injEq, List.not_mem_nil, or_false] at opened
    rcases opened with rfl | rfl <;> rfl
  · decide +kernel
  · decide +kernel

end ModbusTcp
