import ModbusTcp.Proxy.Connection
import ModbusTcp.Server

/-!
# A server among its peers

A hub is a server with the connections that peers have opened to it.  All of them share one state, such
as a register map; what else a connection knows is its own.  Connections are numbered in the order in
which they were opened.

* `Hub.visit` — a peer opens a connection.
* `Hub.hear` — bytes arrive on a connection.
* `Hub.leave`, `Hub.stop` — a connection ends; all of them do, because the server stops.
* `Connection.sharing` — a connection whose handler works on the shared state; `Proxy.sharing` — one that
  passes its requests on to such a connection.
-/

namespace ModbusTcp

/-- A connection as its peer knows it: its entry in the register and what it knows, until it has ended,
and what has been written to the peer and not been read yet. -/
structure Visit (κ : Type) where
  session : Option (UInt64 × κ) := none
  unread : Bytes := []

/-- A server, the state that its connections share, and the connections. -/
structure Hub (σ κ : Type) where
  server : Server
  shared : σ
  visits : List (Visit κ) := []

/-- A connection whose handler works on the shared state. -/
def Connection.sharing {σ : Type} (handle : Handler σ) : Peer (σ × Connection σ) where
  react
    | (shared, connection), bytes =>
      let reaction := (Connection.peer handle).react { connection with state := shared } bytes
      { state := (reaction.state.state, reaction.state)
        answer := reaction.answer
        ends := reaction.ends }

/-- A proxied connection whose device is a connection with a handler that works on the shared state. -/
def Proxy.sharing {σ : Type} (device : Handler σ) (peer : Endpoint) :
    Peer (σ × Connection (Client (Connection σ))) where
  react
    | (shared, connection), bytes =>
      let informed (link : Link (Connection σ)) : Link (Connection σ) :=
        { link with peer := { link.peer with state := shared } }
      let client := { connection.state with link := connection.state.link.map informed }
      let handle := Proxy.handle (Connection.peer device) {} peer
      let reaction := (Connection.peer handle).react { connection with state := client } bytes
      let last := reaction.state.state.links.getLast?
      { state := ((last.map (·.peer.state)).getD shared, reaction.state)
        answer := reaction.answer
        ends := reaction.ends }

namespace Hub

variable {σ κ : Type}

/-- A peer opens a connection, if the server runs.  A peer that is refused finds its connection ended. -/
def visit (hub : Hub σ κ) (peer : Endpoint) (session : Option κ) : Option (Hub σ κ) :=
  match hub.server.accept peer, session with
  | none, _ => none
  | some (id, server), some own =>
    some { hub with server, visits := hub.visits ++ [{ session := some (id, own) }] }
  | some _, none => some { hub with visits := hub.visits ++ [{}] }

/-- A connection ends, whoever ends it. -/
def leave (hub : Hub σ κ) (index : Nat) : Hub σ κ :=
  match hub.visits[index]? with
  | some ⟨some (id, _), unread⟩ =>
    { hub with server := hub.server.release id, visits := hub.visits.set index { unread } }
  | _ => hub

/-- Bytes arrive on a connection.  One that has ended takes no notice of them. -/
def hear (react : Peer (σ × κ)) (hub : Hub σ κ) (index : Nat) (bytes : Bytes) : Hub σ κ :=
  match hub.visits[index]? with
  | some ⟨some (id, own), unread⟩ =>
    let reaction := react.react (hub.shared, own) bytes
    let visit : Visit κ := ⟨some (id, reaction.state.2), unread ++ reaction.answer⟩
    let hub := { hub with shared := reaction.state.1, visits := hub.visits.set index visit }
    if reaction.ends then hub.leave index else hub
  | _ => hub

/-- The peer of a connection reads some of what has been written to it. -/
def read (hub : Hub σ κ) (index count : Nat) : Hub σ κ :=
  { hub with visits := hub.visits.modify index fun visit => { visit with unread := visit.unread.drop count } }

/-- The server stops, which ends its connections. -/
def stop (hub : Hub σ κ) : Hub σ κ :=
  let hub := (List.range hub.visits.length).foldl leave hub
  { hub with server := hub.server.stop }

end Hub

end ModbusTcp
