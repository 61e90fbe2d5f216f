import ModbusTcp.Address
import ModbusTcp.Error
import ModbusTcp.Server.Config

/-!
# Servers

A server is started and stopped any number of times.  While it runs it accepts connections, each of
which has an entry in a register until it has ended.  Entries are numbered by a counter of 64 bits, which
goes on when the server is restarted, so that an ending connection takes away its own entry and no other.

* `Server.start`, `Server.stop` — starting, which can fail, and stopping; both have two halves, between
  which other things happen.
* `Server.accept`, `Server.release` — a connection is created; a connection has ended.
* `Server.connectionCount` — how many connections have not ended.
-/

namespace ModbusTcp

/-- The connections that have not ended, under their ids, and the id that comes next.  It is zero again
behind the highest. -/
structure Registry where
  nextId : UInt64 := 0
  live : List (UInt64 × Endpoint) := []
deriving DecidableEq, Repr

namespace Registry

/-- Takes an entry away. -/
def remove (registry : Registry) (id : UInt64) : Registry :=
  { registry with live := registry.live.filter (·.1 ≠ id) }

/-- Adds an entry, in the place of one that has its id. -/
def insert (registry : Registry) (peer : Endpoint) : UInt64 × Registry :=
  let id := registry.nextId
  (id, ⟨id + 1, (id, peer) :: (registry.remove id).live⟩)

end Registry

/-- A server: its settings, what it is doing, whether it accepts connections, and its connections. -/
structure Server where
  config : ServerConfig
  state : ServerState := .stopped
  isRunning : Bool := false
  registry : Registry := {}
deriving DecidableEq, Repr

namespace Server

/-- A stopped server. -/
def ofConfig (config : ServerConfig) : Except Error Server := do
  config.validate.mapError .config
  return { config }

/-- Starting the server begins, unless it runs. -/
def beginStart (server : Server) : Except Error Server :=
  if server.isRunning then .error (.config (.serverRunning server.state))
  else .ok { server with state := .initializing }

/-- Starting the server ends, given whether it gets to listen. -/
def finishStart (server : Server) (bound : Except IoError Endpoint) : Except Error Endpoint × Server :=
  match bound with
  | .error reason => (.error (.connect reason), { server with state := .stopped })
  | .ok endpoint => (.ok endpoint, { server with state := .accepting, isRunning := true })

/-- Starts the server, given whether it gets to listen.  A server that runs cannot be started. -/
def start (server : Server) (bound : Except IoError Endpoint) : Except Error Endpoint × Server :=
  match server.beginStart with
  | .error error => (.error error, server)
  | .ok server => server.finishStart bound

/-- Stopping the server begins, if it runs. -/
def beginStop (server : Server) : Option Server :=
  if server.isRunning then some { server with state := .stopping, isRunning := false } else none

/-- Stopping the server ends, once it accepts no connections any more. -/
def finishStop (server : Server) : Server := { server with state := .stopped }

/-- Stops the server, if it runs. -/
def stop (server : Server) : Server :=
  match server.beginStop with
  | some server => server.finishStop
  | none => server

/-- A connection has been created, and gets an entry. -/
def enroll (server : Server) (peer : Endpoint) : UInt64 × Server :=
  let (id, registry) := server.registry.insert peer
  (id, { server with registry })

/-- A connection is created, if the server runs. -/
def accept (server : Server) (peer : Endpoint) : Option (UInt64 × Server) :=
  if server.isRunning then some (server.enroll peer) else none

/-- A connection has ended. -/
def release (server : Server) (id : UInt64) : Server :=
  { server with registry := server.registry.remove id }

/-- How many connections have not ended. -/
def connectionCount (server : Server) : Nat := server.registry.live.length

end Server

end ModbusTcp
