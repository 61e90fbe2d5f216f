/-!
# States of a server

A server is stopped or accepts connections; while it starts or stops it is in between.

* `ServerState` — the four states, and `ServerState.name`.
-/

namespace ModbusTcp

/-- What a server is doing. -/
inductive ServerState where
  | stopped
  | initializing
  | accepting
  | stopping
deriving DecidableEq, Repr

/-- The name of a state. -/
def ServerState.name : ServerState → String
  | .stopped => "Stopped"
  | .initializing => "Initializing"
  | .accepting => "Accepting"
  | .stopping => "Stopping"

end ModbusTcp
