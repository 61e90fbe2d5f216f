import ModbusTcp.Server.Slave

/-!
# Scripted services

A scripted service stands in for a device.  It answers its requests in turn with what its script says,
whatever they ask, and keeps a record of them.

* `Script.Line` — what happens at one request: an answer, or the service breaks down.
* `Script.service` — the service of a script.
* `Script.handle` — a slave before that service; where it breaks down the connection ends.
-/

namespace ModbusTcp

/-- What a script says about one request. -/
inductive Script.Line where
  | answer (result : Except ExceptionCode Packet)
  | breakdown

/-- A script: the lines that are still to come, the requests so far, and whether the service has broken
down at the last of them. -/
structure Script where
  lines : List Script.Line := []
  requests : List UnitRequest := []
  isBroken : Bool := false

namespace Script

/-- The exception code that tells that the script is over. -/
def overCode : UInt8 := 238

/-- The service of a script. -/
def service : Service Script := fun request script =>
  let record : Script :=
    { lines := script.lines.drop 1, requests := script.requests ++ [request] }
  match script.lines with
  | [] => (.error (.custom overCode), record)
  | .answer result :: _ => (result, record)
  | .breakdown :: _ => (.error .serverDeviceFailure, { record with isBroken := true })

/-- A slave before the service of a script. -/
def handle (peer : Endpoint) : Handler Script := fun script inbound =>
  let turn := Slave.handle service peer { script with isBroken := false } inbound
  if turn.state.isBroken then { state := turn.state, ending := some (.ok ()) } else turn

end Script

end ModbusTcp
