import ModbusTcp.Code
import ModbusTcp.Packet

/-!
# Services

A service answers requests to the units behind a server, and may remember something from one request
to the next.

* `UnitRequest` — what a service is asked.
* `Service` — how it answers.
-/

namespace ModbusTcp

/-- A request to a unit behind a server. -/
structure UnitRequest where
  unit : UInt8
  function : FunctionCode
  payload : Packet
deriving DecidableEq, Repr

/-- Answers a request with a payload or an exception, and goes on to another state. -/
abbrev Service (σ : Type) := UnitRequest → σ → Except ExceptionCode Packet × σ

end ModbusTcp
