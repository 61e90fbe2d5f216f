import ModbusTcp.Bytes
import ModbusTcp.Error
import ModbusTcp.Text.Blank

/-!
# Settings of a client

* `ClientConfig` — where a client connects to, how it speaks and how long it waits.
* `ClientConfig.validate` — the settings make sense.
-/

namespace ModbusTcp

/-- The port of the protocol. -/
def defaultPort : UInt16 := 502

/-- How large a frame can be, unless the settings say otherwise. -/
def defaultMaxFrame : Nat := 16384

/-- The settings of a client; times are in seconds. -/
structure ClientConfig where
  host : String := ""
  port : UInt16 := defaultPort
  order : ByteOrder := .big
  protocolId : UInt16 := 0
  connectTimeout : Nat := 15
  transmitTimeout : Nat := 15
  receiveTimeout : Nat := 15
  maxFrame : Nat := defaultMaxFrame
deriving DecidableEq, Repr

/-- The settings of a client make sense. -/
def ClientConfig.validate (config : ClientConfig) : Except ConfigError Unit :=
  if isBlankText config.host then .error .missingHost
  else if config.port = 0 then .error .zeroPort
  else if config.maxFrame = 0 then .error .zeroFrameSize
  else if config.connectTimeout = 0 ∨ config.transmitTimeout = 0 ∨ config.receiveTimeout = 0 then
    .error .zeroTimeout
  else .ok ()

end ModbusTcp
