import ModbusTcp.Client.Config

/-!
# Settings of a server

* `ServerConfig` — where a server listens and how it speaks.
* `ServerConfig.validate` — the settings make sense.
-/

namespace ModbusTcp

/-- The settings of a server; times are in seconds. -/
structure ServerConfig where
  listenOn : String := "127.0.0.1"
  port : UInt16 := defaultPort
  order : ByteOrder := .big
  initializationTimeout : Nat := 30
  maxFrame : Nat := defaultMaxFrame
deriving DecidableEq, Repr

/-- The settings of a server make sense. -/
def ServerConfig.validate (config : ServerConfig) : Except ConfigError Unit :=
  if isBlankText config.listenOn then .error .missingListenAddress
  else if config.maxFrame = 0 then .error .zeroFrameSize
  else if config.initializationTimeout = 0 then .error .zeroInitializationTimeout
  else .ok ()

end ModbusTcp
