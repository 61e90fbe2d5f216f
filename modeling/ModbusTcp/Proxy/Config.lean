import ModbusTcp.Proxy.SourceFilter
import ModbusTcp.Server.Config

/-!
# Settings of a proxy

A proxy passes the requests of a peer on to a target.  The first target that the peer may use is the
one, and a peer that may use none is refused.

* `ProxyConfig.route` — the target of a peer.
* `ProxyConfig.validate` — the settings make sense.
-/

namespace ModbusTcp

/-- A target, and the peers that may use it. -/
structure ProxyTarget where
  source : Option SourceFilter := none
  client : ClientConfig := {}
deriving DecidableEq, Repr

/-- The peer may use the target: there is no filter, or the filter contains it. -/
def ProxyTarget.admits (target : ProxyTarget) (peer : IpAddress) : Bool :=
  target.source.all (·.contains peer)

/-- The settings of a target make sense. -/
def ProxyTarget.validate (target : ProxyTarget) : Except ConfigError Unit := do
  (target.source.map (·.validate)).getD (.ok ())
  target.client.validate

/-- The settings of a proxy. -/
structure ProxyConfig where
  server : ServerConfig := {}
  targets : List ProxyTarget := []
deriving DecidableEq, Repr

namespace ProxyConfig

/-- The settings of a proxy make sense. -/
def validate (config : ProxyConfig) : Except ConfigError Unit := do
  config.server.validate
  if config.targets.isEmpty then .error .noTargets
  else config.targets.forM (·.validate)

/-- The target of a peer: the first that it may use. -/
def route (config : ProxyConfig) (peer : IpAddress) : Option ProxyTarget :=
  config.targets.find? (·.admits peer)

end ProxyConfig

end ModbusTcp
