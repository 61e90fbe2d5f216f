import ModbusTcp.Server.RegisterMap
import ModbusTcp.Server.Script

/-!
# Devices

What stands behind a slave is a register map or, in its place, a script.

* `Device` — the two kinds, with what they remember.
* `Device.handle` — a slave before a device.
* `Device.registers` — the registers of a device; a script has none.
-/

namespace ModbusTcp

/-- What stands behind a slave. -/
inductive Device where
  | mapped (map : RegisterMap)
  | scripted (script : Script)

namespace Device

/-- A slave before a device. -/
def handle (peer : Endpoint) : Handler Device := fun device inbound =>
  match device with
  | .mapped map => (Slave.handle RegisterMap.service peer map inbound).map .mapped
  | .scripted script => (Script.handle peer script inbound).map .scripted

/-- The registers of a device. -/
def registers : Device → RegisterMap
  | .mapped map => map
  | .scripted _ => {}

end Device

end ModbusTcp
