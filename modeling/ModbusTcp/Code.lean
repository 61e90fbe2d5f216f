/-!
# Function codes and exception codes

The byte that opens a PDU names a function; its highest bit marks an exception response.  The byte in
an exception response names the exception.

* `FunctionCode.ofByte`, `FunctionCode.value` — the functions with a name of their own, and the others.
* `ExceptionCode.ofByte`, `ExceptionCode.value`, `ExceptionCode.message` — the same for exceptions.
* `value_ofByte` — the code of a byte stands for that byte.
-/

namespace ModbusTcp

/-- The bit of a function byte that marks an exception response. -/
def exceptionFlag : UInt8 := 0x80

/-- A function byte that is marked as an exception response. -/
def isFlagged (function : UInt8) : Bool := function &&& exceptionFlag ≠ 0

/-- A function byte without the mark of an exception response. -/
def withoutFlag (function : UInt8) : UInt8 := function &&& ~~~exceptionFlag

/-- The functions of the register model, and all others by their byte. -/
inductive FunctionCode where
  | readHoldingRegisters
  | readInputRegisters
  | writeSingleRegister
  | writeMultipleRegisters
  | custom (code : UInt8)
deriving DecidableEq, Repr

namespace FunctionCode

/-- The function that a byte names. -/
def ofByte (value : UInt8) : FunctionCode :=
  if value = 0x03 then .readHoldingRegisters
  else if value = 0x04 then .readInputRegisters
  else if value = 0x06 then .writeSingleRegister
  else if value = 0x10 then .writeMultipleRegisters
  else .custom value

/-- The byte that names a function. -/
def value : FunctionCode → UInt8
  | .readHoldingRegisters => 0x03
  | .readInputRegisters => 0x04
  | .writeSingleRegister => 0x06
  | .writeMultipleRegisters => 0x10
  | .custom code => code

/-- A function is shown as its number. -/
def text (function : FunctionCode) : String := toString function.value.toNat

/-- The name of a function. -/
def name : FunctionCode → String
  | .readHoldingRegisters => "ReadHoldingRegisters"
  | .readInputRegisters => "ReadInputRegisters"
  | .writeSingleRegister => "WriteSingleRegister"
  | .writeMultipleRegisters => "WriteMultipleRegisters"
  | .custom code => "Custom(" ++ toString code.toNat ++ ")"

theorem value_ofByte (byte : UInt8) : (ofByte byte).value = byte := by
  unfold ofByte
  repeat' split
  all_goals simp_all [value]

end FunctionCode

/-- What a server reports when it cannot do as asked. -/
inductive ExceptionCode where
  | illegalFunction
  | illegalDataAddress
  | illegalDataValue
  | serverDeviceFailure
  | acknowledge
  | serverDeviceBusy
  | memoryParityError
  | gatewayPathUnavailable
  | gatewayTargetDevice
  | custom (code : UInt8)
deriving DecidableEq, Repr

namespace ExceptionCode

/-- The exception that a byte names. -/
def ofByte (value : UInt8) : ExceptionCode :=
  if value = 0x01 then .illegalFunction
  else if value = 0x02 then .illegalDataAddress
  else if value = 0x03 then .illegalDataValue
  else if value = 0x04 then .serverDeviceFailure
  else if value = 0x05 then .acknowledge
  else if value = 0x06 then .serverDeviceBusy
  else if value = 0x08 then .memoryParityError
  else if value = 0x0A then .gatewayPathUnavailable
  else if value = 0x0B then .gatewayTargetDevice
  else .custom value

/-- The byte that names an exception. -/
def value : ExceptionCode → UInt8
  | .illegalFunction => 0x01
  | .illegalDataAddress => 0x02
  | .illegalDataValue => 0x03
  | .serverDeviceFailure => 0x04
  | .acknowledge => 0x05
  | .serverDeviceBusy => 0x06
  | .memoryParityError => 0x08
  | .gatewayPathUnavailable => 0x0A
  | .gatewayTargetDevice => 0x0B
  | .custom code => code

/-- The name of an exception. -/
def name : ExceptionCode → String
  | .illegalFunction => "IllegalFunction"
  | .illegalDataAddress => "IllegalDataAddress"
  | .illegalDataValue => "IllegalDataValue"
  | .serverDeviceFailure => "ServerDeviceFailure"
  | .acknowledge => "Acknowledge"
  | .serverDeviceBusy => "ServerDeviceBusy"
  | .memoryParityError => "MemoryParityError"
  | .gatewayPathUnavailable => "GatewayPathUnavailable"
  | .gatewayTargetDevice => "GatewayTargetDevice"
  | .custom code => "Custom(" ++ toString code.toNat ++ ")"

/-- The text of an exception. -/
def message : ExceptionCode → String
  | .illegalFunction => "Illegal function"
  | .illegalDataAddress => "Illegal data address"
  | .illegalDataValue => "Illegal data value"
  | .serverDeviceFailure => "Server device failure"
  | .acknowledge => "Acknowledge"
  | .serverDeviceBusy => "Server device busy"
  | .memoryParityError => "Memory parity error"
  | .gatewayPathUnavailable => "Gateway path unavailable"
  | .gatewayTargetDevice => "Gateway target device failed to respond"
  | .custom _ => "Custom"

/-- The text of an exception response with the given byte. -/
def responseMessage (code : UInt8) : String := "Modbus exception: " ++ (ofByte code).message

theorem value_ofByte (byte : UInt8) : (ofByte byte).value = byte := by
  unfold ofByte
  repeat' split
  all_goals simp_all [value]

end ExceptionCode

end ModbusTcp
