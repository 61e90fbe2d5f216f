import ModbusTcp.Resolver

/-!
# Building requests

A factory numbers the requests it builds: each frame carries the protocol id of its factory and the
next transaction id, which starts again at zero after the highest one.

* `FrameFactory.next` — a frame around a payload, and the factory afterwards.
* `FrameFactory.readRegisters`, `FrameFactory.readInputRegisters`, `FrameFactory.writeRegister`,
  `FrameFactory.writeMultiple` — the requests of the register model.
* `FrameFactory.add` — one more resolver, which is asked after the others.
-/

namespace ModbusTcp

/-- What a factory has to know to number requests and to read answers. -/
structure FrameFactory where
  resolvers : List Resolver := [Resolver.basic]
  protocolId : UInt16 := 0
  nextId : UInt16 := 0

namespace FrameFactory

/-- The resolver of a factory: its resolvers in their order. -/
def resolver (factory : FrameFactory) : Resolver := .firstOf factory.resolvers

/-- The factory with one more resolver, which is asked after the others. -/
def add (factory : FrameFactory) (resolver : Resolver) : FrameFactory :=
  { factory with resolvers := factory.resolvers ++ [resolver] }

/-- The next frame, around a payload for a function, and the factory afterwards. -/
def next (factory : FrameFactory) (unit : UInt8) (function : FunctionCode) (payload : Packet) :
    Frame × FrameFactory :=
  (.ofPdu factory.nextId factory.protocolId unit (.ofFunction function payload),
    { factory with nextId := factory.nextId + 1 })

/-- A request to read holding registers. -/
def readRegisters (factory : FrameFactory) (unit : UInt8) (start count : UInt16) : Frame × FrameFactory :=
  factory.next unit .readHoldingRegisters (.body (.readRegisters start count))

/-- A request to read input registers. -/
def readInputRegisters (factory : FrameFactory) (unit : UInt8) (start count : UInt16) :
    Frame × FrameFactory :=
  factory.next unit .readInputRegisters (.body (.readRegisters start count))

/-- A request to write one register. -/
def writeRegister (factory : FrameFactory) (unit : UInt8) (address value : UInt16) :
    Frame × FrameFactory :=
  factory.next unit .writeSingleRegister (.body (.writeRegister address value))

/-- A request to write consecutive registers. -/
def writeMultiple (factory : FrameFactory) (unit : UInt8) (start : UInt16) (values : List UInt16) :
    Frame × FrameFactory :=
  factory.next unit .writeMultipleRegisters (.body (.writeMultiple start values))

end FrameFactory

end ModbusTcp
