import ModbusTcp.Bytes

/-!
# Reusing buffers

A pool lends buffers of any length, filled with zeros, and keeps a limited number of returned ones for
later use.  What a returned buffer held is never seen again, so the pool is known by how many it keeps.

* `BufferPool.rent`, `BufferPool.giveBack` — lending and taking back.
-/

namespace ModbusTcp

/-- A pool that keeps at most `maxIdle` buffers. -/
structure BufferPool where
  maxIdle : Nat := 32
  idle : Nat := 0
deriving DecidableEq, Repr

namespace BufferPool

/-- Lends a buffer of the given length, a kept one if there is one. -/
def rent (pool : BufferPool) (length : Nat) : Bytes × BufferPool :=
  (List.replicate length 0, { pool with idle := pool.idle - 1 })

/-- Takes a buffer back, and keeps it if there is room. -/
def giveBack (pool : BufferPool) : BufferPool :=
  if pool.idle < pool.maxIdle then { pool with idle := pool.idle + 1 } else pool

/-- A rented buffer in words. -/
def describe (buffer : Bytes) : String :=
  "PooledBuffer \x7b len: " ++ toString buffer.length ++ ", .. \x7d"

end BufferPool

end ModbusTcp
