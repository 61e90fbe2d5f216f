import ModbusTcp.Client.Operation
import ModbusTcp.Register.InPlace

/-!
# Reading definitions in place

* `Operation.readSpan` — reads the bytes of the covering span.
* `Client.readInPlace` — reads them from a peer, and decodes the definitions where they are.
-/

namespace ModbusTcp

/-- Reads the bytes of the covering span of definitions. -/
def Operation.readSpan (order : ByteOrder) (unit : UInt8) (definitions : List Definition) :
    Operation Bytes where
  build := (readDefinitions order unit definitions).build
  accept := (readRange unit 0 0).accept

/-- Reads the covering span of definitions and gives them their values where they are: how that ends, what
the list holds then, and the client afterwards. -/
def Client.readInPlace {σ : Type} (peer : Peer σ) (client : Client σ) (unit : UInt8)
    (definitions : List Definition) (circumstances : Circumstances) :
    Except Layout.Halt (Answer Unit) × List Definition × Client σ :=
  let order := client.config.order
  let (result, client) := client.perform peer (Operation.readSpan order unit definitions) circumstances
  match result with
  | .error error => (.error (.failed error), definitions, client)
  | .ok (.exception code) => (.ok (.exception code), definitions, client)
  | .ok (.value buffer) =>
    let (decoded, definitions) := Layout.decodeInPlace order definitions buffer
    (decoded.map .value, definitions, client)

end ModbusTcp
