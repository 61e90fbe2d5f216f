import ModbusTcp.BufferPool
import ModbusTcp.Bytes.Cursor
import ModbusTcp.Client.Desk
import ModbusTcp.Client.InPlace
import ModbusTcp.Client.Operation
import ModbusTcp.Packet.Items
import ModbusTcp.Packet.Words
import ModbusTcp.Workshop
import ModbusTcp.Server.Device
import ModbusTcp.Server.Hub
import ModbusTcp.Proofs.Packet.RoundTrip
import ModbusTcp.Proofs.Framing
import ModbusTcp.Proofs.Server.Stream
import ModbusTcp.Proofs.Server.Dialogue
import ModbusTcp.Proofs.Client.Exchange
import ModbusTcp.Proofs.Server.RegisterMap
import ModbusTcp.Proofs.Client.Registers
import ModbusTcp.Proofs.Bytes.Swap
import ModbusTcp.Proofs.Register.Value
import ModbusTcp.Proofs.Register.Layout
import ModbusTcp.Proofs.Client.Definitions
import ModbusTcp.Proofs.Packet.Format
import ModbusTcp.Proofs.Client.SingleFlight
import ModbusTcp.Proofs.Client.Transceive
import ModbusTcp.Proofs.Proxy.Dialogue
import ModbusTcp.Proofs.Server.History
import ModbusTcp.Proofs.Server.Replies
import ModbusTcp.Proofs.Proxy.Forwarding
import ModbusTcp.Proofs.Proxy.Transparency
import ModbusTcp.Proofs.Packet.Sameness
import ModbusTcp.Proofs.Client.TypedReads
import ModbusTcp.Proofs.Client.Errands
import ModbusTcp.Proofs.Client.Lifecycle
import ModbusTcp.Server.Station
import ModbusTcp.Proofs.Server.Lifecycle
import ModbusTcp.Proofs.Packet.Places
import ModbusTcp.Proofs.Server.Commands
import ModbusTcp.Proofs.Client.Responses
import ModbusTcp.Proofs.Client.Acceptance
import ModbusTcp.Proofs.Client.InPlace
import ModbusTcp.Proofs.Register.Apart
import ModbusTcp.Proofs.Register.Image
import ModbusTcp.Proofs.Register.Reordering
import ModbusTcp.Proofs.Register.RoundTrip
import ModbusTcp.Proofs.Register.Restored
import ModbusTcp.Proofs.Packet.Items
import ModbusTcp.Proofs.Client.Written
import ModbusTcp.Proofs.Packet.Reuse
import ModbusTcp.Proofs.Proxy.Routing
import ModbusTcp.Proofs.Packet.Extension
import ModbusTcp.Proofs.Proxy.FilterText
import ModbusTcp.Proofs.Bytes.Stream
import ModbusTcp.Proofs.Workshop.Numbering
import ModbusTcp.Proofs.Packet.Levels
import ModbusTcp.Proofs.Server.Moves
