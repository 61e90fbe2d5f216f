import ModbusTcp.Client.Link
import ModbusTcp.Framing

/-!
# Served connections

A served connection collects what arrives, takes one frame after the other out of it and handles each:
the frame is answered or not, and the connection goes on or ends.  Once it has ended, nothing that
arrives matters any more.

* `Handler`, `Turn` — what is done with a frame.
* `Framer.serve` — handles the frames in a buffer.
* `Connection.receive`, `Connection.finish` — some bytes arrive; the peer has ended its side.
* `Connection.peer` — the connection as the peer of whoever writes to it.
-/

namespace ModbusTcp

/-- How a connection ends: normally, or with an error. -/
abbrev Ending := Except IoError Unit

/-- What is done with one frame: the state changes, there may be a reply, and the connection may end. -/
structure Turn (σ : Type) where
  state : σ
  reply : Option Frame := none
  ending : Option Ending := none

/-- The turn with its state passed on to a function. -/
def Turn.map {σ τ : Type} (f : σ → τ) (turn : Turn σ) : Turn τ :=
  { state := f turn.state, reply := turn.reply, ending := turn.ending }

/-- Handles a frame. -/
abbrev Handler (σ : Type) := σ → Inbound → Turn σ

/-- A connection that is being served: how it cuts the stream, what has arrived and is no whole frame
yet, and how it has ended, if it has. -/
structure Connection (σ : Type) where
  framer : Framer
  state : σ
  buffer : Bytes := []
  ending : Option Ending := none

/-- The frames of a buffer have been handled: the connection afterwards, and the replies. -/
structure Served (σ : Type) where
  state : σ
  buffer : Bytes
  replies : List Frame := []
  ending : Option Ending := none

/-- The same with a reply in front. -/
def Served.after {σ : Type} (served : Served σ) (reply : Option Frame) : Served σ :=
  { served with replies := reply.toList ++ served.replies }

/-- Handles the whole frames in a buffer, one after the other. -/
def Framer.serve {σ : Type} (framer : Framer) (handle : Handler σ) (state : σ) (buffer : Bytes) :
    Served σ :=
  match _decoded : framer.decode buffer with
  | .error error => { state, buffer, ending := some (.error error.toIoError) }
  | .ok none => { state, buffer }
  | .ok (some (frame, rest)) =>
    let turn := handle state frame
    match turn.ending with
    | some ending => { state := turn.state, buffer := rest, replies := turn.reply.toList, ending := some ending }
    | none => (framer.serve handle turn.state rest).after turn.reply
termination_by buffer.length
decreasing_by exact Framer.decode_shortens _decoded

namespace Connection

variable {σ : Type}

/-- Some bytes arrive. -/
def receive (handle : Handler σ) (connection : Connection σ) (chunk : Bytes) :
    Connection σ × List Frame :=
  match connection.ending with
  | some _ => (connection, [])
  | none =>
    let served := connection.framer.serve handle connection.state (connection.buffer ++ chunk)
    ({ connection with state := served.state, buffer := served.buffer, ending := served.ending },
      served.replies)

/-- The peer has ended its side.  What is left of the stream should not be the beginning of a frame. -/
def finish (connection : Connection σ) : Connection σ :=
  match connection.ending with
  | some _ => connection
  | none =>
    match connection.framer.decodeLast connection.buffer with
    | .ok _ => { connection with ending := some (.ok ()) }
    | .error error => { connection with ending := some (.error error.toIoError) }

/-- What becomes of a connection whose peer has written a stream and ended its side.  If the server
stops before anything is read, nothing is served. -/
def execute (handle : Handler σ) (connection : Connection σ) (stopped : Bool) (stream : Bytes) :
    Connection σ × List Frame :=
  if stopped then ({ connection with ending := some (.ok ()) }, [])
  else
    let (connection, replies) := connection.receive handle stream
    (connection.finish, replies)

/-- The bytes of replies. -/
def encodeReplies (framer : Framer) (replies : List Frame) : Bytes :=
  replies.flatMap fun reply => reply.encode framer.order

/-- The connection as the peer of whoever writes to it. -/
def peer (handle : Handler σ) : Peer (Connection σ) where
  react connection bytes :=
    let (connection, replies) := connection.receive handle bytes
    { state := connection
      answer := encodeReplies connection.framer replies
      ends := connection.ending.isSome }

end Connection

end ModbusTcp
