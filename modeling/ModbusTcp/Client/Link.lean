import ModbusTcp.Bytes

/-!
# Links and peers

A link is an open connection as one of its ends sees it: what it has written, and what has arrived and
is not yet read.  The other end is a peer, which reacts to the bytes that reach it.

* `Peer` — how the other end behaves; `Peer.silent` never says anything that it has not said already.
* `Link.write` — writing to a link lets the peer react.
-/

namespace ModbusTcp

/-- What a peer does when bytes have reached it: it goes on to another state, writes an answer, and
perhaps ends its side of the connection. -/
structure Reaction (σ : Type) where
  state : σ
  answer : Bytes := []
  ends : Bool := false

/-- How the other end of a connection behaves. -/
structure Peer (σ : Type) where
  react : σ → Bytes → Reaction σ

/-- A peer that reacts to nothing. -/
def Peer.silent (σ : Type) : Peer σ := ⟨fun state _ => { state }⟩

/-- An open connection: the state of the peer, what has been written to it, what has arrived from it
and is not yet read, and whether it has ended its side. -/
structure Link (σ : Type) where
  peer : σ
  written : Bytes := []
  unread : Bytes := []
  ended : Bool := false

/-- The link after bytes have been written and the peer has reacted. -/
def Link.write {σ : Type} (peer : Peer σ) (link : Link σ) (bytes : Bytes) : Link σ :=
  let reaction := peer.react link.peer bytes
  { peer := reaction.state
    written := link.written ++ bytes
    unread := link.unread ++ reaction.answer
    ended := link.ended || reaction.ends }

/-- The link after some of what has arrived has been read. -/
def Link.skip {σ : Type} (link : Link σ) (count : Nat) : Link σ :=
  { link with unread := link.unread.drop count }

end ModbusTcp
