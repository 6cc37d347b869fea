import TunnelDial.Stream.Basic

/-! A tunnel over a connection of its own: the bytes that came with the proxy's answer are read
first, then the connection itself. -/
namespace TunnelDial

/-- The bytes still to be replayed, and the connection. -/
structure PlainTunnel (σ : Type) where
  replay : Bytes
  inner : σ
deriving Repr

namespace PlainTunnel

variable {σ : Type} [ByteStream σ]

/-- Reads from the replay, and from the connection only when nothing is left to replay. -/
def read (now room : Nat) (t : PlainTunnel σ) : Poll Bytes × PlainTunnel σ :=
  if t.replay.isEmpty then
    let r := ByteStream.read now room t.inner
    (r.1, { t with inner := r.2 })
  else (.ready (t.replay.take room), { t with replay := t.replay.drop room })

def write (now : Nat) (bs : Bytes) (t : PlainTunnel σ) : Poll Nat × PlainTunnel σ :=
  let r := ByteStream.write now bs t.inner
  (r.1, { t with inner := r.2 })

def flush (now : Nat) (t : PlainTunnel σ) : Poll Unit × PlainTunnel σ :=
  let r := ByteStream.flush now t.inner
  (r.1, { t with inner := r.2 })

def shutdown (now : Nat) (t : PlainTunnel σ) : Poll Unit × PlainTunnel σ :=
  let r := ByteStream.shutdown now t.inner
  (r.1, { t with inner := r.2 })

instance : ByteStream (PlainTunnel σ) where
  read := read
  write := write
  flush := flush
  shutdown := shutdown
  wake? t := ByteStream.wake? t.inner

end PlainTunnel

end TunnelDial
