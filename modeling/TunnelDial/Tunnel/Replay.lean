import TunnelDial.Tunnel.Plain

/-! A tunnel over a connection of its own, with the bytes to replay as they are kept: all in one
buffer, and the position up to which they were given out. -/
namespace TunnelDial

/-- The buffer, the position in it and the connection. -/
structure ReplayTunnel (σ : Type) where
  buffer : Bytes
  pos : Nat
  inner : σ
deriving Repr

namespace ReplayTunnel

def start {σ : Type} (buffer : Bytes) (inner : σ) : ReplayTunnel σ := ⟨buffer, 0, inner⟩

def buffered {σ : Type} (t : ReplayTunnel σ) : Bytes := t.buffer.drop t.pos

/-- The same tunnel with only the bytes still to be replayed. -/
def plain {σ : Type} (t : ReplayTunnel σ) : PlainTunnel σ := ⟨t.buffered, t.inner⟩

variable {σ : Type} [ByteStream σ]

/-- Reads from the buffer, which is given up when it is used up, and then from the connection. -/
def read (now room : Nat) (t : ReplayTunnel σ) : Poll Bytes × ReplayTunnel σ :=
  if t.pos < t.buffer.length then
    let remaining := t.buffer.drop t.pos
    let size := min remaining.length room
    let pos := t.pos + size
    (.ready (remaining.take size),
      if pos = t.buffer.length then { t with buffer := [], pos := 0 } else { t with pos := pos })
  else
    let r := ByteStream.read now room t.inner
    (r.1, { t with inner := r.2 })

def write (now : Nat) (bs : Bytes) (t : ReplayTunnel σ) : Poll Nat × ReplayTunnel σ :=
  let r := ByteStream.write now bs t.inner
  (r.1, { t with inner := r.2 })

def flush (now : Nat) (t : ReplayTunnel σ) : Poll Unit × ReplayTunnel σ :=
  let r := ByteStream.flush now t.inner
  (r.1, { t with inner := r.2 })

def shutdown (now : Nat) (t : ReplayTunnel σ) : Poll Unit × ReplayTunnel σ :=
  let r := ByteStream.shutdown now t.inner
  (r.1, { t with inner := r.2 })

instance : ByteStream (ReplayTunnel σ) where
  read := read
  write := write
  flush := flush
  shutdown := shutdown
  wake? t := ByteStream.wake? t.inner

end ReplayTunnel

end TunnelDial
