import TunnelDial.Text.Bytes

/-! The bounded channel between the writing side of a tunnel and whoever sends its bytes on. It
holds at most eight chunks; one write hands over at most 16384 bytes. -/
namespace TunnelDial

/-- The chunks under way, whether the writing side is open and whether anyone receives. -/
structure Channel where
  chunks : List Bytes
  sending : Bool
  receiving : Bool
deriving DecidableEq, Repr

inductive Offer
  | taken (n : Nat)
  | full
  | broken
deriving DecidableEq, Repr

inductive Receipt
  | chunk (bs : Bytes)
  | ended
  | nothing
deriving DecidableEq, Repr

namespace Channel

def capacity : Nat := 8

def chunkLimit : Nat := 16384

def fresh : Channel := ⟨[], true, true⟩

/-- One write. An empty one does nothing; a full channel makes it wait. -/
def offer (bs : Bytes) (c : Channel) : Offer × Channel :=
  if !c.sending then (.broken, c)
  else if bs.isEmpty then (.taken 0, c)
  else if !c.receiving then (.broken, c)
  else if capacity ≤ c.chunks.length then (.full, c)
  else
    let chunk := bs.take chunkLimit
    (.taken chunk.length, { c with chunks := c.chunks ++ [chunk] })

/-- The next chunk; the end once the writing side is closed and all chunks are taken. -/
def receive (c : Channel) : Receipt × Channel :=
  match c.chunks with
  | bs :: rest => (.chunk bs, { c with chunks := rest })
  | [] => (if c.sending then .nothing else .ended, c)

def close (c : Channel) : Channel := { c with sending := false }

/-- Nobody receives any more; chunks under way are lost. -/
def abandon (c : Channel) : Channel := { c with receiving := false, chunks := [] }

end Channel

end TunnelDial
