import TunnelDial.Tunnel.Channel

/-! What sends the chunks of a tunnel on. It takes one chunk at a time in hand and sends as much of
it as flow control allows; after the last chunk it ends the stream. -/
namespace TunnelDial

/-- The rest of the chunk in hand, and whether more will be sent. -/
structure Pump where
  hand : Bytes
  running : Bool
deriving DecidableEq, Repr

namespace Pump

def start : Pump := ⟨[], true⟩

/-- The next chunk is taken in hand. After the last one the pump is done, and receives no more. -/
def receive (p : Pump) (c : Channel) : Receipt × Pump × Channel :=
  match c.receive with
  | (.chunk bs, c) => (.chunk bs, { p with hand := bs }, c)
  | (.ended, c) => (.ended, ⟨[], false⟩, c.abandon)
  | (.nothing, c) => (.nothing, p, c)

/-- Flow control lets `n` bytes go: those are sent of what is in hand. -/
def grant (n : Nat) (p : Pump) : Bytes × Pump :=
  (p.hand.take n, { p with hand := p.hand.drop n })

/-- The stream was reset, or its connection is gone: the rest is lost. -/
def halt (c : Channel) : Pump × Channel := (⟨[], false⟩, c.abandon)

end Pump

end TunnelDial
