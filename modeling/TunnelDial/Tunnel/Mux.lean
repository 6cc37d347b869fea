import TunnelDial.Failure
import TunnelDial.Lease.Ledger
import TunnelDial.Tunnel.Channel

/-! One stream of a shared transport as a tunnel. Its two halves close on their own; it holds a
lease on the transport until the whole tunnel is closed. -/
namespace TunnelDial

/-- The lease, if it is still held, and which halves are closed. -/
structure MuxTunnel where
  lease : Option Nat
  writeClosed : Bool
  readClosed : Bool
deriving DecidableEq, Repr

namespace MuxTunnel

def closedWrite : IoFault := ⟨.brokenPipe, "tunnel write half is closed"⟩

def sharedTransport : IoFault := ⟨.other, "transport is shared with other streams"⟩

def alreadyClosed : IoFault := ⟨.notConnected, "tunnel stream already closed"⟩

def ofLease (g : Nat) : MuxTunnel := ⟨some g, false, false⟩

def closeWrite (t : MuxTunnel) (c : Channel) : MuxTunnel × Channel :=
  if t.writeClosed then (t, c) else ({ t with writeClosed := true }, c.close)

def closeRead (t : MuxTunnel) : MuxTunnel := { t with readClosed := true }

def close (t : MuxTunnel) (c : Channel) (p : Pool) : MuxTunnel × Channel × Pool :=
  let w := t.closeWrite c
  match t.lease with
  | some g => (⟨none, true, true⟩, w.2, p.release g)
  | none => (⟨none, true, true⟩, w.2, p)

/-- Closes the transport itself, which only its sole holder may do. -/
def closeTransport (t : MuxTunnel) (c : Channel) (p : Pool) :
    Except IoFault Unit × MuxTunnel × Channel × Pool :=
  match t.lease with
  | none => (.error alreadyClosed, t, c, p)
  | some g =>
    if p.ledger.isSole g then
      (.ok (), t.close c { p with ledger := p.ledger.close g })
    else (.error sharedTransport, t, c, p)

def write (t : MuxTunnel) (bs : Bytes) (c : Channel) : Offer × Channel :=
  if t.writeClosed then (.broken, c) else c.offer bs

end MuxTunnel

/-- A tunnel of a caller, with the channel of its request body. -/
structure HeldTunnel where
  mux : MuxTunnel
  channel : Channel
deriving DecidableEq, Repr

end TunnelDial
