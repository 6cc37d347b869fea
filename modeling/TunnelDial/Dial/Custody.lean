import TunnelDial.Dial.Hub
import TunnelDial.Tunnel.Mux

/-! A dialer together with what its callers got from it: the streams of its dials as tunnels, and
leases cloned from theirs. A run is the list of its events, in any order. -/
namespace TunnelDial

/-- The dials, the tunnels in the order in which callers got them, and the groups of the leases that
callers cloned. -/
structure Custody where
  hub : Hub
  tunnels : List HeldTunnel
  leases : List Nat
deriving Repr

/-- One thing that happens to the dials or is done with what came of them. A tunnel that is dropped
closes by that. -/
inductive CustodyEvent
  | dial (now : Nat) (accepts : Nat → Bool) (e : DialEvent)
  | close (t : Nat)
  | closeTransport (t : Nat)
  | clone (g : Nat)
  | giveBack (g : Nat)

def CustodyEvent.dial? : CustodyEvent → Option Nat
  | dial _ _ e => e.dial?
  | _ => none

def Hub.handed (h : Hub) : DialEvent → Option HeldTunnel
  | .turn d =>
    match h.phase? d with
    | some (.leaving _ (.stream g)) => some ⟨.ofLease g, .fresh⟩
    | _ => none
  | _ => none

namespace Custody

def start (timeout : Nat) (reuse : Bool) : Custody := ⟨.start timeout reuse, [], []⟩

def ledger (c : Custody) : Ledger := c.hub.pool.ledger

def put (c : Custody) (t : Nat) (m : MuxTunnel) (ch : Channel) (p : Pool) : Custody :=
  { c with hub := { c.hub with pool := p }, tunnels := c.tunnels.set t ⟨m, ch⟩ }

/-- A caller has a lease of the group, of its own or in a tunnel. -/
def reaches (c : Custody) (g : Nat) : Bool :=
  c.leases.contains g || c.tunnels.any fun x => x.mux.lease == some g

/-- One event. What is done with something that nobody has changes nothing. -/
def step (c : Custody) : CustodyEvent → Custody
  | .dial now accepts e =>
    { c with hub := c.hub.step now accepts e, tunnels := c.tunnels ++ (c.hub.handed e).toList }
  | .close t =>
    match c.tunnels[t]? with
    | some x =>
      let r := x.mux.close x.channel c.hub.pool
      c.put t r.1 r.2.1 r.2.2
    | none => c
  | .closeTransport t =>
    match c.tunnels[t]? with
    | some x =>
      let r := x.mux.closeTransport x.channel c.hub.pool
      c.put t r.2.1 r.2.2.1 r.2.2.2
    | none => c
  | .clone g =>
    if c.reaches g then
      { c with hub := { c.hub with pool := c.hub.pool.retain g }, leases := g :: c.leases }
    else c
  | .giveBack g =>
    if c.leases.contains g then
      { c with hub := { c.hub with pool := c.hub.pool.release g }, leases := c.leases.erase g }
    else c

def after (c : Custody) (es : List CustodyEvent) : Custody := es.foldl step c

def run (timeout : Nat) (reuse : Bool) (es : List CustodyEvent) : Custody :=
  (start timeout reuse).after es

end Custody

end TunnelDial
