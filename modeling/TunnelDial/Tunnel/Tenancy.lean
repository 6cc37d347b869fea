import TunnelDial.Tunnel.Mux

/-! Leases in the hands of callers. Callers start groups of leases on transports, clone leases and
give them back, put them into the slot and look for them there, and build tunnels from them. A run
is the list of what they do, in any order; what a transport says of further streams may differ at
every lookup. -/
namespace TunnelDial

/-- The ledger with the slot, the groups of the leases that callers hold, and the tunnels that they
built from leases. -/
structure Tenancy where
  pool : Pool
  leases : List Nat
  tunnels : List HeldTunnel
deriving Repr

/-- One thing that a caller does, with a lease of the group or with a tunnel. A lease that goes into
the slot or into a tunnel is not the caller's any more. A tunnel that is dropped closes by that. -/
inductive TenancyEvent
  | issue (transport : Nat)
  | clone (g : Nat)
  | giveBack (g : Nat)
  | install (g : Nat)
  | lookup (accepts : Nat → Bool)
  | evict (g : Nat)
  | clear
  | wrap (g : Nat)
  | close (t : Nat)
  | closeTransport (t : Nat)

namespace Tenancy

def start : Tenancy := ⟨.empty, [], []⟩

def ledger (c : Tenancy) : Ledger := c.pool.ledger

/-- A caller has a lease of the group in sight, of its own or in a tunnel. -/
def reaches (c : Tenancy) (g : Nat) : Bool :=
  c.leases.contains g || c.tunnels.any fun x => x.mux.lease == some g

def put (c : Tenancy) (t : Nat) (m : MuxTunnel) (ch : Channel) (p : Pool) : Tenancy :=
  { c with pool := p, tunnels := c.tunnels.set t ⟨m, ch⟩ }

/-- One event. What is done with a lease or a tunnel that nobody has changes nothing. -/
def step (c : Tenancy) : TenancyEvent → Tenancy
  | .issue transport =>
    let r := c.pool.issue transport
    { c with pool := r.1, leases := r.2 :: c.leases }
  | .clone g =>
    if c.reaches g then { c with pool := c.pool.retain g, leases := g :: c.leases } else c
  | .giveBack g =>
    if c.leases.contains g then
      { c with pool := c.pool.release g, leases := c.leases.erase g }
    else c
  | .install g =>
    if c.leases.contains g then
      { c with pool := c.pool.install g, leases := c.leases.erase g }
    else c
  | .lookup accepts =>
    let r := c.pool.lookup accepts
    { c with pool := r.1, leases := r.2.toList ++ c.leases }
  | .evict g => if c.reaches g then { c with pool := (c.pool.evictIf g).1 } else c
  | .clear => { c with pool := c.pool.clear }
  | .wrap g =>
    if c.leases.contains g then
      { c with
        leases := c.leases.erase g
        tunnels := c.tunnels ++ [⟨.ofLease g, .fresh⟩] }
    else c
  | .close t =>
    match c.tunnels[t]? with
    | some x =>
      let r := x.mux.close x.channel c.pool
      c.put t r.1 r.2.1 r.2.2
    | none => c
  | .closeTransport t =>
    match c.tunnels[t]? with
    | some x =>
      let r := x.mux.closeTransport x.channel c.pool
      c.put t r.2.1 r.2.2.1 r.2.2.2
    | none => c

def after (c : Tenancy) (es : List TenancyEvent) : Tenancy := es.foldl step c

def run (es : List TenancyEvent) : Tenancy := start.after es

end Tenancy

end TunnelDial
