import TunnelDial.Tunnel.Mux

/-! Leases held under names, beside the slot for the lease kept for reuse, on transports that do
nothing but count how often they are closed. -/
namespace TunnelDial.Rehearsal

/-- The pool, whether each transport takes streams, the transports closed past the leases, and the
leases held by name. -/
structure LeaseBench where
  pool : Pool
  accepts : List Bool
  direct : List Nat
  held : List (String × Nat)
deriving Repr

inductive LeaseStep
  | issue (name : String) (transport : Nat)
  | clone (name other : String)
  | drop (name : String)
  | install (name : String)
  | lookup (name : String)
  | lookupDrop
  | evict (name : String)
  | clear
  | setAccepts (transport : Nat) (accepts : Bool)
  | same (name other : String)
  | closeDirect (name : String)
  | force (name : String)
deriving Repr

inductive LeaseReply
  | done
  | truth (b : Bool)
  | noLease
  | noTransport
  | forced (r : Except IoFault Unit) (writeClosed readClosed : Bool)

namespace LeaseBench

def start (accepts : List Bool) : LeaseBench := ⟨.empty, accepts, [], []⟩

def takes (b : LeaseBench) (t : Nat) : Bool := b.accepts.getD t false

def lease? (b : LeaseBench) (name : String) : Option Nat :=
  (b.held.find? (·.1 = name)).map (·.2)

/-- The name holds no lease any more; the lease itself is still held. -/
def forget (b : LeaseBench) (name : String) : LeaseBench :=
  { b with held := b.held.filter (·.1 != name) }

def drop (b : LeaseBench) (name : String) : LeaseBench :=
  match b.lease? name with
  | some g => { b.forget name with pool := b.pool.release g }
  | none => b

/-- Holds a lease under a name; the one before it is given back. -/
def keep (b : LeaseBench) (name : String) (g : Nat) : LeaseBench :=
  let b := b.drop name
  { b with held := b.held ++ [(name, g)] }

def closes (b : LeaseBench) : List Nat :=
  (List.range b.accepts.length).map fun t => b.pool.ledger.closesOf t + b.direct.count t

def withLease (b : LeaseBench) (name : String) (f : Nat → LeaseReply × LeaseBench) :
    LeaseReply × LeaseBench :=
  match b.lease? name with
  | some g => f g
  | none => (.noLease, b)

/-- A tunnel takes the lease, closes its transport if it may, and goes. -/
def force (b : LeaseBench) (name : String) (g : Nat) : LeaseReply × LeaseBench :=
  let r := (MuxTunnel.ofLease g).closeTransport .fresh b.pool
  let rest := r.2.1.close r.2.2.1 r.2.2.2
  (.forced r.1 r.2.1.writeClosed r.2.1.readClosed, { b.forget name with pool := rest.2.2 })

def step (b : LeaseBench) : LeaseStep → LeaseReply × LeaseBench
  | .issue name transport =>
    if transport < b.accepts.length then
      let r := b.pool.issue transport
      (.done, { b with pool := r.1 }.keep name r.2)
    else (.noTransport, b)
  | .clone name other =>
    b.withLease name fun g => (.done, { b with pool := b.pool.retain g }.keep other g)
  | .drop name => (.truth (b.lease? name).isSome, b.drop name)
  | .install name =>
    b.withLease name fun g => (.done, { b.forget name with pool := b.pool.install g })
  | .lookup name =>
    match b.pool.lookup b.takes with
    | (pool, some g) => (.truth true, { b with pool := pool }.keep name g)
    | (_, none) => (.truth false, b)
  | .lookupDrop =>
    match b.pool.lookup b.takes with
    | (pool, some g) => (.truth true, { b with pool := pool.release g })
    | (_, none) => (.truth false, b)
  | .evict name =>
    b.withLease name fun g =>
      let r := b.pool.evictIf g
      (.truth r.2, { b with pool := r.1 })
  | .clear => (.done, { b with pool := b.pool.clear })
  | .setAccepts transport accepts =>
    if transport < b.accepts.length then
      (.done, { b with accepts := b.accepts.set transport accepts })
    else (.noTransport, b)
  | .same name other =>
    b.withLease name fun g => b.withLease other fun h => (.truth (g == h), b)
  | .closeDirect name =>
    b.withLease name fun g => (.done, { b with direct := b.pool.ledger.transport g :: b.direct })
  | .force name => b.withLease name fun g => b.force name g

def finish (b : LeaseBench) : LeaseBench :=
  let b := b.held.foldl (fun b x => b.drop x.1) b
  { b with pool := b.pool.clear }

end LeaseBench

end TunnelDial.Rehearsal
