import TunnelDial.Text.Quoted

/-! Leases on transports.  Every lease belongs to a group, which one fresh lease starts and clones
enlarge; the transport of a group is closed once, when its last lease is given back or when its
only holder asks for it. -/
namespace TunnelDial

/-- The leases that descend from one fresh lease. -/
structure LeaseGroup where
  transport : Nat
  holders : Nat
  closed : Bool
deriving DecidableEq, Repr, Inhabited

/-- All groups ever started, by number, and those whose transport was closed, the last first. -/
structure Ledger where
  groups : List LeaseGroup
  closings : List Nat
deriving DecidableEq, Repr, Inhabited

namespace Ledger

def empty : Ledger := ⟨[], []⟩

def group (l : Ledger) (g : Nat) : LeaseGroup := l.groups.getD g ⟨0, 0, true⟩

def holders (l : Ledger) (g : Nat) : Nat := (l.group g).holders

def isClosed (l : Ledger) (g : Nat) : Bool := (l.group g).closed

def transport (l : Ledger) (g : Nat) : Nat := (l.group g).transport

def isSole (l : Ledger) (g : Nat) : Bool := l.holders g == 1

def closesOf (l : Ledger) (t : Nat) : Nat := l.closings.countP fun g => l.transport g == t

def update (l : Ledger) (g : Nat) (f : LeaseGroup → LeaseGroup) : Ledger :=
  { l with groups := l.groups.modify g f }

/-- A fresh lease on a transport; it starts the group with the number returned. -/
def issue (l : Ledger) (transport : Nat) : Ledger × Nat :=
  ({ l with groups := l.groups ++ [⟨transport, 1, false⟩] }, l.groups.length)

def retain (l : Ledger) (g : Nat) : Ledger :=
  l.update g fun x => { x with holders := x.holders + 1 }

def close (l : Ledger) (g : Nat) : Ledger :=
  if l.isClosed g then l
  else
    { l.update g fun x => { x with closed := true } with closings := g :: l.closings }

/-- Gives one lease back; the last one closes the transport. -/
def release (l : Ledger) (g : Nat) : Ledger :=
  let l' := l.update g fun x => { x with holders := x.holders - 1 }
  if l'.holders g = 0 then l'.close g else l'

def diagnostic (l : Ledger) (g : Nat) : String :=
  Text.record "TransportLease" [("holders", toString (l.holders g)),
    ("closed", Text.truth (l.isClosed g))] false

end Ledger

structure Pool where
  ledger : Ledger
  slot : Option Nat
deriving DecidableEq, Repr, Inhabited

namespace Pool

def empty : Pool := ⟨.empty, none⟩

/-- The group can carry another stream: its transport is open and accepts one. -/
def usable (p : Pool) (accepts : Nat → Bool) (g : Nat) : Bool :=
  !p.ledger.isClosed g && accepts (p.ledger.transport g)

def lookup (p : Pool) (accepts : Nat → Bool) : Pool × Option Nat :=
  match p.slot with
  | some g => if p.usable accepts g then ({ p with ledger := p.ledger.retain g }, some g)
              else (p, none)
  | none => (p, none)

def release (p : Pool) (g : Nat) : Pool := { p with ledger := p.ledger.release g }

def retain (p : Pool) (g : Nat) : Pool := { p with ledger := p.ledger.retain g }

/-- Empties the slot; the lease that was in it is not given back by that. -/
def vacate (p : Pool) : Pool := { p with slot := none }

/-- Puts a lease into the slot; the one before it is not given back by that. -/
def fill (p : Pool) (g : Nat) : Pool := { p with slot := some g }

def clear (p : Pool) : Pool :=
  match p.slot with
  | some g => p.vacate.release g
  | none => p

def install (p : Pool) (g : Nat) : Pool :=
  match p.slot with
  | some old => (p.fill g).release old
  | none => p.fill g

/-- Empties the slot if it holds a lease of that group; tells whether it did. -/
def evictIf (p : Pool) (g : Nat) : Pool × Bool :=
  if p.slot = some g then (p.clear, true) else (p, false)

structure LeaseView where
  holders : Nat
  sole : Bool
  closed : Bool
  accepting : Bool
  diagnostic : String
deriving DecidableEq, Repr

def view (p : Pool) (accepts : Nat → Bool) (g : Nat) : LeaseView :=
  ⟨p.ledger.holders g, p.ledger.isSole g, p.ledger.isClosed g, p.usable accepts g,
    p.ledger.diagnostic g⟩

def diagnostic (p : Pool) : String :=
  Text.record "ReuseCache" [("cached", Text.truth p.slot.isSome)] false

def issue (p : Pool) (transport : Nat) : Pool × Nat :=
  let r := p.ledger.issue transport
  ({ p with ledger := r.1 }, r.2)

end Pool

end TunnelDial
