/-! The gate that lets one dial at a time negotiate with the proxy; others wait in the order in
which they came, and the gate passes straight to the first of them. -/
namespace TunnelDial

structure Gate where
  holder : Option Nat
  queue : List Nat
deriving DecidableEq, Repr

namespace Gate

def free : Gate := ⟨none, []⟩

/-- Takes the free gate, or waits behind all others. -/
def enter (d : Nat) (g : Gate) : Gate :=
  match g.holder with
  | none => { g with holder := some d }
  | some _ => { g with queue := g.queue ++ [d] }

/-- The holder goes and the first waiting dial, if any, holds the gate. -/
def pass (g : Gate) : Gate := ⟨g.queue.head?, g.queue.tail⟩

def leave (d : Nat) (g : Gate) : Gate :=
  if g.holder = some d then g.pass else { g with queue := g.queue.filter (· ≠ d) }

@[simp] theorem enter_free (d : Nat) : free.enter d = ⟨some d, []⟩ := rfl

end Gate

end TunnelDial
