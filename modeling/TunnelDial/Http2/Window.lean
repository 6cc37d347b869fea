/-! The receiving side of flow control: how much the other side may still send, and when it is told
that it may send more. -/
namespace TunnelDial.Http2

/-- What the other side may still send, and what it may send once all that was released is
announced. -/
structure Window where
  room : Nat
  available : Nat
deriving DecidableEq, Repr

namespace Window

def standard : Nat := 65535

def ofSize (n : Nat) : Window := ⟨n, n⟩

def take (n : Nat) (w : Window) : Window := ⟨w.room - n, w.available - n⟩

def release (n : Nat) (w : Window) : Window := ⟨w.room, w.available + n⟩

/-- How much more the other side may send, if it is to be told: when that is at least half of what
it may still send without being told. -/
def due? (w : Window) : Option Nat :=
  let more := w.available - w.room
  if more = 0 ∨ more < w.room / 2 then none else some more

def announce (w : Window) : Window := ⟨w.available, w.available⟩

@[simp] theorem due?_announce (w : Window) : w.announce.due? = none := by simp [announce, due?]

end Window

end TunnelDial.Http2
