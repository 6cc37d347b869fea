import TunnelDial.Failure

/-! Scripted calls: such a call takes its time, and then fails, succeeds, or never ends. -/
namespace TunnelDial.Rehearsal

/-- What a call does: it waits, may never end, may fail, and else has a result. -/
structure Plan (α : Type) where
  delay : Nat
  hangs : Bool
  failure : Option Failure
  result : α
deriving Repr

namespace Plan

variable {α : Type}

def instant (a : α) : Plan α := ⟨0, false, none, a⟩

/-- What has become of a call that began at `since`; nothing while it is under way. -/
def outcome? (now since : Nat) (p : Plan α) : Option (Except Failure α) :=
  if now < since + p.delay ∨ p.hangs then none
  else
    match p.failure with
    | some f => some (.error f)
    | none => some (.ok p.result)

def wake (since : Nat) (p : Plan α) : Nat := since + p.delay

@[simp] theorem outcome?_instant (now : Nat) (a : α) :
    (instant a).outcome? now now = some (.ok a) := by simp [outcome?, instant]

end Plan

end TunnelDial.Rehearsal
