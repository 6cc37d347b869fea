import TunnelDial.Proofs.Dial.Negotiation

/-! Waiting at the gate. A dial waits there only if it came while HTTP/1.1 was not known, and then
another dial has the gate in hand: one that negotiates afresh, or one that asks for a stream on the
transport that it found in the slot with the gate in hand. So a slow answer on a kept transport
holds up every dial in line, though none of them is to negotiate; and as HTTP/1.1 is looked up only
before a dial lines up, so does the reply to an exchange. -/
namespace TunnelDial

namespace Phase

/-- The dial is on its way to the gate, or waits for it. -/
def attends : Phase → Bool
  | entering => true
  | queued => true
  | dropping _ p => p.attends
  | _ => false

/-- The dial makes an exchange on a connection of its own. -/
def isExchanging : Phase → Bool
  | exchanging .. => true
  | dropping _ p => p.isExchanging
  | _ => false

@[simp] theorem attends_unwind (p : Phase) (o : Outcome) : (p.unwind o).attends = false := by
  cases p <;> rfl

@[simp] theorem isExchanging_unwind (p : Phase) (o : Outcome) :
    (p.unwind o).isExchanging = false := by cases p <;> rfl

end Phase

namespace Hub

variable {now : Nat} {accepts : Nat → Bool} {h s : Hub} {d : Nat} {x x' : Dial} {e : DialEvent}

/-- The dial waits at the gate, which is not in its hand. -/
def Blocked (h : Hub) (d : Nat) : Prop :=
  h.phase? d = some .queued ∧ h.gate.holder ≠ some d

instance (h : Hub) (d : Nat) : Decidable (h.Blocked d) := inferInstanceAs (Decidable (_ ∧ _))

/-- A dial sets out for the gate where dials share a transport and HTTP/1.1 is not known. -/
theorem Move.attends (hm : Move now accepts h d x e x' s) (ha : x'.phase.attends = true) :
    x.phase.attends = true ∨
      e = .turn d ∧ x.phase = .passing false ∧ h.reuse = true ∧ h.known ≠ some .http1 := by
  cases hm with
  | approached hp hr hk => exact .inr ⟨rfl, hp, hr, hk⟩
  | linedUp hp => exact .inl (by rw [hp]; rfl)
  | gaveBack hp => exact .inl (by rw [hp]; exact ha)
  | lost => simp at ha
  | _ => simp [Phase.attends] at ha

theorem Move.isExchanging (hm : Move now accepts h d x e x' s)
    (hx : x'.phase.isExchanging = true) :
    x'.exchanges = true ∨ x.phase.isExchanging = true ∧ x'.exchanges = x.exchanges := by
  cases hm with
  | reachedHttp1 hp hc => exact .inl (by simp [Dial.exchanges, hc])
  | gaveBack hp => exact .inr ⟨by rw [hp]; exact hx, rfl⟩
  | lost => simp at hx
  | _ => simp [Phase.isExchanging] at hx

end Hub

namespace Custody

variable {c : Custody} {e : CustodyEvent} {timeout : Nat} {reuse : Bool} {es : List CustodyEvent}

/-- Three dials come; the first one negotiates with the gate in hand, the others wait in line. -/
def linedRun : List CustodyEvent :=
  let on (e : DialEvent) : CustodyEvent := .dial 0 (fun _ => true) e
  List.replicate 3 (on (.arrive false ⟨"example.org:443", .empty⟩)) ++
    List.replicate 5 (on (.turn 0)) ++ List.replicate 3 (on (.turn 1)) ++
    List.replicate 3 (on (.turn 2))

end Custody
end TunnelDial
