import TunnelDial.Dial.Custody
import TunnelDial.Dial.Socket

/-! Dials under the clock. Each dial has a token, which is cancelled at some instant or never. Time
passes while every dial waits, and then only up to the next deadline, or to an instant at which a
cancellation would change a dial. What such a cancellation does, and whether anything, the steps of
the dials say. -/
namespace TunnelDial

/-- At an instant a token is seen cancelled or not; as it is cancelled, either may be seen. -/
def Seen (token : Option Nat) (now : Nat) (cancelled : Bool) : Prop :=
  (cancelled = true → ∃ t ∈ token, t ≤ now) ∧ (cancelled = false → ∀ t ∈ token, now ≤ t)

instance (token : Option Nat) (now : Nat) (cancelled : Bool) :
    Decidable (Seen token now cancelled) :=
  inferInstanceAs (Decidable ((_ → ∃ t ∈ _, _) ∧ (_ → ∀ t ∈ _, _)))

namespace CustodyEvent

def time? : CustodyEvent → Option Nat
  | dial now _ _ => some now
  | _ => none

/-- What a dial that comes by the event sees of its token. -/
def arrives? : CustodyEvent → Option Bool
  | dial _ _ (.arrive cancelled _) => some cancelled
  | _ => none

def cancels? : CustodyEvent → Option Nat
  | dial _ _ (.cancelled d) => some d
  | _ => none

def abandons (d : Nat) : CustodyEvent → Bool
  | dial _ _ (.abandoned i) => i == d
  | _ => false

/-- The event says what became of the transport that the dial has built. -/
def answersBuild (d : Nat) : CustodyEvent → Bool
  | dial _ _ (.connected i _) => i == d
  | _ => false

/-- By the event the caller of the dial cancels it, or gives it up. -/
def callsOff (d : Nat) : CustodyEvent → Bool
  | dial _ _ (.cancelled i) => i == d
  | dial _ _ (.abandoned i) => i == d
  | _ => false

end CustodyEvent

namespace Hub

/-- Time may pass from one instant to another: every dial has ended or waits, none was passed the
gate, and no request has its deadline in between. -/
def Passes (h : Hub) (now later : Nat) : Prop :=
  now ≤ later ∧ (now < later → ∀ d < h.dials.length, ∀ x ∈ h.dials[d]?, x.phase.turns = 0 ∧
    ¬(x.phase = .queued ∧ h.gate.holder = some d) ∧ ∀ t ∈ x.phase.deadline?, later ≤ t)

instance (h : Hub) (now later : Nat) : Decidable (h.Passes now later) :=
  inferInstanceAs (Decidable (_ ∧ (_ → ∀ d < _, ∀ x ∈ _, _)))

/-- From one instant to another no token is cancelled, unless that would leave its dial where it is.
Which transports take another stream makes no difference to a cancellation. -/
def Heeds (token : Nat → Option Nat) (h : Hub) (now later : Nat) : Prop :=
  now < later → ∀ d < h.dials.length, ∀ t ∈ token d,
    (h.step t (fun _ => true) (.cancelled d)).phase? d ≠ h.phase? d → later ≤ t

instance (token : Nat → Option Nat) (h : Hub) (now later : Nat) :
    Decidable (h.Heeds token now later) :=
  inferInstanceAs (Decidable (_ → ∀ d < _, ∀ t ∈ _, _))

end Hub

namespace Custody

/-- Events at some instants, from one instant to a last one, while time passes only as it may. -/
def Timely (c : Custody) (now last : Nat) : List (Nat × CustodyEvent) → Prop
  | [] => c.hub.Passes now last
  | (t, e) :: es =>
    c.hub.Passes now t ∧ (∀ s ∈ e.time?, s = t) ∧ Timely (c.step e) t last es

instance decidableTimely (c : Custody) (now last : Nat) :
    (es : List (Nat × CustodyEvent)) → Decidable (c.Timely now last es)
  | [] => inferInstanceAs (Decidable (c.hub.Passes now last))
  | (t, e) :: es =>
    have := decidableTimely (c.step e) t last es
    inferInstanceAs (Decidable (_ ∧ _ ∧ _))

/-- A timely run in which every dial has a token: it looks at that as it comes, and is cancelled by
nothing else. -/
def Heeding (token : Nat → Option Nat) (c : Custody) (now last : Nat) :
    List (Nat × CustodyEvent) → Prop
  | [] => c.hub.Passes now last ∧ c.hub.Heeds token now last
  | (t, e) :: es =>
    (c.hub.Passes now t ∧ c.hub.Heeds token now t) ∧ (∀ s ∈ e.time?, s = t) ∧
      (∀ cancelled ∈ e.arrives?, Seen (token c.hub.dials.length) t cancelled) ∧
      (∀ d ∈ e.cancels?, Seen (token d) t true) ∧ Heeding token (c.step e) t last es

instance decidableHeeding (token : Nat → Option Nat) (c : Custody) (now last : Nat) :
    (es : List (Nat × CustodyEvent)) → Decidable (c.Heeding token now last es)
  | [] => inferInstanceAs (Decidable (_ ∧ _))
  | (t, e) :: es =>
    have := decidableHeeding token (c.step e) t last es
    inferInstanceAs (Decidable (_ ∧ _ ∧ _ ∧ _ ∧ _))

end Custody

namespace SocketDial

/-- Time may pass from one instant to another: neither the end of the time of the dial nor a
cancellation of it falls in between, unless that would leave the dial as it is. -/
def Passes (x : SocketDial) (token : Option Nat) (now later : Nat) : Prop :=
  now ≤ later ∧ (now < later → (x.step x.deadline .expired ≠ x → later ≤ x.deadline) ∧
    ∀ t ∈ token, x.step t .cancelled ≠ x → later ≤ t)

def Heeding (x : SocketDial) (token : Option Nat) (now last : Nat) :
    List (Nat × SocketEvent) → Prop
  | [] => x.Passes token now last
  | (t, e) :: es =>
    x.Passes token now t ∧ (e = .cancelled → Seen token t true) ∧
      Heeding (x.step t e) token t last es

end SocketDial
end TunnelDial
