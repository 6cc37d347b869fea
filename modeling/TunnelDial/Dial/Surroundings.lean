import TunnelDial.Dial.Socket

/-! Direct dials in their surroundings: the resolver and the addresses, with what they answer and
how long that takes. The time of a dial is for all of its answers together. -/
namespace TunnelDial

def DirectOptions.candidates (o : DirectOptions) (n : Network) (a : Address) (ips : List Ip) :
    List Socket :=
  (ips.filter fun ip => n.allows ip && o.fits ip).map fun ip => ⟨ip, a.port⟩

/-- What a direct dial finds outside: what the resolver answers for its host and what becomes of
each attempt in turn, and how long these take. An answer may also never come. -/
structure Surroundings where
  lookup : Option (Nat × Except String (List Ip))
  attempts : Nat → Option (Nat × Except (SocketAct × String) Unit)

namespace Surroundings

def answer? (s : Surroundings) (x : SocketDial) : Option (Nat × SocketEvent) :=
  match x.phase with
  | .resolving => s.lookup.map fun r => (r.1, .resolved r.2)
  | .trying .. => (s.attempts (x.tried.length - 1)).map fun r => (r.1, .met r.2)
  | _ => none

/-- A dial from an instant on: it gets one answer after the other, up to some number of them, until
its time is over. -/
def course (s : Surroundings) : Nat → Nat → SocketDial → SocketDial
  | 0, _, x => x
  | k + 1, now, x =>
    match s.answer? x with
    | some (delay, e) =>
      if now + delay ≤ x.deadline then s.course k (now + delay) (x.step (now + delay) e)
      else x.step x.deadline .expired
    | none => x.step x.deadline .expired

def answers (s : Surroundings) : Nat :=
  match s.lookup with
  | some (_, .ok ips) => ips.length + 2
  | _ => 2

def direct (s : Surroundings) (o : DirectOptions) (n : Network) (a : Address) (began : Nat) :
    SocketDial :=
  s.course s.answers began (.start o none n a began false)

/-- What is known of the addresses of a host, and from when on. An address itself is known at once.
-/
def located (s : Surroundings) (a : Address) (began : Nat) :
    Option (Nat × Except String (List Ip)) :=
  match a.ip? with
  | some ip => some (began, .ok [ip])
  | none => s.lookup.map fun r => (began + r.1, r.2)

/-- That many attempts, of which each begins as the one before is over, fail until an instant. -/
inductive FailsUntil (s : Surroundings) (first : Nat) : Nat → Nat → Prop
  | none : FailsUntil s first 0 first
  | one {k t delay : Nat} {f : SocketAct × String} : FailsUntil s first k t →
      s.attempts k = some (delay, .error f) → FailsUntil s first (k + 1) (t + delay)

end Surroundings
end TunnelDial
