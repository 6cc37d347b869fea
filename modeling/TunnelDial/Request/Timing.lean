import TunnelDial.Request.Exchange

/-! Exchanges under the clock. A stream that lets a call wait says when the call is to be made
again; without a deadline the exchange is called then, and with one it is called at its deadline at
the latest. -/
namespace TunnelDial

def ExchangeStep.isOver : ExchangeStep → Bool
  | next _ => false
  | waiting => false
  | accepted .. => true
  | failed _ => true

namespace Exchange

/-- Called at an instant, an exchange comes to its end `o` at `t`, with the stream that it leaves:
it is called again at once when a call leads on, and after a call that waits it is called again
later, by the instant that is given for that. -/
inductive Ends {σ : Type} (call : Nat → Exchange → σ → ExchangeStep × σ)
    (wake? : Exchange → σ → Option Nat) : Nat → Exchange → σ → ExchangeStep → Nat → σ → Prop
  | ended {now e s o s'} : call now e s = (o, s') → o.isOver = true →
      Ends call wake? now e s o now s'
  | next {now e s e' s' o t s''} : call now e s = (.next e', s') →
      Ends call wake? now e' s' o t s'' → Ends call wake? now e s o t s''
  | woken {now e s s' wake later o t s''} : call now e s = (.waiting, s') →
      wake? e s' = some wake → now < later → later ≤ wake →
      Ends call wake? later e s' o t s'' → Ends call wake? now e s o t s''

variable {σ : Type} [ByteStream σ]

/-- When an exchange that waits is called again at the latest: as its stream says, or at its
deadline. -/
def wakeAt (e : Exchange) (s : σ) : Nat := (ByteStream.wake? s).elim e.deadline (min e.deadline)

/-- What an exchange comes to under the clock, and when. -/
def Returns : Nat → Exchange → σ → ExchangeStep → Nat → σ → Prop :=
  Ends attend fun e s => some (e.wakeAt s)

/-- What an exchange would come to without its deadline, and when. -/
def Settles : Nat → Exchange → σ → ExchangeStep → Nat → σ → Prop :=
  Ends step fun _ s => ByteStream.wake? s

end Exchange
end TunnelDial
