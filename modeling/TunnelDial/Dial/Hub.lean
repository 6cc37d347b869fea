import TunnelDial.Dial.Gate
import TunnelDial.Failure
import TunnelDial.Lease.Ledger
import TunnelDial.Request.Head
import TunnelDial.Request.Status

/-! The dials of one dialer and what they share: the kept transport with its leases, the gate for
fresh negotiations and what was learnt of the proxy's protocol. A dial first asks for a stream on
the kept transport; if that fails it negotiates afresh, behind the gate unless the proxy speaks
HTTP/1.1. An event touches what is shared at most once, so every interleaving of dials, whichever
threads they run on, is a list of events. -/
namespace TunnelDial

inductive Protocol
  | http1
  | http2
deriving DecidableEq, Repr

/-- The protocol that a negotiated name stands for; without a name it is HTTP/1.1. -/
def Protocol.ofName (name : String) : Except Failure Protocol :=
  if name = "" ∨ name = "http/1.1" then .ok .http1
  else if name = "h2" then .ok .http2
  else .error (.protocol name)

inductive Answer
  | granted
  | refused (code : Nat)
  | failed (f : Failure)
deriving DecidableEq, Repr

structure Connection where
  link : Nat
  protocol : String
deriving DecidableEq, Repr

/-- How a dial ended: with the connection itself, with a stream that holds a lease, with a failure,
or because its caller gave it up. -/
inductive Outcome
  | plain
  | stream (lease : Nat)
  | failed (f : Failure)
  | givenUp
deriving DecidableEq, Repr

def Outcome.isLoss : Outcome → Bool
  | plain => false
  | stream _ => false
  | failed _ => true
  | givenUp => true

/-- Where a dial stands. `gated` says that it holds the gate. A dial at rest waits for something
from outside; every other one does the next thing in its next turn. -/
inductive Phase
  | seeking (gated : Bool)
  | reusing (gated : Bool) (lease deadline : Nat)
  | evicting (gated : Bool) (lease : Nat)
  | passing (gated : Bool)
  | entering
  | queued
  | establishing (gated : Bool)
  | exchanging (gated : Bool) (link : Nat)
  | connecting (gated : Bool)
  | opening (gated : Bool) (lease deadline : Nat)
  | keeping (gated : Bool) (lease : Nat)
  | dropping (lease : Nat) (next : Phase)
  | leaving (gated : Bool) (o : Outcome)
  | ended (o : Outcome)
deriving DecidableEq, Repr

namespace Phase

def gated : Phase → Bool
  | seeking g => g
  | reusing g _ _ => g
  | evicting g _ => g
  | passing g => g
  | establishing g => g
  | exchanging g _ => g
  | connecting g => g
  | opening g _ _ => g
  | keeping g _ => g
  | dropping _ p => p.gated
  | leaving g _ => g
  | entering => false
  | queued => false
  | ended _ => false

/-- The leases that the dial itself holds: one for the request and one for the stream to be, until
the request is answered. -/
def leases : Phase → List Nat
  | reusing _ l _ => [l, l]
  | opening _ l _ => [l, l]
  | keeping _ l => [l, l]
  | evicting _ l => [l]
  | dropping l p => l :: p.leases
  | leaving _ (.stream l) => [l]
  | _ => []

def link? : Phase → Option Nat
  | exchanging _ k => some k
  | dropping _ p => p.link?
  | _ => none

def isFresh : Phase → Bool
  | establishing _ => true
  | exchanging .. => true
  | connecting _ => true
  | opening .. => true
  | keeping .. => true
  | _ => false

/-- The dial ends as soon as it is cancelled. -/
def heedsCancel : Phase → Bool
  | reusing .. => true
  | entering => true
  | queued => true
  | establishing _ => true
  | connecting _ => true
  | opening .. => true
  | _ => false

def isResting : Phase → Bool
  | reusing .. => true
  | queued => true
  | establishing _ => true
  | exchanging .. => true
  | connecting _ => true
  | opening .. => true
  | _ => false

def deadline? : Phase → Option Nat
  | reusing _ _ t => some t
  | opening _ _ t => some t
  | _ => none

/-- The dial is about to end: it gives its leases back and leaves the gate. -/
def unwind (o : Outcome) : Phase → Phase
  | reusing gated l _ => dropping l (dropping l (leaving gated o))
  | opening gated l _ => dropping l (dropping l (leaving gated o))
  | p => leaving p.gated o

/-- The most turns that a dial takes before it waits or has ended. -/
def turns : Phase → Nat
  | passing true => 1
  | seeking true => 2
  | entering => 3
  | passing false => 4
  | seeking false => 5
  | evicting true _ => 4
  | evicting false _ => 7
  | keeping .. => 3
  | dropping _ p => p.turns + 1
  | leaving .. => 1
  | _ => 0

end Phase

/-- A dial: its request, where it stands, the groups on which it asked for a stream, how often it
began to establish a connection and to build a transport, and the connection and the group that it
got from that. -/
structure Dial where
  request : ConnectRequest
  phase : Phase
  asked : List Nat
  established : Nat
  connects : Nat
  reached : Option Connection
  own : Option Nat
deriving DecidableEq, Repr

def Dial.start (request : ConnectRequest) (p : Phase) : Dial := ⟨request, p, [], 0, 0, none, none⟩

/-- What the dials share, the dials in the order in which they came, and the connections that dials
let go, the last first. -/
structure Hub where
  timeout : Nat
  reuse : Bool
  pool : Pool
  gate : Gate
  known : Option Protocol
  dials : List Dial
  dropped : List Nat
deriving Repr

inductive DialEvent
  | arrive (cancelled : Bool) (request : ConnectRequest)
  | turn (d : Nat)
  | answered (d : Nat) (a : Answer)
  | established (d : Nat) (r : Except Failure Connection)
  | exchanged (d : Nat) (r : Except Failure Unit)
  | connected (d : Nat) (r : Except Failure Nat)
  | expired (d : Nat)
  | cancelled (d : Nat)
  | abandoned (d : Nat)
  | cleared

namespace Hub

def start (timeout : Nat) (reuse : Bool) : Hub := ⟨timeout, reuse, .empty, .free, none, [], []⟩

def phase? (h : Hub) (d : Nat) : Option Phase := (h.dials[d]?).map (·.phase)

def setDial (h : Hub) (d : Nat) (f : Dial → Dial) : Hub := { h with dials := h.dials.modify d f }

def setPhase (h : Hub) (d : Nat) (p : Phase) : Hub := h.setDial d fun x => { x with phase := p }

def goFresh (h : Hub) (d : Nat) (gated : Bool) : Hub :=
  h.setDial d fun x => { x with phase := .establishing gated, established := x.established + 1 }

def refusal (code : Nat) : Failure := .rejected (statusText code [])

/-- The dial looks for the kept transport, and asks for a stream on it. -/
def seek (now : Nat) (accepts : Nat → Bool) (h : Hub) (d : Nat) (gated : Bool) : Hub :=
  match h.pool.lookup accepts with
  | (pool, some g) =>
    { h with pool := pool.retain g }.setDial d fun x =>
      { x with phase := .reusing gated g (now + h.timeout), asked := x.asked ++ [g] }
  | (_, none) => h.setPhase d (.passing gated)

/-- The kept transport failed the dial, so it leaves the slot if it is still there. -/
def evict (h : Hub) (d : Nat) (gated : Bool) (lease : Nat) : Hub :=
  if h.pool.slot = some lease then
    { h with pool := h.pool.vacate }.setPhase d (.dropping lease (.dropping lease (.passing gated)))
  else h.setPhase d (.dropping lease (.passing gated))

def pass (h : Hub) (d : Nat) (gated : Bool) : Hub :=
  if !gated && h.reuse && h.known != some .http1 then h.setPhase d .entering else h.goFresh d gated

def enter (h : Hub) (d : Nat) : Hub :=
  { h with gate := h.gate.enter d }.setPhase d
    (if h.gate.holder.isNone then .seeking true else .queued)

/-- The transport of the dial's own stream is kept, if any is; the one kept before goes. -/
def keep (h : Hub) (d : Nat) (gated : Bool) (lease : Nat) : Hub :=
  let returning := Phase.leaving gated (.stream lease)
  if h.reuse then
    { h with pool := h.pool.fill lease }.setPhase d
      (match h.pool.slot with
        | some old => .dropping old returning
        | none => returning)
  else h.setPhase d (.dropping lease returning)

def turn (now : Nat) (accepts : Nat → Bool) (h : Hub) (d : Nat) : Phase → Hub
  | .seeking gated => h.seek now accepts d gated
  | .evicting gated lease => h.evict d gated lease
  | .passing gated => h.pass d gated
  | .entering => h.enter d
  | .queued => if h.gate.holder = some d then h.setPhase d (.seeking true) else h
  | .keeping gated lease => h.keep d gated lease
  | .dropping lease next => { h with pool := h.pool.release lease }.setPhase d next
  | .leaving _ o => { h with gate := h.gate.leave d }.setPhase d (.ended o)
  | _ => h

def unwind (h : Hub) (d : Nat) (p : Phase) (o : Outcome) : Hub :=
  { h with dropped := p.link?.toList ++ h.dropped }.setPhase d (p.unwind o)

def reuseAnswered (h : Hub) (d : Nat) (gated : Bool) (lease deadline : Nat) : Answer → Hub
  | .granted => h.setPhase d (.dropping lease (.leaving gated (.stream lease)))
  | .failed .cancelled => h.unwind d (.reusing gated lease deadline) (.failed .cancelled)
  | _ => h.setPhase d (.dropping lease (.evicting gated lease))

def openAnswered (h : Hub) (d : Nat) (gated : Bool) (lease deadline : Nat) : Answer → Hub
  | .granted => h.setPhase d (.keeping gated lease)
  | .refused code => h.unwind d (.opening gated lease deadline) (.failed (refusal code))
  | .failed f => h.unwind d (.opening gated lease deadline) (.failed f)

def answered (h : Hub) (d : Nat) (a : Answer) : Phase → Hub
  | .reusing gated lease deadline => h.reuseAnswered d gated lease deadline a
  | .opening gated lease deadline => h.openAnswered d gated lease deadline a
  | _ => h

/-- The connection was established; one that speaks another protocol goes at once. -/
def established (h : Hub) (d : Nat) (r : Except Failure Connection) : Phase → Hub
  | .establishing gated =>
    match r with
    | .error f => h.unwind d (.establishing gated) (.failed f)
    | .ok c =>
      match Protocol.ofName c.protocol with
      | .error f =>
        { h with dropped := c.link :: h.dropped }.setDial d fun x =>
          { x with phase := .leaving gated (.failed f), reached := some c }
      | .ok .http1 =>
        { h with known := some .http1 }.setDial d fun x =>
          { x with phase := .exchanging gated c.link, reached := some c }
      | .ok .http2 =>
        { h with known := some .http2 }.setDial d fun x =>
          { x with phase := .connecting gated, connects := x.connects + 1, reached := some c }
  | _ => h

def exchanged (h : Hub) (d : Nat) (r : Except Failure Unit) : Phase → Hub
  | .exchanging gated link =>
    match r with
    | .ok _ => h.setPhase d (.leaving gated .plain)
    | .error f => h.unwind d (.exchanging gated link) (.failed f)
  | _ => h

def connected (now : Nat) (h : Hub) (d : Nat) (r : Except Failure Nat) : Phase → Hub
  | .connecting gated =>
    match r with
    | .error f => h.unwind d (.connecting gated) (.failed f)
    | .ok transport =>
      let r := h.pool.issue transport
      { h with pool := r.1.retain r.2 }.setDial d fun x =>
        { x with
          phase := .opening gated r.2 (now + h.timeout)
          asked := x.asked ++ [r.2]
          own := some r.2 }
  | _ => h

/-- The dial was cancelled: it ends, except in an exchange on its own connection. -/
def cancel (h : Hub) (d : Nat) (p : Phase) : Hub :=
  if p.heedsCancel then h.unwind d p (.failed .cancelled) else h

def abandon (h : Hub) (d : Nat) (p : Phase) : Hub :=
  if p.isResting then h.unwind d p .givenUp else h

def onDial (now : Nat) (accepts : Nat → Bool) (h : Hub) (p : Phase) : DialEvent → Hub
  | .turn d => h.turn now accepts d p
  | .answered d a => h.answered d a p
  | .established d r => h.established d r p
  | .exchanged d r => h.exchanged d r p
  | .connected d r => h.connected now d r p
  | .expired d => h.answered d (.failed (.deadline "read")) p
  | .cancelled d => h.cancel d p
  | .abandoned d => h.abandon d p
  | .arrive .. => h
  | .cleared => h

end Hub

def DialEvent.dial? : DialEvent → Option Nat
  | turn d => some d
  | answered d _ => some d
  | established d _ => some d
  | exchanged d _ => some d
  | connected d _ => some d
  | expired d => some d
  | cancelled d => some d
  | abandoned d => some d
  | arrive .. => none
  | cleared => none

namespace Hub

def entry (h : Hub) (cancelled : Bool) : Phase :=
  if cancelled then .ended (.failed .cancelled)
  else if h.reuse then .seeking false
  else .passing false

/-- One event. An event that does not fit the phase of its dial changes nothing. -/
def step (now : Nat) (accepts : Nat → Bool) (h : Hub) (e : DialEvent) : Hub :=
  match e with
  | .arrive cancelled request =>
    { h with dials := h.dials ++ [.start request (h.entry cancelled)] }
  | .cleared => { h with pool := h.pool.clear }
  | _ =>
    match e.dial?.bind h.phase? with
    | some p => h.onDial now accepts p e
    | none => h

def proceed (now : Nat) (accepts : Nat → Bool) (h : Hub) (d : Nat) : Hub :=
  Nat.repeat (fun h => h.step now accepts (.turn d)) ((h.phase? d).elim 0 Phase.turns) h

end Hub

end TunnelDial
