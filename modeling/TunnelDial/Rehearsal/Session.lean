import TunnelDial.Rehearsal.Dialing
import TunnelDial.Rehearsal.TunnelCall

/-! A caller's session: a dialer, its dials, and what the caller does with tunnels, leases, tokens
and the dialer itself. -/
namespace TunnelDial.Rehearsal

/-- A target as the caller gives it; it may be `unclear` for a reason of the caller's. -/
inductive TargetText
  | whole (s : String)
  | parts (host : String) (port : UInt16)
  | unclear (reason : String)
deriving Repr

/-- A dial as the caller asks for it: nothing of it is checked. -/
structure DialOrder where
  name : String
  after : Nat
  target : TargetText
  network : String
  headers : Option (Except Headers.Fault Headers)
  token : Option String
  cancelAfter : Option Nat

inductive DialRefusal
  | unclear (reason : String)
  | failure (f : Failure)
  | header (f : Headers.Fault)
deriving Repr

inductive DialAnswer
  | refused (r : DialRefusal)
  | ended (e : DialEnd) (elapsed : Nat)
deriving Repr

namespace DialOrder

def address (o : DialOrder) : Except DialRefusal Address :=
  match o.target with
  | .whole s => (Address.ofText s).mapError .failure
  | .parts host port => .ok (Address.ofHost host port)
  | .unclear reason => .error (.unclear reason)

def plan (base : Headers) (o : DialOrder) : Except DialRefusal DialPlan := do
  let a ← o.address
  let network ← (Network.parse o.network).mapError fun name => .failure (.network name)
  let own ← match o.headers with
    | none => pure none
    | some h => (h.mapError .header).map some
  let options : CallOptions := ⟨own, o.token.isSome || o.cancelAfter.isSome⟩
  return ⟨o.name, o.after, network, a, ⟨a.toText, options.layered base⟩, o.token, o.cancelAfter⟩

end DialOrder

structure Session where
  dialer : Option Dialer
  world : World

inductive SessionStep
  | dial (o : DialOrder)
  | dials (os : List DialOrder) (incidents : List (Nat × Incident))
  | cancel (token : String)
  | clearCache
  | setTransport (t : Nat) (accepts : Option Bool) (trips : Option (List TripPlan))
  | sleep (time : Nat)
  | dropDialer
  | drop (name : String)
  | holdLease (name : String)
  | showLease (name : String)
  | dropLease (name : String)
  | unwrap (name : String)
  | call (name : String) (c : TunnelCall)

inductive Missing
  | dialer
  | connectDialer
  | transport
  | tunnel
  | muxTunnel
  | plainTunnel
deriving DecidableEq, Repr

inductive SessionReply
  | done
  | nothing
  | truth (b : Bool)
  | missing (m : Missing)
  | lease (v : Option Pool.LeaseView)
  | dialed (a : DialAnswer)
  | dialedAll (as : List DialAnswer)
  | called (r : TunnelReply)
deriving Repr

/-- What can be counted in a session, and whether a dialer that keeps a transport has one. -/
structure SessionState where
  calls : Nat
  connects : Nat
  transports : List (Nat × Nat)
  cached : Option Bool
deriving Repr

namespace Session

def headers (s : Session) : Headers := (s.dialer.map Dialer.headers).getD .empty

/-- Each answer at the place of its dial. -/
def place : List (Except DialRefusal DialPlan) → List (DialEnd × Nat) → List DialAnswer
  | .error r :: ps, ends => .refused r :: place ps ends
  | .ok _ :: ps, e :: ends => .ended e.1 e.2 :: place ps ends
  | _, _ => []

def dialAll (s : Session) (os : List DialOrder) (incidents : List (Nat × Incident)) :
    List DialAnswer × Session :=
  let plans := os.map (·.plan s.headers)
  let r := s.world.dial (plans.filterMap Except.toOption) incidents
  (place plans r.2, { s with world := r.1 })

def withWorld (s : Session) (r : SessionReply) (w : World) : SessionReply × Session :=
  (r, { s with world := w })

def lease? (s : Session) (name : String) : Option Nat :=
  (s.world.leases.find? (·.1 = name)).map (·.2)

def step (s : Session) : SessionStep → SessionReply × Session
  | .dial o =>
    if s.dialer.isNone then (.missing .dialer, s)
    else
      let r := s.dialAll [o] []
      ((r.1.head?.map .dialed).getD .nothing, r.2)
  | .dials os incidents =>
    if s.dialer.isNone then (.missing .dialer, s)
    else
      let r := s.dialAll os incidents
      (.dialedAll r.1, r.2)
  | .cancel token => s.withWorld .done (s.world.incident (.cancel token))
  | .clearCache =>
    match s.dialer with
    | none => (.missing .dialer, s)
    | some d =>
      if d.isConnect then s.withWorld .done (s.world.incident .clearCache)
      else (.missing .connectDialer, s)
  | .setTransport t accepts trips =>
    if t < s.world.scriptedTransports.length then
      s.withWorld .done (s.world.incident (.setTransport t accepts trips))
    else (.missing .transport, s)
  | .sleep time => s.withWorld .done (s.world.pass time)
  | .dropDialer => (.done, ⟨none, s.world.dropDialer⟩)
  | .drop name => s.withWorld (.truth (s.world.tunnel? name).isSome) (s.world.remove name)
  | .holdLease name =>
    match s.world.holdLease? name with
    | some (some w) => s.withWorld .done w
    | some none => (.nothing, s)
    | none => (.missing .muxTunnel, s)
  | .showLease name => (.lease ((s.lease? name).map s.world.leaseView), s)
  | .dropLease name =>
    let r := s.world.dropLease name
    s.withWorld (.truth r.1) r.2
  | .unwrap name =>
    match s.world.bare? name with
    | some w => s.withWorld .done w
    | none => s.withWorld (.missing .plainTunnel) (s.world.remove name)
  | .call name c =>
    match s.world.tunnel? name with
    | none => (.missing .tunnel, s)
    | some t =>
      let r := s.world.call name t c
      s.withWorld (.called r.1) r.2

def pass (s : Session) (time : Nat) : Session := { s with world := s.world.pass time }

def state (s : Session) : SessionState :=
  let w := s.world
  ⟨w.calls.length, w.connects,
    w.scriptedTransports.map fun x => (x.2.requests.length, w.hub.pool.ledger.closesOf x.1),
    (s.dialer.filter Dialer.isConnect).map fun _ => w.hub.pool.slot.isSome⟩

def finish (s : Session) : Session := ⟨none, s.world.finish⟩

end Session

end TunnelDial.Rehearsal
