import TunnelDial.Address.Basic
import TunnelDial.Dial.Hub
import TunnelDial.Dial.Options
import TunnelDial.Dial.Socks
import TunnelDial.Http2.Client
import TunnelDial.Rehearsal.Carrier
import TunnelDial.Rehearsal.Machine
import TunnelDial.Rehearsal.Trip
import TunnelDial.Request.Exchange
import TunnelDial.Tls.ServerName
import TunnelDial.Tunnel.Mux

/-! A scripted world for dials: connections, transports and round trips that follow scripts, under a
clock that stands still while anything can happen. -/
namespace TunnelDial.Rehearsal

inductive FarPlan
  | script (s : ScriptedStream)
  | peer (acts : List PeerAct)
  | mux (p : ServerPlan)
  | tls (protocols : List String) (inner : FarPlan)
deriving Repr

def FarPlan.program? : FarPlan → Option Far
  | script _ => none
  | peer acts => some (.peer (.ofActs acts))
  | mux p => some (.mux (.ofPlan p))
  | tls protocols inner => inner.program?.map (.tls (.ofProtocols protocols))

def FarPlan.open (kind : PipeKind) (p : FarPlan) : Carrier :=
  match p, p.program? with
  | script s, _ => .scripted s
  | _, some far => .piped (.ofKind kind) far false
  | _, none => .scripted (.ofActs [] [] [] [])

structure CallResult where
  protocol : String
  far : FarPlan
deriving Repr

abbrev CallPlan := Plan CallResult

/-- A call that builds a transport: whether it takes further streams, and its round trips. -/
structure EngineResult where
  accepts : Bool
  trips : List TripPlan
deriving Repr

abbrev EnginePlan := Plan EngineResult

inductive Connector
  | scripted
  | http2 (window : Option Nat)
deriving Repr

inductive Engine
  | scripted (accepts : Bool) (trips : List TripPlan)
  | http2 (client : Http2.Client)
deriving Repr

/-- A transport, with the connection that it keeps until it is closed. -/
structure Transport where
  link : Option Nat
  engine : Engine
  requests : List ConnectRequest
  sinks : List Nat
deriving Repr

/-- How the connections to a proxy come about: by scripted calls, or by sockets of the machine with
TLS or without, when the proxy may be known to speak HTTP/2. -/
inductive Reach
  | scripted
  | direct (o : DirectOptions) (proxy : Address) (prior : Bool)
  | tls (o : DirectOptions) (s : Security) (proxy : Address)
deriving Repr

inductive Route
  | connect (r : Reach)
  | socks (p : Proxy) (o : DirectOptions)
  | direct (o : DirectOptions)
  | tls (o : DirectOptions) (s : Security)
deriving Repr

/-- The way that a dialer takes; `scripted` says that scripted calls take the place of TLS. -/
def Route.ofDialer (scripted : Bool) : Dialer → Route
  | .socks p o => .socks p o
  | .direct o => .direct o
  | .tls o s => .tls o s
  | .connect p o _ =>
    if p.scheme ≠ .https then .connect (.direct o.direct p.address o.priorKnowledge)
    else if scripted then .connect .scripted
    else .connect (.tls o.direct (.standard o.insecure) p.address)

inductive DialEnd
  | plain (replay : Bytes)
  | mux
  | raw
  | secured (protocol : String)
  | failed (f : Failure)
  | pending
deriving Repr

/-- What a dial is doing. It may have a socket of its own, for `protocol` or, with a `hello`, for
TLS; `begun` says that the machine was asked for what that waits for and never answers. `reached`
says what became of the connection. -/
inductive Work
  | idle
  | dialing (x : SocketDial) (begun : Bool) (protocol : String) (hello : Option Tls.Handshake)
  | securing (h : Tls.Handshake) (a : Address) (deadline : Nat)
  | reached (r : Except Failure Connection)
  | calling (plan : CallPlan) (call since : Nat)
  | exchanging (e : Exchange)
  | building (plan : EnginePlan) (since : Nat)
  | greeting (left : Bytes)
  | asking (trip : Nat)
deriving Repr

/-- The work of one dial, the phase that it belongs to, the connection that the dial holds, the
bytes that came with the proxy's answer, and the end of a dial that goes past the hub. -/
structure Errand where
  network : Network
  target : Address
  phase : Phase
  work : Work
  link : Option Nat
  rest : Bytes
  outcome : Option DialEnd
deriving Repr

def Errand.resting (network : Network) (target : Address) : Errand :=
  ⟨network, target, .ended (.failed .cancelled), .idle, none, [], none⟩

inductive Tunnel
  | plain (replay : Bytes) (link : Nat)
  | raw (link : Nat)
  | mux (t : MuxTunnel) (trip : Nat)
deriving Repr

structure Ends where
  near : Ip
  peer : Socket
deriving Repr

structure World where
  now : Nat
  limit : Nat
  route : Route
  machine : Machine FarPlan
  carriers : List Carrier
  ends : List (Nat × Ends)
  transports : List Transport
  trips : List Trip
  hub : Hub
  closings : Nat
  dropped : Nat
  errands : List Errand
  callPlans : List CallPlan
  calls : List (Network × Option Nat)
  connector : Connector
  enginePlans : List EnginePlan
  connects : Nat
  tunnels : List (String × Tunnel)
  leases : List (String × Nat)
  tokens : List String
deriving Repr

namespace World

def hour : Nat := 3600000

def start (hub : Hub) (calls : List CallPlan) (connector : Connector) (engines : List EnginePlan) :
    World :=
  { now := 0, limit := hour, route := .connect .scripted, machine := .empty, carriers := []
    ends := [], transports := [], trips := [], hub := hub, closings := 0, dropped := 0
    errands := []
    callPlans := calls, calls := [], connector := connector, enginePlans := engines, connects := 0
    tunnels := [], leases := [], tokens := [] }

/-- The same world on a machine with sockets, with another limit for dials. -/
def onMachine (w : World) (limit : Nat) (route : Route) (m : Machine FarPlan) : World :=
  { w with limit := limit, route := route, machine := m }

def setCarrier (w : World) (l : Nat) (c : Carrier) : World :=
  { w with carriers := w.carriers.set l c }

def setTrip (w : World) (i : Nat) (t : Trip) : World := { w with trips := w.trips.set i t }

def setErrand (w : World) (d : Nat) (f : Errand → Errand) : World :=
  { w with errands := w.errands.modify d f }

def openLink (w : World) (c : Carrier) : World × Nat :=
  ({ w with carriers := w.carriers ++ [c] }, w.carriers.length)

def dropLink (w : World) (l : Nat) : World :=
  { w with carriers := w.carriers.modify l Carrier.drop }

def dropLink? (w : World) : Option Nat → World
  | some l => w.dropLink l
  | none => w

def setTransport (w : World) (t : Nat) (x : Transport) : World :=
  { w with transports := w.transports.set t x }

def accepts (w : World) (t : Nat) : Bool :=
  match (w.transports[t]?).map Transport.engine with
  | some (.scripted accepts _) => accepts
  | some (.http2 c) => c.accepts
  | none => false

def scriptedTransports (w : World) : List (Nat × Transport) :=
  (w.transports.mapIdx fun i t => (i, t)).filter fun x =>
    match x.2.engine with
    | .scripted .. => true
    | .http2 _ => false

def client? (w : World) (t : Nat) : Option Http2.Client :=
  match (w.transports[t]?).map Transport.engine with
  | some (.http2 c) => some c
  | _ => none

def setClient (w : World) (t : Nat) (c : Http2.Client) : World :=
  { w with transports := w.transports.modify t fun x => { x with engine := .http2 c } }

/-- A transport that is closed lets its connection go. -/
def closeTransport (w : World) (t : Nat) : World :=
  match w.transports[t]? with
  | some x =>
    let engine := match x.engine with
      | .http2 c => .http2 c.close
      | other => other
    (w.setTransport t { x with link := none, engine := engine }).dropLink? x.link
  | none => w

/-- The closings in the ledger that were not carried out yet are, and dials lose the connections
that they let go. -/
def carryOut (w : World) : World :=
  let ledger := w.hub.pool.ledger
  let closed := ledger.closings.take (ledger.closings.length - w.closings)
  let lost := w.hub.dropped.take (w.hub.dropped.length - w.dropped)
  let w := { w with closings := ledger.closings.length, dropped := w.hub.dropped.length }
  lost.reverse.foldl dropLink
    (closed.reverse.foldl (fun w g => w.closeTransport (ledger.transport g)) w)

def setPool (w : World) (p : Pool) : World := { w with hub := { w.hub with pool := p } }.carryOut

def sendRequest (now : Nat) (r : ConnectRequest) : Engine → TripSource × Engine
  | .scripted accepts trips =>
    (.plan (trips.headD (.instant .granted)) now, .scripted accepts trips.tail)
  | .http2 c =>
    match c.request r with
    | .ok (c, id) => (.stream id, .http2 c)
    | .error f => (.refused f, .http2 c)

def beginTrip (w : World) (t : Nat) (r : ConnectRequest) : World × Nat :=
  match w.transports[t]? with
  | none => (w, w.trips.length)
  | some x =>
    let sent := sendRequest w.now r x.engine
    let x := { x with engine := sent.2, requests := x.requests ++ [r] }
    ({ w.setTransport t x with trips := w.trips ++ [.start t sent.1] }, w.trips.length)

def dropResponse (w : World) (i : Nat) : World :=
  match w.trips[i]? with
  | none => w
  | some t =>
    let w := w.setTrip i t.dropResponse
    match t.source, w.client? t.transport with
    | .stream id, some c => if t.dropped then w else w.setClient t.transport (c.dropReading id)
    | _, _ => w

def abandonTrip (w : World) (i : Nat) : World :=
  { w.dropResponse i with trips := (w.dropResponse i).trips.modify i Trip.abandon }

def outcome? (w : World) (i : Nat) : Option (Except Failure Nat) :=
  match w.trips[i]? with
  | none => none
  | some t =>
    match t.source with
    | .plan p since =>
      (p.outcome? w.now since).map fun
        | .ok r => .ok r.status
        | .error f => .error f
    | .refused f => some (.error f)
    | .stream id => (w.client? t.transport).bind (·.answer? id)

def readTrip (w : World) (room i : Nat) : Poll Bytes × World :=
  match w.trips[i]? with
  | none => (.ready [], w)
  | some t =>
    match t.source, w.client? t.transport with
    | .stream id, some c =>
      if t.dropped then (.ready [], w)
      else
        let r := c.read id room t.left
        (r.1, (w.setTrip i { t with left := r.2.1 }).setClient t.transport r.2.2)
    | _, _ =>
      let r := t.read w.now room
      (r.1, w.setTrip i r.2)

def answerTrip (w : World) (i : Nat) : World :=
  match w.trips[i]? with
  | none => w
  | some t =>
    match t.source with
    | .plan p _ =>
      let w := w.setTrip i (t.answer p.result)
      if p.result.mode = .sink then
        { w with transports := w.transports.modify t.transport fun x =>
            { x with sinks := x.sinks ++ [i] } }
      else w
    | _ => w

def pump (w : World) (i : Nat) : Bool × World :=
  match w.trips[i]? with
  | none => (false, w)
  | some t =>
    match t.source, w.client? t.transport with
    | .stream id, some c =>
      let r := c.pumpAll id 100000 false t.hand t.channel
      let w := w.setTrip i { t with hand := r.2.1, channel := r.2.2.1 }
      (r.1, w.setClient t.transport r.2.2.2)
    | _, _ => (false, w)

def turn (w : World) (t : Nat) : Bool × World :=
  match w.transports[t]? with
  | none => (false, w)
  | some x =>
    match x.engine, x.link, x.link.bind (w.carriers[·]?) with
    | .http2 c, some link, some carrier =>
      let r := c.turn w.now carrier
      let w := (w.setCarrier link r.2.2).setTransport t { x with engine := .http2 r.2.1 }
      if r.2.1.alive then (r.1, w)
      else (true, (w.setTransport t { x with engine := .http2 r.2.1, link := none }).dropLink link)
    | _, _, _ => (false, w)

/-- Does something for each number below a limit; tells whether anything moved. -/
def forEach (f : World → Nat → Bool × World) : Nat → World → Bool × World
  | 0, w => (false, w)
  | n + 1, w =>
    let before := forEach f n w
    let r := f before.2 n
    (before.1 || r.1, r.2)

def drain (w : World) : Bool × World :=
  (w.trips.any fun t => t.taker = .sink && !t.channel.chunks.isEmpty,
    { w with trips := w.trips.map Trip.drain })

def stirCarriers (w : World) : Bool × World :=
  let carriers := w.carriers.map fun c => c.stir w.now
  (carriers.any (·.1), { w with carriers := carriers.map (·.2) })

/-- Background work: sinks, what sends chunks on, connections and far programs, in this order. Tells
whether anything moved. -/
def stir (w : World) : Bool × World :=
  let drained := w.drain
  let pumped := forEach pump w.trips.length drained.2
  let turned := forEach turn w.transports.length pumped.2
  let stirred := turned.2.stirCarriers
  (drained.1 || pumped.1 || turned.1 || stirred.1, stirred.2)

def settleIn : Nat → World → World
  | 0, w => w
  | n + 1, w =>
    match w.stir with
    | (true, w) => settleIn n w
    | (false, w) => w

def settle (w : World) : World := settleIn 100000 w

def wakes (w : World) : List Nat :=
  w.carriers.flatMap Carrier.wakes ++ w.trips.filterMap Trip.wake?

end World

end TunnelDial.Rehearsal
