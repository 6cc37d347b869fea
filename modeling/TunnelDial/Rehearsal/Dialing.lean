import TunnelDial.Rehearsal.Task

/-! Dials in the world. Each dial is polled in turn: its work goes on, or its deadline has passed,
or it was cancelled; whatever happens becomes an event of the hub, and a new phase begins new work.
-/
namespace TunnelDial.Rehearsal

/-- A dial to be made: the name for its tunnel, when it starts, the token that cancels it, and when
it is cancelled on its own. -/
structure DialPlan where
  name : String
  after : Nat
  network : Network
  target : Address
  request : ConnectRequest
  token : Option String
  cancelAfter : Option Nat
deriving Repr

/-- A dial under way: when it starts, its number once it has started, and its end with the time it
took. -/
structure Caller where
  plan : DialPlan
  start : Nat
  dial : Option Nat
  outcome : Option (DialEnd × Nat)
deriving Repr

inductive Incident
  | clearCache
  | setTransport (t : Nat) (accepts : Option Bool) (trips : Option (List TripPlan))
  | cancel (token : String)
deriving Repr

namespace World

def noMoreCalls : CallPlan :=
  ⟨0, false, some (.config "no more connections"), ⟨"", .script (.ofActs [] [] [] [])⟩⟩

def beginCall (w : World) (d : Nat) (p : Phase) : World :=
  let plan := w.callPlans.headD noMoreCalls
  match w.errands[d]? with
  | none => w
  | some e =>
    { w with callPlans := w.callPlans.tail, calls := w.calls ++ [(e.network, none)] }.setErrand d
      fun e => { e with phase := p, work := .calling plan w.calls.length w.now, link := none }

def setWork (w : World) (d : Nat) (work : Work) : World :=
  w.setErrand d fun e => { e with work := work }

def missed (w : World) (d : Nat) (f : Failure) : World := w.setWork d (.reached (.error f))

def linked (w : World) (d : Nat) (far : FarPlan) (target : Socket) (source : Option Ip) : World :=
  let opened := w.openLink (far.open .system)
  let ends : Ends := ⟨Machine.nearIp target source, target⟩
  { opened.1 with ends := opened.1.ends ++ [(opened.2, ends)] }.setErrand d
    fun e => { e with link := some opened.2 }

/-- The dial with a socket of its own has ended: the connection is there, and TLS is still to be
opened on it where that is wanted, or it is not. -/
def opened (w : World) (d : Nat) (e : Errand) (x : SocketDial) (protocol : String)
    (hello : Option Tls.Handshake) : Except Failure Socket → World
  | .error f => w.missed d f
  | .ok _ =>
    match e.link, hello with
    | some link, none => w.setWork d (.reached (.ok ⟨link, protocol⟩))
    | some _, some h => w.setWork d (.securing h x.hop (w.now + x.options.timeout))
    | none, _ => w

/-- What a dial waits for is not there yet; its time may be over. -/
def await (w : World) (d : Nat) (x : SocketDial) (protocol : String)
    (hello : Option Tls.Handshake) : Bool × World :=
  if x.deadline ≤ w.now then
    (true, w.setWork d (.dialing (x.step w.now .expired) true protocol hello))
  else (false, w)

def consult (w : World) (d : Nat) (x : SocketDial) (protocol : String)
    (hello : Option Tls.Handshake) : World :=
  let r := w.machine.reply x
  let w := { w with machine := r.2 }
  match r.1 with
  | none => w.setWork d (.dialing x true protocol hello)
  | some (event, far) =>
    let w := match far, x.tried.getLast? with
      | some (far, source), some target => w.linked d far target source
      | _, _ => w
    w.setWork d (.dialing (x.step w.now event) false protocol hello)

def goOn (w : World) (d : Nat) (e : Errand) (x : SocketDial) (begun : Bool) (protocol : String)
    (hello : Option Tls.Handshake) : Bool × World :=
  match x.phase with
  | .ended r _ => (true, w.opened d e x protocol hello r)
  | .shaking _ h =>
    match e.link, e.link.bind (w.carriers[·]?) with
    | some link, some c =>
      let r := ByteStream.use c (h.call w.now)
      let w := w.setCarrier link r.2
      if r.1.isWaiting then w.await d x protocol hello
      else (true, w.setWork d (.dialing (x.step w.now (.answered r.1)) begun protocol hello))
    | _, _ => (false, w)
  | _ => if begun then w.await d x protocol hello else (true, w.consult d x protocol hello)

def beginDirect (w : World) (d : Nat) (o : DirectOptions) (a : Address) (protocol : String)
    (hello : Option Tls.Handshake) : World :=
  match w.errands[d]? with
  | none => w
  | some e =>
    w.setWork d (.dialing (.start o none e.network a w.now false) false protocol hello)

def beginTls (w : World) (d : Nat) (o : DirectOptions) (s : Security) (a : Address) : World :=
  match Tls.ServerName.shown? a.host with
  | .error f => w.missed d f
  | .ok name => w.beginDirect d o a "" (some (.start ⟨name.getD "", s.protocols⟩ s.insecure))

def beginReach (w : World) (d : Nat) (p : Phase) : World :=
  match w.route with
  | .connect (.direct o a prior) =>
    let protocol := if prior then "h2" else ""
    (w.setErrand d fun e => { e with phase := p }).beginDirect d o a protocol none
  | .connect (.tls o s a) => (w.setErrand d fun e => { e with phase := p }).beginTls d o s a
  | _ => w.beginCall d p

def beginBuild (w : World) (d : Nat) (p : Phase) : World :=
  match w.connector with
  | .scripted =>
    let plan := w.enginePlans.headD (.instant ⟨true, []⟩)
    { w with enginePlans := w.enginePlans.tail, connects := w.connects + 1 }.setErrand d
      fun e => { e with phase := p, work := .building plan w.now }
  | .http2 _ =>
    w.setErrand d fun e => { e with phase := p, work := .greeting Http2.Client.preface }

def beginAsk (w : World) (d g : Nat) (p : Phase) : World :=
  match w.hub.dials[d]? with
  | none => w
  | some x =>
    let r := w.beginTrip (w.hub.pool.ledger.transport g) x.request
    r.1.setErrand d fun e => { e with phase := p, work := .asking r.2 }

def beginExchange (w : World) (d : Nat) (p : Phase) : World :=
  match w.hub.dials[d]? with
  | none => w
  | some x =>
    w.setErrand d fun e =>
      { e with phase := p, work := .exchanging (.start x.request.head (w.now + w.hub.timeout)) }

/-- Work that did not lead to a tunnel is left behind. -/
def leaveWork (w : World) (p : Phase) (work : Work) : World :=
  match work, p with
  | .asking _, .ended (.stream _) => w
  | .asking trip, _ => w.abandonTrip trip
  | _, _ => w

def enter (w : World) (d : Nat) : World :=
  match w.hub.phase? d, w.errands[d]? with
  | some p, some e =>
    if p = e.phase then w
    else
      let w := w.leaveWork p e.work
      match p with
      | .establishing _ => w.beginReach d p
      | .exchanging .. => w.beginExchange d p
      | .connecting _ => w.beginBuild d p
      | .reusing _ g _ => w.beginAsk d g p
      | .opening _ g _ => w.beginAsk d g p
      | .ended o =>
        if o.isLoss then
          (w.dropLink? e.link).setErrand d fun e =>
            { e with phase := p, work := .idle, link := none }
        else w.setErrand d fun e => { e with phase := p }
      | _ => w.setErrand d fun e => { e with phase := p, work := .idle }
  | _, _ => w

def event (w : World) (d : Nat) (e : DialEvent) : World :=
  let hub := (w.hub.step w.now w.accepts e).proceed w.now w.accepts d
  ({ w with hub := hub }.carryOut).enter d

def built (w : World) (d : Nat) (link : Option Nat) (engine : Engine) : World :=
  let w := { w with transports := w.transports ++ [Transport.mk link engine [] []] }
  (w.setErrand d fun e => { e with link := none }).event d
    (.connected d (.ok (w.transports.length - 1)))

def greet (w : World) (d : Nat) (e : Errand) (left : Bytes) : Bool × World :=
  let failed := fun (w : World) (f : IoFault) =>
    let reason := "HTTP/2 handshake failed: " ++ f.text
    (true, w.event d (.connected d (.error (.connect .http2 reason))))
  match w.connector, e.link, e.link.bind (w.carriers[·]?) with
  | .http2 window, some link, some carrier =>
    if left.isEmpty then
      let c := Http2.Client.start window
      (true, w.built d e.link (.http2 { c with core := { c.core with output := [] } }))
    else
      let r := carrier.write w.now left
      let w := w.setCarrier link r.2
      match r.1 with
      | .ready 0 => failed w IoKind.writeZero.fault
      | .ready n => (true, w.setErrand d fun e => { e with work := .greeting (left.drop n) })
      | .fault f => failed w f
      | .waiting => (false, w)
  | _, _, _ => (false, w)

/-- A dial past the hub has come to its end; without a tunnel its connection goes. -/
def settleDial (w : World) (d : Nat) (outcome : DialEnd) : World :=
  let w := match outcome, (w.errands[d]?).bind Errand.link with
    | .failed _, some link => w.dropLink link
    | _, _ => w
  w.setErrand d fun e => { e with work := .idle, outcome := some outcome }

def reached (w : World) (d : Nat) (r : Except Failure Connection) : World :=
  match w.route, r with
  | .connect _, r => w.event d (.established d r)
  | _, .error f => w.settleDial d (.failed f)
  | .direct _, .ok _ => w.settleDial d .raw
  | .tls .., .ok c => w.settleDial d (.secured c.protocol)
  | .socks .., .ok _ => w.settleDial d .raw

def secure (w : World) (d : Nat) (e : Errand) (h : Tls.Handshake) (a : Address) (deadline : Nat) :
    Bool × World :=
  match e.link, e.link.bind (w.carriers[·]?) with
  | some link, some c =>
    let r := h.step w.now c
    let w := w.setCarrier link r.2
    match r.1 with
    | .next h => (true, w.setWork d (.securing h a deadline))
    | .done protocol => (true, w.setWork d (.reached (.ok ⟨link, protocol⟩)))
    | .failed reason =>
      let text := "TLS handshake with " ++ a.toText ++ " failed: " ++ reason
      (true, w.missed d (.connect .tls text))
    | .waiting =>
      if deadline ≤ w.now then
        (true, w.missed d (.connect .expiry ("TLS handshake with " ++ a.toText ++ " timed out")))
      else (false, w)
  | _, _ => (false, w)

def work (w : World) (d : Nat) (e : Errand) : Bool × World :=
  match e.work with
  | .idle =>
    if e.phase = .queued ∧ w.hub.gate.holder = some d then (true, w.event d (.turn d))
    else (false, w)
  | .dialing x begun protocol hello => w.goOn d e x begun protocol hello
  | .securing h a deadline => w.secure d e h a deadline
  | .reached r => (true, w.reached d r)
  | .calling plan call since =>
    match plan.outcome? w.now since with
    | none => (false, w)
    | some (.error f) => (true, w.event d (.established d (.error f)))
    | some (.ok r) =>
      let opened := w.openLink (r.far.open .local)
      let w := { opened.1 with calls := opened.1.calls.modify call fun c => (c.1, some opened.2) }
      (true, (w.setErrand d fun e => { e with link := some opened.2 }).event d
        (.established d (.ok ⟨opened.2, r.protocol⟩)))
  | .exchanging x =>
    match e.link.bind (w.carriers[·]?), e.link with
    | some c, some link =>
      let r := x.attend w.now c
      let w := w.setCarrier link r.2
      match r.1 with
      | .next x => (true, w.setErrand d fun e => { e with work := .exchanging x })
      | .waiting => (false, w)
      | .accepted _ rest =>
        (true, (w.setErrand d fun e => { e with rest := rest }).event d (.exchanged d (.ok ())))
      | .failed f => (true, w.event d (.exchanged d (.error f)))
    | _, _ => (false, w)
  | .building plan since =>
    match plan.outcome? w.now since with
    | none => (false, w)
    | some (.error f) => (true, w.event d (.connected d (.error f)))
    | some (.ok r) => (true, w.built d e.link (.scripted r.accepts r.trips))
  | .greeting left => w.greet d e left
  | .asking trip =>
    match w.outcome? trip with
    | none => (false, w)
    | some (.error f) => (true, w.event d (.answered d (.failed f)))
    | some (.ok status) =>
      let a : Answer := if status = 200 then .granted else .refused status
      (true, (w.answerTrip trip).event d (.answered d a))

def hubResult (w : World) (d : Nat) (e : Errand) : Option (DialEnd × Option Tunnel) :=
  match w.hub.phase? d with
  | some (.ended (.failed f)) => some (.failed f, none)
  | some (.ended .plain) => some (.plain e.rest, e.link.map (.plain e.rest))
  | some (.ended (.stream g)) =>
    match e.work with
    | .asking trip => some (.mux, some (.mux (.ofLease g) trip))
    | _ => some (.mux, none)
  | _ => none

def result (w : World) (d : Nat) : Option (DialEnd × Option Tunnel) :=
  match w.route, w.errands[d]? with
  | .connect _, some e => w.hubResult d e
  | _, some e => e.outcome.map fun
    | .raw => (.raw, e.link.map .raw)
    | .secured p => (.secured p, e.link.map (.plain []))
    | other => (other, none)
  | _, none => none

def isCancelled (w : World) (c : Caller) : Bool :=
  (match c.plan.token with
    | some t => w.tokens.contains t
    | none => false)
  || match c.plan.cancelAfter with
    | some n => c.start + n ≤ w.now
    | none => false

def arrive (w : World) (c : Caller) : World :=
  let d := w.errands.length
  let w := { w with errands := w.errands ++ [Errand.resting c.plan.network c.plan.target] }
  let cancelled := c.plan.token.any fun t => w.tokens.contains t
  match w.route with
  | .connect _ => w.event d (.arrive cancelled c.plan.request)
  | .tls o s => w.beginTls d o s c.plan.target
  | .direct o =>
    w.setWork d (.dialing (.start o none c.plan.network c.plan.target w.now cancelled) false "" none)
  | .socks p o =>
    w.setWork d
      (.dialing (.start o (some p) c.plan.network c.plan.target w.now cancelled) false "" none)

def heedsCancel (w : World) (e : Errand) : Bool :=
  match w.route with
  | .connect _ => e.phase.heedsCancel
  | .tls .. => false
  | _ => true

def cancelDial (w : World) (d : Nat) (work : Work) : World :=
  match w.route, work with
  | .connect _, _ => w.event d (.cancelled d)
  | _, .dialing x begun protocol hello =>
    w.setWork d (.dialing (x.step w.now .cancelled) begun protocol hello)
  | _, _ => w

def abandonDial (w : World) (d : Nat) : World :=
  match w.route with
  | .connect _ => w.event d (.abandoned d)
  | _ => w.settleDial d (.failed .cancelled)

def conclude (w : World) (c : Caller) (outcome : DialEnd) (tunnel : Option Tunnel) :
    Caller × World :=
  let w := match tunnel with
    | some t => w.keep c.plan.name t
    | none => w
  ({ c with outcome := some (outcome, w.now - c.start) }, w)

/-- The dial can do nothing more by itself: its deadline or that of its caller may have passed, or
it may have been cancelled. -/
def interrupt (w : World) (c : Caller) (d : Nat) (e : Errand) : Bool × Caller × World :=
  if e.phase.deadline?.any (· ≤ w.now) then (true, c, w.event d (.expired d))
  else if w.isCancelled c && w.heedsCancel e then (true, c, w.cancelDial d e.work)
  else if c.start + w.limit ≤ w.now then
    (true, { c with outcome := some (.pending, w.now - c.start) }, w.abandonDial d)
  else (false, c, w)

def advance (w : World) (c : Caller) : Bool × Caller × World :=
  if c.outcome.isSome ∨ w.now < c.start then (false, c, w)
  else
    match c.dial with
    | none => (true, { c with dial := some w.errands.length }, w.arrive c)
    | some d =>
      match w.result d with
      | some (outcome, tunnel) => (true, w.conclude c outcome tunnel)
      | none =>
        match w.errands[d]? with
        | none => (false, c, w)
        | some e =>
          match w.work d e with
          | (true, w) => (true, c, w)
          | (false, w) => w.interrupt c d e

def advanceAll : Nat → Bool → World → Caller → Bool × World × Caller
  | 0, moved, w, c => (moved, w, c)
  | n + 1, moved, w, c =>
    match w.advance c with
    | (true, c, w) => advanceAll n true w c
    | (false, c, w) => (moved, w, c)

def advanceEach (w : World) : List Caller → Bool × World × List Caller
  | [] => (false, w, [])
  | c :: cs =>
    let r := advanceAll 1000000 false w c
    let rest := advanceEach r.2.1 cs
    (r.1 || rest.1, rest.2.1, r.2.2 :: rest.2.2)

def incident (w : World) : Incident → World
  | .clearCache => { w with hub := w.hub.step w.now w.accepts .cleared }.carryOut
  | .setTransport t accepts trips =>
    { w with transports := w.transports.modify t fun x =>
        match x.engine with
        | .scripted a ts => { x with engine := .scripted (accepts.getD a) (trips.getD ts) }
        | _ => x }
  | .cancel token => { w with tokens := token :: w.tokens }

def dialWakes (w : World) (c : Caller) : List Nat :=
  if c.outcome.isSome then []
  else
    let own := [c.start, c.start + w.limit] ++ (c.plan.cancelAfter.map (c.start + ·)).toList
    match c.dial.bind (w.errands[·]?) with
    | none => own
    | some e =>
      let work := match e.work with
        | .calling plan _ since => [plan.wake since]
        | .building plan since => [plan.wake since]
        | .exchanging x => [x.deadline]
        | .dialing x .. => [x.deadline]
        | .securing _ _ deadline => [deadline]
        | _ => []
      own ++ e.phase.deadline?.toList ++ work

def runDials : Nat → World → List Caller → List (Nat × Incident) → World × List Caller
  | 0, w, cs, _ => (w, cs)
  | n + 1, w, cs, incidents =>
    let dialed := w.advanceEach cs
    let due := incidents.filter fun i => i.1 ≤ w.now
    let later := incidents.filter fun i => w.now < i.1
    let w := due.foldl (fun w i => w.incident i.2) dialed.2.1
    let stirred := w.stir
    if dialed.1 || !due.isEmpty || stirred.1 then runDials n stirred.2.settle dialed.2.2 later
    else if dialed.2.2.all (·.outcome.isSome) && later.isEmpty then (w, dialed.2.2)
    else
      let wakes := dialed.2.2.flatMap w.dialWakes ++ later.map (·.1)
      let next := { w with now := w.nextWakeOf (wakes ++ w.wakes) }
      if next.now = w.now then (w, dialed.2.2) else runDials n next dialed.2.2 later

def dial (w : World) (plans : List DialPlan) (incidents : List (Nat × Incident)) :
    World × List (DialEnd × Nat) :=
  let cs := plans.map fun p => ⟨p, w.now + p.after, none, none⟩
  let r := runDials 1000000 w cs (incidents.map fun i => (w.now + i.1, i.2))
  (r.1, r.2.map fun c => c.outcome.getD (.pending, 0))

def passUntil (target : Nat) : Nat → World → World
  | 0, w => w
  | n + 1, w =>
    let w := w.settle
    let next := w.nextWake target
    if next < target then passUntil target n { w with now := next } else { w with now := target }

def pass (w : World) (time : Nat) : World := passUntil (w.now + time) 1000000 w

def holdLease? (name : String) (w : World) : Option (Option World) :=
  match w.tunnel? name with
  | some (.mux m _) =>
    some (m.lease.map fun g =>
      let w := w.setPool (w.hub.pool.retain g)
      let old := (w.leases.find? (·.1 = name)).map (·.2)
      let w := { w with leases := (name, g) :: w.leases.filter (·.1 != name) }
      match old with
      | some g => w.setPool (w.hub.pool.release g)
      | none => w)
  | _ => none

def dropLease (name : String) (w : World) : Bool × World :=
  match w.leases.find? (·.1 = name) with
  | some (_, g) =>
    (true, { w with leases := w.leases.filter (·.1 != name) }.setPool (w.hub.pool.release g))
  | none => (false, w)

def dropDialer (w : World) : World := w.setPool w.hub.pool.clear

/-- Everything that is held is let go: tunnels, leases and the dialer. -/
def finish (w : World) : World :=
  let w := w.tunnels.foldl (fun w x => w.remove x.1) w
  let w := w.leases.foldl (fun w x => (w.dropLease x.1).2) w
  w.dropDialer.pass 1

end World

end TunnelDial.Rehearsal
