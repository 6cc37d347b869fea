import TunnelDial.Rehearsal.World
import TunnelDial.Tunnel.Plain

/-! The calls on a tunnel of the world, by the name under which it is kept. -/
namespace TunnelDial.Rehearsal

namespace World

def tunnel? (w : World) (name : String) : Option Tunnel :=
  (w.tunnels.find? (·.1 = name)).map (·.2)

def setTunnel (w : World) (name : String) (t : Tunnel) : World :=
  { w with tunnels := w.tunnels.map fun x => if x.1 = name then (name, t) else x }

def closeMux (w : World) (m : MuxTunnel) (trip : Nat) : World × MuxTunnel :=
  match w.trips[trip]? with
  | none => (w, m)
  | some t =>
    let r := m.close t.channel w.hub.pool
    (((w.setTrip trip { t with channel := r.2.1 }).dropResponse trip).setPool r.2.2, r.1)

def dropTunnel (w : World) : Tunnel → World
  | .plain _ link => w.dropLink link
  | .raw link => w.dropLink link
  | .mux m trip => (w.closeMux m trip).1

def remove (w : World) (name : String) : World :=
  match w.tunnel? name with
  | some t => { w with tunnels := w.tunnels.filter (·.1 != name) }.dropTunnel t
  | none => w

def keep (w : World) (name : String) (t : Tunnel) : World :=
  let w := w.remove name
  { w with tunnels := w.tunnels ++ [(name, t)] }

def endWriting (w : World) (m : MuxTunnel) (trip : Nat) : World × MuxTunnel :=
  match w.trips[trip]? with
  | none => (w, m)
  | some t =>
    let r := m.closeWrite t.channel
    (w.setTrip trip { t with channel := r.2 }, r.1)

def endReading (w : World) (m : MuxTunnel) (trip : Nat) : World × MuxTunnel :=
  (w.dropResponse trip, m.closeRead)

def own? : Tunnel → Option (Bytes × Nat)
  | .plain replay link => some (replay, link)
  | .raw link => some ([], link)
  | .mux .. => none

def withReplay (replay : Bytes) : Tunnel → Tunnel
  | .plain _ link => .plain replay link
  | other => other

def onOwn {α : Type} (name : String) (t : Tunnel) (w : World) (absent : α)
    (call : PlainTunnel Carrier → Poll α × PlainTunnel Carrier) : Poll α × World :=
  match own? t with
  | none => (.ready absent, w)
  | some (replay, link) =>
    match w.carriers[link]? with
    | some c =>
      let r := call ⟨replay, c⟩
      (r.1, (w.setCarrier link r.2.inner).setTunnel name (withReplay r.2.replay t))
    | none => (.ready absent, w)

def read (room : Nat) (name : String) (w : World) : Poll Bytes × World :=
  match w.tunnel? name with
  | some (.mux m trip) => if m.readClosed then (.ready [], w) else w.readTrip room trip
  | some t => onOwn name t w [] (PlainTunnel.read w.now room)
  | none => (.ready [], w)

def write (bs : Bytes) (name : String) (w : World) : Poll Nat × World :=
  match w.tunnel? name with
  | some (.mux m trip) =>
    match w.trips[trip]? with
    | some t =>
      let r := m.write bs t.channel
      let w := w.setTrip trip { t with channel := r.2 }
      match r.1 with
      | .taken n => (.ready n, w)
      | .full => (.waiting, w)
      | .broken => (.fault MuxTunnel.closedWrite, w)
    | none => (.ready 0, w)
  | some t => onOwn name t w 0 (PlainTunnel.write w.now bs)
  | none => (.ready 0, w)

def flush (name : String) (w : World) : Poll Unit × World :=
  match w.tunnel? name with
  | some t => onOwn name t w () (PlainTunnel.flush w.now)
  | none => (.ready (), w)

def shutdown (name : String) (w : World) : Poll Unit × World :=
  match w.tunnel? name with
  | some (.mux m trip) =>
    let r := w.endWriting m trip
    (.ready (), r.1.setTunnel name (.mux r.2 trip))
  | some t => onOwn name t w () (PlainTunnel.shutdown w.now)
  | none => (.ready (), w)

def close? (name : String) (w : World) : Option World :=
  match w.tunnel? name with
  | some (.mux m trip) =>
    let r := w.closeMux m trip
    some (r.1.setTunnel name (.mux r.2 trip))
  | _ => none

def closeRead? (name : String) (w : World) : Option World :=
  match w.tunnel? name with
  | some (.mux m trip) =>
    let r := w.endReading m trip
    some (r.1.setTunnel name (.mux r.2 trip))
  | _ => none

def closeUnderlying? (name : String) (w : World) : Option (Except IoFault Unit × World) :=
  match w.tunnel? name with
  | some (.mux m trip) =>
    match w.trips[trip]? with
    | some t =>
      let r := m.closeTransport t.channel w.hub.pool
      match r.1 with
      | .ok _ =>
        let w := ((w.setTrip trip { t with channel := r.2.2.1 }).dropResponse trip).setPool r.2.2.2
        some (.ok (), w.setTunnel name (.mux r.2.1 trip))
      | .error f => some (.error f, w)
    | none => none
  | _ => none

/-- What a plain tunnel runs over is kept as a tunnel with nothing to replay. -/
def bare? (name : String) (w : World) : Option World :=
  match w.tunnel? name with
  | some (.plain _ link) => some (w.setTunnel name (.plain [] link))
  | _ => none

/-- The only tunnel is one over a scripted stream, with bytes to replay. -/
def withPlain (name : String) (replay : Bytes) (s : ScriptedStream) : World :=
  let r := (start (.start 0 false) [] .scripted []).openLink (.scripted s)
  r.1.keep name (.plain replay r.2)

/-- The only tunnel is a connected socket, whose peer follows a script. -/
def withPeer (name : String) (acts : List PeerAct) : World :=
  let r := (start (.start 0 false) [] .scripted []).openLink (FarPlan.open .system (.peer acts))
  r.1.keep name (.raw r.2)

/-- The only tunnel is a multiplexed one: it holds one of several leases, its request body is left
untouched, and its response is scripted. -/
def withMux (name : String) (leases : Nat) (reads : List Act) : World :=
  let w := start (.start 0 false) [] .scripted []
  let issued := w.hub.pool.issue 0
  let pool := (List.range leases).foldl (fun p _ => p.retain issued.2) issued.1
  let r : TripResult := ⟨200, .hold, reads, false⟩
  let trip := (Trip.start 0 (.plan (.instant r) 0)).answer r
  let w := { w with transports := [⟨none, .scripted true [], [], []⟩], trips := [trip] }
  (w.setPool issued.1 |>.setPool pool).keep name (.mux (.ofLease issued.2) 0)

def loseBody (trip : Nat) (w : World) : World :=
  { w with trips := w.trips.modify trip fun t =>
      { t with channel := t.channel.abandon, taker := .nobody } }

end World

end TunnelDial.Rehearsal
