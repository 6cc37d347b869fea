import TunnelDial.Rehearsal.Task

/-! What a caller may do with one tunnel, and what it is told. -/
namespace TunnelDial.Rehearsal

/-- A call on a tunnel; it may be `unclear` for a reason of the caller's. -/
inductive TunnelCall
  | unclear (reason : String)
  | task (t : Task)
  | closeRead
  | close
  | closeTransport
  | diagnostic
  | view
deriving Repr

inductive TunnelView
  | plain (replay : Bytes)
  | raw (ends : Option Ends)
  | mux (writeClosed readClosed : Bool) (lease : Option Pool.LeaseView)
deriving Repr

/-- The answer to a call; `notMux` says that only a multiplexed tunnel takes it. -/
inductive TunnelReply
  | unclear (reason : String)
  | ended (e : TaskEnd)
  | notMux
  | diagnostic (text : String)
  | view (v : TunnelView)
deriving Repr

namespace World

def leaseView (w : World) (g : Nat) : Pool.LeaseView := w.hub.pool.view w.accepts g

def endsOf? (w : World) (link : Nat) : Option Ends := (w.ends.find? (·.1 = link)).map (·.2)

def tunnelView (w : World) : Tunnel → TunnelView
  | .plain replay _ => .plain replay
  | .raw link => .raw (w.endsOf? link)
  | .mux m _ => .mux m.writeClosed m.readClosed (m.lease.map w.leaseView)

def tunnelDiagnostic (w : World) : Tunnel → String
  | .plain .. => "TunnelConn::Plain"
  | .raw link =>
    Text.applied "TunnelConn::Socks" (Text.optional ((w.endsOf? link).map (·.peer.toText)))
  | .mux .. => "TunnelConn::H2"

/-- A call that a multiplexed tunnel takes at once. -/
def orNotMux (w : World) : Option World → TunnelReply × World
  | some w => (.ended .done, w)
  | none => (.notMux, w)

def call (name : String) (t : Tunnel) (w : World) : TunnelCall → TunnelReply × World
  | .unclear reason => (.unclear reason, w)
  | .task job =>
    let r := w.perform name job
    (.ended r.1, r.2)
  | .closeRead => w.orNotMux (w.closeRead? name)
  | .close => w.orNotMux (w.close? name)
  | .closeTransport =>
    match w.closeUnderlying? name with
    | some (.ok _, w) => (.ended .done, w)
    | some (.error f, w) => (.ended (.fault f), w)
    | none => (.notMux, w)
  | .diagnostic => (.diagnostic (w.tunnelDiagnostic t), w)
  | .view => (.view (w.tunnelView t), w)

end World

end TunnelDial.Rehearsal
