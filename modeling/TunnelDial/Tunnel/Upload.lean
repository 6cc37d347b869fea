import TunnelDial.Tunnel.Mux
import TunnelDial.Tunnel.Pump

/-! The way of a tunnel's bytes to the proxy: from its caller through the channel to the pump, from
there to the connection, and with that to the proxy. Caller, pump and connection work at their own
pace, and other holders of the transport come and go; a run is the list of what happened, in any
order. -/
namespace TunnelDial

inductive Piece
  | data (bs : Bytes)
  | last
deriving DecidableEq, Repr

def Piece.bytes : Piece → Bytes
  | data bs => bs
  | last => []

/-- The bytes under way between caller and connection: the channel and the pump, all bytes that were
accepted from the caller so far, and all that was sent on the stream. -/
structure Feed where
  channel : Channel
  pump : Pump
  accepted : Bytes
  sent : List Piece
deriving DecidableEq, Repr

/-- A tunnel with its bytes under way, the leases on its transport, how many of these others hold,
and how many pieces came to the proxy. -/
structure Upload where
  mux : MuxTunnel
  feed : Feed
  pool : Pool
  others : Nat
  arrived : Nat
deriving DecidableEq, Repr

/-- One thing that happens on the way. A tunnel that is dropped closes by that. -/
inductive UploadEvent
  | write (bs : Bytes)
  | closeWrite
  | closeRead
  | close
  | closeTransport
  | joined
  | parted
  | received
  | granted (n : Nat)
  | halted
  | carried
deriving DecidableEq, Repr

/-- The number of bytes that were taken. -/
def Offer.size : Offer → Nat
  | taken n => n
  | full => 0
  | broken => 0

namespace Feed

def start : Feed := ⟨.fresh, .start, [], []⟩

def write (t : MuxTunnel) (bs : Bytes) (f : Feed) : Feed :=
  let r := t.write bs f.channel
  { f with channel := r.2, accepted := f.accepted ++ bs.take r.1.size }

/-- The pump, with nothing in hand, turns to the channel; `severed` says that the connection is cut
off. -/
def receive (severed : Bool) (f : Feed) : Feed :=
  if f.pump.running && f.pump.hand.isEmpty then
    let r := f.pump.receive f.channel
    let last : List Piece := if r.1 = .ended && !severed then [.last] else []
    { f with channel := r.2.2, pump := r.2.1, sent := f.sent ++ last }
  else f

def grant (n : Nat) (f : Feed) : Feed :=
  let r := f.pump.grant n
  let now : List Piece := if r.1.isEmpty then [] else [.data r.1]
  { f with pump := r.2, sent := f.sent ++ now }

def halt (f : Feed) : Feed :=
  if f.pump.running then
    let r := Pump.halt f.channel
    { f with channel := r.2, pump := r.1 }
  else f

def sentBytes (f : Feed) : Bytes := f.sent.flatMap Piece.bytes

end Feed

namespace Upload

def start (others : Nat) : Upload :=
  let p := (Pool.empty.issue 0).1
  ⟨.ofLease 0, .start, Nat.repeat (·.retain 0) others p, others, 0⟩

/-- The transport was closed, and its connection cut off by that. -/
def severed (u : Upload) : Bool := u.pool.ledger.isClosed 0

def step (u : Upload) : UploadEvent → Upload
  | .write bs => { u with feed := u.feed.write u.mux bs }
  | .closeWrite =>
    let r := u.mux.closeWrite u.feed.channel
    { u with mux := r.1, feed := { u.feed with channel := r.2 } }
  | .closeRead => { u with mux := u.mux.closeRead }
  | .close =>
    let r := u.mux.close u.feed.channel u.pool
    { u with mux := r.1, feed := { u.feed with channel := r.2.1 }, pool := r.2.2 }
  | .closeTransport =>
    let r := (u.mux.closeTransport u.feed.channel u.pool).2
    { u with mux := r.1, feed := { u.feed with channel := r.2.1 }, pool := r.2.2 }
  | .joined =>
    if u.mux.lease.isSome || 0 < u.others then
      { u with pool := u.pool.retain 0, others := u.others + 1 }
    else u
  | .parted =>
    if 0 < u.others then { u with pool := u.pool.release 0, others := u.others - 1 } else u
  | .received => { u with feed := u.feed.receive u.severed }
  | .granted n => if u.severed then u else { u with feed := u.feed.grant n }
  | .halted => { u with feed := u.feed.halt }
  | .carried =>
    if !u.severed && u.arrived < u.feed.sent.length then { u with arrived := u.arrived + 1 } else u

def after (u : Upload) (es : List UploadEvent) : Upload := es.foldl step u

def run (others : Nat) (es : List UploadEvent) : Upload := (start others).after es

/-- What came to the proxy. -/
def got (u : Upload) : List Piece := u.feed.sent.take u.arrived

/-- All that was accepted came to the proxy, and the end of the stream after it. -/
def isComplete (u : Upload) : Bool :=
  u.got.flatMap Piece.bytes == u.feed.accepted && u.got.getLast? == some .last

end Upload

end TunnelDial
