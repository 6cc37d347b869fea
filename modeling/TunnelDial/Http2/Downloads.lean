import TunnelDial.Http2.Client
import Mathlib.Algebra.GroupWithZero.Nat
import Mathlib.Logic.Function.Basic

/-! The responses that are read from the streams of one client, in between all that happens to the
client, and what came on each stream meanwhile. -/
namespace TunnelDial.Http2

/-- The frames that came, each with the endpoint as it was. -/
abbrev Log := List (Endpoint × Frame)

namespace Frame

def dataOn (id : Nat) : Frame → List Bytes
  | data i bs _ => if i = id then [bs] else []
  | _ => []

/-- The frame takes a stream away although nothing went wrong. -/
def excuses (id : Nat) : Frame → Bool
  | reset i r => i = id && r = .noError
  | goAway last r _ => last < id && r = .noError
  | _ => false

end Frame

namespace Endpoint

/-- The frame is the last one that the other side sends on a stream. A head that comes in parts says
so at its first part. -/
def endsOn (e : Endpoint) (id : Nat) : Frame → Bool
  | .data i _ last => e.partialHead.isNone && i = id && last
  | .headers i _ last whole => e.partialHead.isNone && i = id && last && whole
  | .continuation i _ whole =>
    match e.partialHead with
    | some (j, last, _) => i = j && j = id && last && whole
    | none => false
  | _ => false

/-- The stream is open for data, and these are within both windows. -/
def takes (e : Endpoint) (s : Stream) (bs : Bytes) : Bool :=
  e.partialHead.isNone && s.failure.isNone && s.headed && !s.recvEnded && s.reading
    && bs.length ≤ e.recv.room && bs.length ≤ s.recv.room

def gain (e : Endpoint) (s : Stream) (f : Frame) : List Bytes := (f.dataOn s.id).filter (e.takes s)

def framesIn : Nat → Endpoint → Log
  | 0, _ => []
  | n + 1, e =>
    if e.closing then []
    else
      match Frame.next e.input with
      | .frame f rest =>
        ({ e with input := rest }, f) :: framesIn n ({ e with input := rest }.receive f)
      | _ => []

def framesOf (e : Endpoint) (bs : Bytes) : Log :=
  framesIn ((e.input ++ bs).length + 1) { e with input := e.input ++ bs }

/-- The data of the frames on a stream, up to the last one of the stream. -/
def dataUntilEnd (id : Nat) : Log → List Bytes
  | [] => []
  | (e, f) :: log => f.dataOn id ++ if e.endsOn id f then [] else dataUntilEnd id log

def gained (id : Nat) (log : Log) : List Bytes :=
  log.flatMap fun x => ((x.1.stream? id).map (x.1.gain · x.2)).getD []

def pending (e : Endpoint) : Nat := (e.streams.map (·.inbox.flatten.length)).sum

end Endpoint

inductive ClientEvent
  | heard (bs : Bytes)
  | ended
  | broken (f : IoFault)
  | idle
  | rendered
  | written (n : Nat)
  | stopped
  | request (r : ConnectRequest)
  | pump (id : Nat) (hand : Bytes) (channel : Channel)
  | drop (id : Nat)
  | close

namespace Client

def after (c : Client) : ClientEvent → Client
  | .heard bs => { c with core := c.core.feed bs }
  | .ended => { c with core := c.core.end_, alive := false }
  | .broken f => { c with core := c.core.failAll (.io f), alive := false }
  | .idle => c.leaveIfIdle
  | .rendered => { c with core := c.core.render }
  | .written n => { c with core := { c.core with output := c.core.output.drop n } }
  | .stopped => { c with alive := false }
  | .request r =>
    match c.request r with
    | .ok (c, _) => c
    | .error _ => c
  | .pump id hand channel => (pump id hand channel c).2.2.2
  | .drop id => c.dropReading id
  | .close => c.close

def run (c : Client) (events : List ClientEvent) : Client := events.foldl after c

def framesOf (c : Client) : ClientEvent → Log
  | .heard bs => c.core.framesOf bs
  | _ => []

end Client

inductive DownloadEvent
  | client (e : ClientEvent)
  | read (id room : Nat)

/-- A client whose responses are read. For each stream there is the rest of the data in hand, all
that the reads gave, and the frames that came to the client since the stream was opened. -/
structure Downloads where
  client : Client
  left : Nat → Bytes
  given : Nat → Bytes
  log : Nat → Log

namespace Downloads

def start (window : Option Nat) : Downloads :=
  ⟨.start window, fun _ => [], fun _ => [], fun _ => []⟩

def read (d : Downloads) (id room : Nat) : Poll Bytes × Bytes × Client :=
  d.client.read id room (d.left id)

def bytesOf : Poll Bytes → Bytes
  | .ready bs => bs
  | _ => []

def after (d : Downloads) : DownloadEvent → Downloads
  | .client e =>
    { d with
      client := d.client.after e
      log := fun id => d.log id ++
        if id < d.client.core.nextId then d.client.framesOf e else [] }
  | .read id room =>
    let r := d.read id room
    { d with
      client := r.2.2
      left := Function.update d.left id r.2.1
      given := Function.update d.given id (d.given id ++ bytesOf r.1) }

def run (d : Downloads) (events : List DownloadEvent) : Downloads := events.foldl after d

def came (d : Downloads) (id : Nat) : List Bytes := Endpoint.gained id (d.log id)

end Downloads

end TunnelDial.Http2
