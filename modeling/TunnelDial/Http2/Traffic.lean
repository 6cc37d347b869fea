import TunnelDial.Http2.Downloads

/-! The exchanges on one client, and the slots that these take. A round trip takes a slot when it
begins and shares it with what sends its request body on; the response takes over the share of the
round trip. Whoever of them leaves last gives the slot back. Exchanges and connection go on at their
own pace; a run is the list of what happened, in any order. -/
namespace TunnelDial.Http2

/-- How far a round trip came: it waits until the connection takes requests, or for its answer; or
it was answered, failed, or was given up by its caller. -/
inductive TripStage
  | readying (r : ConnectRequest)
  | awaiting
  | answered (status : Nat)
  | failed (f : Failure)
  | dropped
deriving Repr

namespace TripStage

def isReadying : TripStage → Bool
  | readying _ => true
  | _ => false

def isAwaiting : TripStage → Bool
  | awaiting => true
  | _ => false

def isUnderWay (s : TripStage) : Bool := s.isReadying || s.isAwaiting

end TripStage

/-- One exchange: its round trip and the number of its stream, once that is open; its request body,
of which a chunk may be in hand, and whether that is sent on; whether its response is held, of which
a piece may be left; and how many share its slot. -/
structure Exchange where
  stage : TripStage
  stream : Option Nat
  channel : Channel
  hand : Bytes
  pumping : Bool
  held : Bool
  left : Bytes
  sharers : Nat
deriving Repr

namespace Exchange

def begun (r : ConnectRequest) : Exchange := ⟨.readying r, none, .fresh, [], false, false, [], 1⟩

/-- Something of the exchange goes on: its round trip, its request body or its response. -/
def isOccupied (x : Exchange) : Bool := x.stage.isUnderWay || x.held || x.pumping

end Exchange

/-- One thing that happens to an exchange. Its round trip goes on from the connection being ready or
from the answer, or is given up; its request body is written, ended or sent on; its response is read
or let go. -/
inductive ExchangeEvent
  | ready
  | answer
  | giveUp
  | write (bs : Bytes)
  | closeWrite
  | pump
  | read (room : Nat)
  | letGo

inductive TrafficEvent
  | enter (r : ConnectRequest)
  | exchange (k : Nat) (e : ExchangeEvent)
  | connection (e : ClientEvent)
  | close

def ClientEvent.isDriven : ClientEvent → Bool
  | heard _ | ended | broken _ | idle | rendered | written _ | stopped => true
  | request _ | pump _ _ _ | drop _ | close => false

namespace Client

def lossBy? (c : Client) (e : ClientEvent) : Option Cause :=
  if (c.after e).alive then none
  else
    match e with
    | .broken f => some (.io f)
    | _ => some ((c.after e).core.farewell.getD .brokenConnection)

def isPumped (id : Nat) (c : Client) : Bool := ((c.core.stream? id).map (·.writing)).getD false

end Client

namespace Endpoint

/-- The settings that the frames tell. A frame between the parts of a head tells none. -/
def toldBy (log : Log) : List (List Setting) :=
  log.flatMap fun x =>
    match x.1.partialHead, x.2 with
    | none, .settings values => [values]
    | _, _ => []

def limitsOf (values : List Setting) : List Nat :=
  values.filterMap fun s => if s.id = 3 then some s.value else none

/-- How many streams the other side allows at once, by the settings that it told: the last one that
they name. Before they come there is a limit anyway; if they name none, there is none. -/
def allowed (told : List (List Setting)) : Option Nat :=
  if told.isEmpty then some firstLimit else (limitsOf told.flatten).getLast?

end Endpoint

/-- A client, why its connection is gone, the frames that came, the exchanges in the order in which
they began, and how many slots are taken. -/
structure Traffic where
  client : Client
  lost : Option Cause
  heard : Log
  exchanges : List Exchange
  taken : Int
deriving Repr

namespace Traffic

def start (window : Option Nat) : Traffic := ⟨.start window, none, [], [], 0⟩

def accepts (t : Traffic) : Bool :=
  !t.client.closed && t.client.alive && match t.client.core.limit with
    | some n => t.taken < n
    | none => true

def enter (r : ConnectRequest) (t : Traffic) : Except Failure Unit × Traffic :=
  if t.client.closed then (.error (Client.failure "HTTP/2 transport is closed"), t)
  else (.ok (), { t with exchanges := t.exchanges ++ [.begun r], taken := t.taken + 1 })

def dispatch (r : ConnectRequest) (t : Traffic) : Except Failure (Client × Nat) :=
  match t.lost with
  | some cause => .error (Client.failure ("HTTP/2 connection not ready: " ++ cause.text))
  | none => t.client.request r

def put (k : Nat) (x : Exchange) (t : Traffic) : Traffic :=
  { t with exchanges := t.exchanges.set k x }

/-- One of those who share the slot of an exchange leaves. The last one gives the slot back. -/
def leave (k : Nat) (x : Exchange) (t : Traffic) : Traffic :=
  let sharers := x.sharers - 1
  { t with
    exchanges := t.exchanges.set k { x with sharers := sharers }
    taken := if sharers = 0 then t.taken - 1 else t.taken }

def unread (id : Nat) (t : Traffic) : Traffic := { t with client := t.client.dropReading id }

/-- The connection is ready, or it is not: the request is sent on a stream, and its body from now
on by a sharer of the slot, or the round trip fails. -/
def ready (k : Nat) (x : Exchange) (t : Traffic) : Traffic :=
  match x.stage with
  | .readying r =>
    match t.dispatch r with
    | .error f => t.leave k { x with stage := .failed f, channel := x.channel.abandon }
    | .ok (c, id) =>
      { t with client := c }.put k
        { x with
          stage := .awaiting
          stream := some id
          pumping := true
          sharers := x.sharers + 1 }
  | _ => t

/-- The answer came, or it did not come yet. A response takes over the share of the round trip. -/
def answer (k : Nat) (x : Exchange) (t : Traffic) : Traffic :=
  match x.stage, x.stream with
  | .awaiting, some id =>
    match t.client.answer? id with
    | none => t
    | some (.ok n) => t.put k { x with stage := .answered n, held := true }
    | some (.error f) => (t.unread id).leave k { x with stage := .failed f }
  | _, _ => t

def giveUp (k : Nat) (x : Exchange) (t : Traffic) : Traffic :=
  match x.stage, x.stream with
  | .readying _, _ => t.leave k { x with stage := .dropped, channel := x.channel.abandon }
  | .awaiting, some id => (t.unread id).leave k { x with stage := .dropped }
  | _, _ => t

def pump (k : Nat) (x : Exchange) (t : Traffic) : Traffic :=
  match x.pumping, x.stream with
  | true, some id =>
    let r := t.client.pump id x.hand x.channel
    let x := { x with hand := r.2.1, channel := r.2.2.1 }
    let t := { t with client := r.2.2.2 }
    if t.client.isPumped id then t.put k x else t.leave k { x with pumping := false }
  | _, _ => t

def read (k room : Nat) (x : Exchange) (t : Traffic) : Traffic :=
  match x.held, x.stream with
  | true, some id =>
    let r := t.client.read id room x.left
    { t with client := r.2.2 }.put k { x with left := r.2.1 }
  | _, _ => t

def letGo (k : Nat) (x : Exchange) (t : Traffic) : Traffic :=
  match x.held, x.stream with
  | true, some id => (t.unread id).leave k { x with held := false, left := [] }
  | _, _ => t

def act (k : Nat) (x : Exchange) (t : Traffic) : ExchangeEvent → Traffic
  | .ready => t.ready k x
  | .answer => t.answer k x
  | .giveUp => t.giveUp k x
  | .write bs => t.put k { x with channel := (x.channel.offer bs).2 }
  | .closeWrite => t.put k { x with channel := x.channel.close }
  | .pump => t.pump k x
  | .read room => t.read k room x
  | .letGo => t.letGo k x

def drive (e : ClientEvent) (t : Traffic) : Traffic :=
  { t with
    client := t.client.after e
    lost := t.lost.or (t.client.lossBy? e)
    heard := t.heard ++ t.client.framesOf e }

/-- One event. What happens to an exchange that is not there, or by a connection that is gone,
changes nothing. -/
def step (t : Traffic) : TrafficEvent → Traffic
  | .enter r => (t.enter r).2
  | .exchange k e =>
    match t.exchanges[k]? with
    | some x => t.act k x e
    | none => t
  | .connection e => if e.isDriven && t.client.alive then t.drive e else t
  | .close => t.drive .close

def after (t : Traffic) (es : List TrafficEvent) : Traffic := es.foldl step t

def run (window : Option Nat) (es : List TrafficEvent) : Traffic := (start window).after es

def occupied (t : Traffic) : Nat := t.exchanges.countP Exchange.isOccupied

def unsent (t : Traffic) : Nat := t.exchanges.countP (·.stage.isReadying)

end Traffic

end TunnelDial.Http2
