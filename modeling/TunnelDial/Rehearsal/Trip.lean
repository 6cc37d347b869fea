import TunnelDial.Rehearsal.Plan
import TunnelDial.Stream.Script
import TunnelDial.Tunnel.Channel

/-! Round trips on a scripted transport: a request is answered by a status, and what becomes of its
body and where the response comes from depends on the mode of the answer. -/
namespace TunnelDial.Rehearsal

/-- What is done with the request body, and where the response body comes from. -/
inductive TripMode
  | echo
  | sink
  | hold
  | lose
deriving DecidableEq, Repr

/-- The answer of a round trip: its status, its mode, the script of the response body (an echo has
none), and whether its diagnostic form is asked for. -/
structure TripResult where
  status : Nat
  mode : TripMode
  reads : List Act
  shown : Bool
deriving Repr

def TripResult.granted : TripResult := ⟨200, .echo, [], false⟩

abbrev TripPlan := Plan TripResult

/-- How the answer to a request comes about: by a plan, by a failure before anything was sent, or
on a stream of an HTTP/2 connection. -/
inductive TripSource
  | plan (p : TripPlan) (since : Nat)
  | refused (f : Failure)
  | stream (id : Nat)
deriving Repr

inductive Taker
  | caller
  | pump
  | echo
  | sink
  | holder
  | nobody
deriving DecidableEq, Repr

/-- One round trip: its request body, of which a chunk may be in hand, and the response body, of
which a piece may be left. -/
structure Trip where
  transport : Nat
  source : TripSource
  channel : Channel
  taker : Taker
  hand : Bytes
  response : Script
  left : Bytes
  sunk : List Bytes
  dropped : Bool
deriving Repr

namespace Trip

def start (transport : Nat) (source : TripSource) : Trip :=
  let taker := match source with
    | .stream _ => .pump
    | _ => .caller
  ⟨transport, source, .fresh, taker, [], .ofActs [], [], [], false⟩

def answer (t : Trip) (r : TripResult) : Trip :=
  let t := { t with response := .ofActs r.reads }
  match r.mode with
  | .echo => { t with taker := .echo }
  | .sink => { t with taker := .sink }
  | .hold => { t with taker := .holder }
  | .lose => { t with taker := .nobody, channel := t.channel.abandon }

def drain (t : Trip) : Trip :=
  if t.taker = .sink then
    { t with sunk := t.sunk ++ t.channel.chunks, channel := { t.channel with chunks := [] } }
  else t

/-- Reads the response; an echo gives one chunk at a time. -/
def read (now room : Nat) (t : Trip) : Poll Bytes × Trip :=
  if t.dropped then (.ready [], t)
  else if t.taker = .echo then
    if room = 0 then (.ready [], t)
    else if !t.left.isEmpty then (.ready (t.left.take room), { t with left := t.left.drop room })
    else
      let r := t.channel.receive
      match r.1 with
      | .chunk bs => (.ready (bs.take room), { t with channel := r.2, left := bs.drop room })
      | .ended => (.ready [], t)
      | .nothing => (.waiting, t)
  else
    let r := t.response.read now room
    (r.1, { t with response := r.2 })

/-- The response is read no further; an echo then takes no more chunks either. -/
def dropResponse (t : Trip) : Trip :=
  if t.dropped then t
  else if t.taker = .echo then { t with dropped := true, channel := t.channel.abandon }
  else { t with dropped := true }

/-- The request is given up: its body ends and its answer is read no further. -/
def abandon (t : Trip) : Trip :=
  let t := if t.taker = .caller then { t with channel := t.channel.abandon } else t
  { t with channel := t.channel.close }.dropResponse

def wake? (t : Trip) : Option Nat :=
  match t.taker, t.source with
  | .caller, .plan p since => some (p.wake since)
  | _, _ => t.response.wake?

def shown? (t : Trip) : Option Nat :=
  match t.source with
  | .plan p _ => if p.result.shown && t.taker != .caller then some p.result.status else none
  | _ => none

end Trip

end TunnelDial.Rehearsal
