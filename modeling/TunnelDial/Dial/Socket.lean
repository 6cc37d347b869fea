import TunnelDial.Dial.Direct
import TunnelDial.Dial.Socks

/-! Dials with a socket of their own, to the target or to a SOCKS proxy. The resolver names the
addresses of the host, unless that is an address itself, and they are tried one after the other, in
their order, until one takes the connection. A SOCKS5 proxy is then asked for the target in a
handshake: by an address, which the resolver has to name first, or by the host as it is. The way to
the host and the part with the proxy have the time limit for themselves, and while it waits a dial
can be cancelled. -/
namespace TunnelDial

/-- Where such a dial stands. It waits for the resolver, for an address that it tries, with those
left, for the resolver once more, for the proxy in the handshake, or it has ended at some instant.
-/
inductive SocketPhase
  | resolving
  | trying (ip : Ip) (left : List Ip)
  | locating (peer : Socket)
  | shaking (peer : Socket) (h : Socks.Handshake)
  | ended (r : Except Failure Socket) (time : Nat)
deriving Repr

/-- What comes to it from outside: the answers of the resolver, of an address that is tried and of
the connection, the end of its time, and a cancellation. -/
inductive SocketEvent
  | resolved (r : Except String (List Ip))
  | met (r : Except (SocketAct × String) Unit)
  | answered (r : StreamAnswer)
  | expired
  | cancelled
deriving Repr

/-- A dial to the target, or to a SOCKS proxy for it: until when it waits, where it stands, the
names for which it asked the resolver, the addresses that it tried, what it asks the proxy for, and
the bytes that the proxy was sent. -/
structure SocketDial where
  options : DirectOptions
  via : Option Proxy
  network : Network
  target : Address
  deadline : Nat
  phase : SocketPhase
  asked : List String
  tried : List Socket
  goal : Option Socks.Target
  sent : Bytes
deriving Repr

namespace SocketDial

def hop (x : SocketDial) : Address := x.via.elim x.target Proxy.address

def finish (now : Nat) (r : Except Failure Socket) (x : SocketDial) : SocketDial :=
  { x with phase := .ended r now }

def attempt (ip : Ip) (left : List Ip) (x : SocketDial) : SocketDial :=
  { x with phase := .trying ip left, tried := x.tried ++ [⟨ip, x.hop.port⟩] }

def approach (now : Nat) (x : SocketDial) : Except Failure (Ip × List Ip) → SocketDial
  | .error f => x.finish now (.error f)
  | .ok (ip, left) => x.attempt ip left

/-- A dial that begins; one that was cancelled before ends at once. -/
def start (o : DirectOptions) (via : Option Proxy) (n : Network) (a : Address) (now : Nat)
    (cancelled : Bool) : SocketDial :=
  let x : SocketDial := ⟨o, via, n, a, now + o.timeout, .resolving, [], [], none, []⟩
  if cancelled then x.finish now (.error .cancelled)
  else
    match x.hop.ip? with
    | some ip => x.approach now (o.suitable n x.hop [ip])
    | none => { x with asked := [x.hop.host] }

def greet (peer : Socket) (t : Socks.Target) (x : SocketDial) : SocketDial :=
  let h := Socks.Handshake.start (x.via.bind Proxy.credentials) t
  { x with phase := .shaking peer h, goal := some t }

/-- The proxy is asked for the first address of the target that suits. -/
def locate (now : Nat) (peer : Socket) (x : SocketDial) :
    Except Failure (Ip × List Ip) → SocketDial
  | .error f => x.finish now (.error f)
  | .ok (ip, _) => x.greet peer (.socket ⟨ip, x.target.port⟩)

def connected (now : Nat) (peer : Socket) (x : SocketDial) : SocketDial :=
  match x.via with
  | none => x.finish now (.ok peer)
  | some p =>
    let x := { x with deadline := now + x.options.timeout }
    if p.scheme = .socks5 then
      match x.target.ip? with
      | some ip => x.locate now peer (x.options.suitable x.network x.target [ip])
      | none => { x with phase := .locating peer, asked := x.asked ++ [x.target.host] }
    else
      match Socks.Target.ofAddress x.target with
      | .ok t => x.greet peer t
      | .error f => x.finish now (.error (Socks.failure x.target x.hop f))

/-- The address did not take the connection: the next one is tried, and after the last one its
failure is that of the dial. -/
def refused (now : Nat) (f : Failure) (x : SocketDial) : List Ip → SocketDial
  | [] => x.finish now (.error f)
  | ip :: left => x.attempt ip left

def shake (now : Nat) (peer : Socket) (h : Socks.Handshake) (r : StreamAnswer) (x : SocketDial) :
    SocketDial :=
  let x := { x with sent := x.sent ++ h.accepted r }
  match h.take r with
  | .next h => { x with phase := .shaking peer h }
  | .waiting => x
  | .done => x.finish now (.ok peer)
  | .failed f => x.finish now (.error (Socks.failure x.target x.hop f))

def overdue (x : SocketDial) : Failure :=
  match x.phase with
  | .locating _ => Socks.timedOut x.hop
  | .shaking .. => Socks.timedOut x.hop
  | _ => DirectOptions.timedOut x.hop

/-- One event. An event that does not fit the phase changes nothing. -/
def step (now : Nat) (x : SocketDial) (e : SocketEvent) : SocketDial :=
  match x.phase, e with
  | .ended .., _ => x
  | _, .cancelled => x.finish now (.error .cancelled)
  | _, .expired => if x.deadline ≤ now then x.finish now (.error x.overdue) else x
  | .resolving, .resolved r => x.approach now (x.options.located x.network x.hop r)
  | .trying ip _, .met (.ok _) => x.connected now ⟨ip, x.hop.port⟩
  | .trying _ left, .met (.error (act, text)) => x.refused now (act.failure text) left
  | .locating peer, .resolved r =>
    x.locate now peer (x.options.located x.network x.target r)
  | .shaking peer h, .answered r => x.shake now peer h r
  | _, _ => x

def after (x : SocketDial) (es : List (Nat × SocketEvent)) : SocketDial :=
  es.foldl (fun x e => x.step e.1 e.2) x

end SocketDial

end TunnelDial
