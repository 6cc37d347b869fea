import TunnelDial.Dial.Socket

/-! A scripted machine: what its resolver knows, which addresses and devices its sockets may be
bound to, and what the connections to each address meet. Every attempt to connect is recorded. -/
namespace TunnelDial.Rehearsal

inductive Meeting (α : Type)
  | far (a : α)
  | error (text : String)
  | hang
deriving Repr

inductive HostEntry
  | ips (ips : List Ip)
  | tryAgain
deriving Repr

inductive Attempted (α : Type)
  | connected (a : α)
  | failed (act : SocketAct) (error : String)
  | hanging
deriving Repr

/-- An attempt to connect, and what its socket was bound to. -/
structure Attempt where
  target : Socket
  source : Option Ip
  device : Option String
  fastOpen : Bool
deriving Repr

/-- A machine; `remote` says that no connection leads anywhere and that any address may be bound. -/
structure Machine (α : Type) where
  meetings : List (Socket × List (Meeting α))
  hosts : List (String × HostEntry)
  localIps : List Ip
  devices : List String
  fastOpen : Bool
  ipv6 : Bool
  remote : Bool
  attempts : List Attempt
deriving Repr

namespace Machine

variable {α : Type}

def empty : Machine α := ⟨[], [], [], [], true, true, true, []⟩

def unreachable : String := "Network is unreachable (os error 101)"

def refused : String := "Connection refused (os error 111)"

def noRoute : String := "No route to host (os error 113)"

def expired : String := "Connection timed out (os error 110)"

def reset : String := "Connection reset by peer (os error 104)"

def denied : String := "Permission denied (os error 13)"

def noFamily : String := "Address family not supported by protocol (os error 97)"

def noAddress : String := "Cannot assign requested address (os error 99)"

def noDevice : String := "No such device (os error 19)"

def noOption : String := "Protocol not available (os error 92)"

def lookup (m : Machine α) (name : String) : Except String (List Ip) :=
  let failed := fun (why : String) => Except.error ("failed to lookup address information: " ++ why)
  if name.toList.contains (Char.ofNat 0) then
    .error "file name contained an unexpected NUL byte"
  else
    match m.hosts.find? (·.1 = name) with
    | some (_, .ips ips) => .ok ips
    | some (_, .tryAgain) => failed "Temporary failure in name resolution"
    | none =>
      if name = "localhost" then .ok [.v4 ⟨127, 0, 0, 1⟩] else failed "Name or service not known"

def hasAddress (m : Machine α) (ip : Ip) : Bool :=
  m.remote || ip.isLoopback || ip.isUnspecified || m.localIps.contains ip

/-- A socket may be bound to the device; the empty name takes the binding away. -/
def hasDevice (m : Machine α) (name : String) : Bool :=
  name.isEmpty || name = "lo" || m.devices.contains name

def meet (m : Machine α) (target : Socket) : Meeting α × Machine α :=
  if m.remote then (.error unreachable, m)
  else
    match m.meetings.find? (·.1 = target) with
    | some (_, next :: rest) =>
      (next, { m with
        meetings := m.meetings.map fun x => if x.1 = target then (target, rest) else x })
    | _ => (.error refused, m)

structure Setup where
  source : Option Ip
  device : Option String
  fastOpen : Bool

def prepare (m : Machine α) (v4 : Bool) (s : Setup) : SocketAct → Except String Setup
  | .create => if v4 || m.ipv6 then .ok s else .error noFamily
  | .bindTo ip => if m.hasAddress ip then .ok { s with source := some ip } else .error noAddress
  | .bindDevice name =>
    if m.hasDevice name then .ok { s with device := if name.isEmpty then none else some name }
    else .error noDevice
  | .fastOpen => if m.fastOpen then .ok { s with fastOpen := true } else .error noOption
  | .connect _ => .ok s

def perform (m : Machine α) (target : Socket) : List SocketAct → Setup →
    Attempted (α × Option Ip) × Machine α
  | [], _ => (.hanging, m)
  | .connect t :: _, s =>
    if !(t.ip.isV4 || m.ipv6) then (.failed (.connect t) noFamily, m)
    else
      let r := m.meet target
      let m := { r.2 with attempts := m.attempts ++ [⟨target, s.source, s.device, s.fastOpen⟩] }
      match r.1 with
      | .far a => (.connected (a, s.source), m)
      | .error text => (.failed (.connect t) text, m)
      | .hang => (.hanging, m)
  | act :: acts, s =>
    match m.prepare target.ip.isV4 s act with
    | .ok s => m.perform target acts s
    | .error text => (.failed act text, m)

/-- What the machine says to what a dial waits for, with what is at the far end of a connection; it
may never answer. -/
def reply (m : Machine α) (x : SocketDial) : Option (SocketEvent × Option (α × Option Ip)) ×
    Machine α :=
  match x.phase with
  | .resolving => (some (.resolved (m.lookup x.hop.host), none), m)
  | .locating _ => (some (.resolved (m.lookup x.target.host), none), m)
  | .trying ip _ =>
    let target : Socket := ⟨ip, x.hop.port⟩
    match m.perform target (x.options.acts target) ⟨none, none, false⟩ with
    | (.connected far, m) => (some (.met (.ok ()), some far), m)
    | (.failed act text, m) => (some (.met (.error (act, text)), none), m)
    | (.hanging, m) => (none, m)
  | _ => (none, m)

def nearIp (target : Socket) (source : Option Ip) : Ip :=
  match source with
  | some ip => if ip.isUnspecified then target.ip.loopback else ip
  | none => target.ip.loopback

end Machine

end TunnelDial.Rehearsal
