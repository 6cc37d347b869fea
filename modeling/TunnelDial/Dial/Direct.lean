import TunnelDial.Dial.Options

/-! Direct connections: which of the addresses of a host are to be tried, and what is done with a
socket for each of them. -/
namespace TunnelDial

inductive SocketAct
  | create
  | bindTo (ip : Ip)
  | bindDevice (name : String)
  | fastOpen
  | connect (target : Socket)
deriving DecidableEq, Repr

def SocketAct.phrase : SocketAct → String
  | create => "Failed to create socket"
  | bindTo ip => "Failed to bind " ++ ip.toText
  | bindDevice name => "Failed to bind device " ++ name
  | fastOpen => "Failed to set TCP Fast Open"
  | connect target => "Failed to connect to " ++ target.toText

def SocketAct.failure (a : SocketAct) (error : String) : Failure :=
  .connect .tcp (a.phrase ++ ": " ++ error)

namespace DirectOptions

def needsSetup (o : DirectOptions) : Bool := o.localIp.isSome || o.device.isSome || o.fastOpen

def fits (o : DirectOptions) (ip : Ip) : Bool :=
  match o.localIp with
  | some l => l.isV4 == ip.isV4
  | none => true

def acts (o : DirectOptions) (target : Socket) : List SocketAct :=
  if o.needsSetup then
    .create :: ((o.localIp.map .bindTo).toList ++ ((o.device.map .bindDevice).toList
      ++ ((if o.fastOpen then [.fastOpen] else []) ++ [.connect target])))
  else [.connect target]

def unresolved (host error : String) : Failure :=
  .connect .resolution ("failed to resolve " ++ host ++ ": " ++ error)

def unsuitable (n : Network) (a : Address) : Failure :=
  .connect .resolution ("no suitable address found for " ++ a.host ++ " on " ++ n.name)

/-- The first of some addresses that the network and the local address allow, and the others. -/
def suitable (o : DirectOptions) (n : Network) (a : Address) (ips : List Ip) :
    Except Failure (Ip × List Ip) :=
  match ips.filter fun ip => n.allows ip && o.fits ip with
  | [] => .error (unsuitable n a)
  | ip :: left => .ok (ip, left)

def located (o : DirectOptions) (n : Network) (a : Address) :
    Except String (List Ip) → Except Failure (Ip × List Ip)
  | .error e => .error (unresolved a.host e)
  | .ok ips => o.suitable n a ips

def timedOut (a : Address) : Failure :=
  .connect .expiry ("Connection to " ++ a.toText ++ " timed out")

end DirectOptions

end TunnelDial
