import TunnelDial.Address.Ip
import TunnelDial.Failure
import TunnelDial.Text.Blank

/-! Targets and proxies are named by a host and a port.  The host is kept without the brackets of
an IPv6 literal; printing puts them around every host that contains a colon. -/
namespace TunnelDial

open Text

structure Address where
  host : String
  port : UInt16
deriving DecidableEq, Repr

inductive AddressFault
  | missingPort
  | missingHost
  | manyColons
  | badPort
deriving DecidableEq, Repr

def AddressFault.phrase : AddressFault → String
  | missingPort => "missing port"
  | missingHost => "missing host"
  | manyColons => "too many colons"
  | badPort => "invalid port"

namespace Address

/-- The host without one pair of brackets around it. -/
def unbracket (host : List Char) : List Char :=
  match host with
  | '[' :: r =>
    match r.getLast? with
    | some ']' => r.dropLast
    | _ => host
  | _ => host

def ofHost (host : String) (port : UInt16) : Address :=
  ⟨String.ofList (unbracket host.toList), port⟩

def ofSocket (s : Socket) : Address := ⟨s.ip.toText, s.port⟩

/-- The address of a socket address, whose flow label and zone are not kept. -/
def ofSocketAddress (s : SocketAddress) : Address := ofSocket s.socket

/-- The address in a trimmed text: a socket address, else what stands before and after the last
colon. Colons inside the host need brackets. -/
def read (cs : List Char) : Except AddressFault Address :=
  match Socket.ofList? cs with
  | some s => .ok (ofSocket s)
  | none =>
    match cutLast? ':' cs with
    | none => .error .missingPort
    | some (host, port) =>
      if host = [] then .error .missingHost
      else if ':' ∈ host ∧ host.head? ≠ some '[' then .error .manyColons
      else
        match port? port with
        | none => .error .badPort
        | some p => .ok (ofHost (String.ofList host) p)

def parse (s : String) : Except AddressFault Address := read (trim s.toList)

def failure (fault : AddressFault) (s : String) : Failure :=
  .address (fault.phrase ++ " in " ++ String.ofList (trim s.toList))

def ofText (s : String) : Except Failure Address := (parse s).mapError fun f => failure f s

def toList (a : Address) : List Char :=
  if ':' ∈ a.host.toList then '[' :: (a.host.toList ++ ']' :: ':' :: decimal a.port.toNat)
  else a.host.toList ++ ':' :: decimal a.port.toNat

def toText (a : Address) : String := String.ofList a.toList

def ip? (a : Address) : Option Ip := Ip.ofList? a.host.toList

def socket? (a : Address) : Option Socket := a.ip?.map fun ip => ⟨ip, a.port⟩

def socketAddress? (a : Address) : Option SocketAddress := a.socket?.map .ofSocket

end Address

inductive Network
  | any
  | v4Only
  | v6Only
deriving DecidableEq, Repr, Inhabited

namespace Network

def name : Network → String
  | any => "tcp"
  | v4Only => "tcp4"
  | v6Only => "tcp6"

def folded (s : String) : String := String.ofList ((trim s.toList).map toSmall)

/-- The network of that name, in any case; else the name as it was understood. -/
def parse (s : String) : Except String Network :=
  if folded s = "tcp" then .ok any
  else if folded s = "tcp4" then .ok v4Only
  else if folded s = "tcp6" then .ok v6Only
  else .error (folded s)

def allows : Network → Ip → Bool
  | any, _ => true
  | v4Only, ip => ip.isV4
  | v6Only, ip => !ip.isV4

end Network

end TunnelDial
