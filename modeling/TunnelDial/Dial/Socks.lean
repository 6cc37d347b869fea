import TunnelDial.Address.Basic
import TunnelDial.Failure
import TunnelDial.Proxy.Basic
import TunnelDial.Stream.Use

/-! The SOCKS5 handshake: the methods on offer, the credentials if they are asked for, the request
and the reply. Each message is written whole and each answer read whole before the next. -/
namespace TunnelDial

namespace Socks

inductive Fault
  | io (f : IoFault)
  | version
  | reserved
  | noMethod
  | needsCredentials
  | unknownMethod
  | credentials (code : UInt8)
  | refused (code : UInt8)
  | addressType
  | target (reason : String)
deriving DecidableEq, Repr

/-- The reply codes from one on. -/
def replyPhrases : List String :=
  ["General SOCKS server failure", "Connection not allowed by ruleset", "Network unreachable",
   "Host unreachable", "Connection refused", "TTL expired", "Command not supported",
   "Address type not supported"]

def Fault.phrase : Fault → String
  | io f => f.text
  | version => "Invalid response version"
  | reserved => "Invalid reserved byte"
  | noMethod => "No acceptable auth methods"
  | needsCredentials => "Authorization required"
  | unknownMethod => "Unknown auth method"
  | credentials code => "Password auth failure, code: " ++ toString code.toNat
  | refused code => replyPhrases.getD (code.toNat - 1) "Unknown auth method"
  | addressType => "Unknown address type"
  | target reason => "Target address is invalid: " ++ reason

inductive Target
  | socket (s : Socket)
  | name (host : String) (port : UInt16)
deriving DecidableEq, Repr

def nameLimit : Nat := 255

/-- The target for a host that the proxy resolves: an IP address stays one. -/
def Target.ofAddress (a : Address) : Except Fault Target :=
  match a.ip? with
  | some ip => .ok (.socket ⟨ip, a.port⟩)
  | none =>
    if nameLimit < a.host.utf8ByteSize then .error (.target "overlong domain")
    else .ok (.name a.host a.port)

def portBytes (p : UInt16) : Bytes := [UInt8.ofNat (p.toNat / 256), UInt8.ofNat (p.toNat % 256)]

def Target.bytes : Target → Bytes
  | .socket s => (if s.ip.isV4 then 1 else 4) :: (s.ip.toBytes ++ portBytes s.port)
  | .name host port =>
    3 :: UInt8.ofNat host.utf8ByteSize :: (Bytes.ofText host ++ portBytes port)

def offer (c : Option Credentials) : Bytes :=
  match c with
  | none => [5, 1, 0]
  | some _ => [5, 2, 0, 2]

def login (c : Credentials) : Bytes :=
  1 :: UInt8.ofNat c.username.utf8ByteSize :: (Bytes.ofText c.username
    ++ UInt8.ofNat c.password.utf8ByteSize :: Bytes.ofText c.password)

def request (t : Target) : Bytes := [5, 1, 0] ++ t.bytes

inductive Awaited
  | method
  | verdict
  | reply
  | nameLength
  | rest (size : Nat)
deriving DecidableEq, Repr

def Awaited.size : Awaited → Nat
  | method => 2
  | verdict => 2
  | reply => 4
  | nameLength => 1
  | rest size => size

/-- A handshake: what is left to be written, what is awaited then, and the bytes of it that came. -/
structure Handshake where
  credentials : Option Credentials
  target : Target
  unsent : Bytes
  awaited : Awaited
  got : Bytes
deriving DecidableEq, Repr

namespace Handshake

def start (c : Option Credentials) (t : Target) : Handshake := ⟨c, t, offer c, .method, []⟩

def say (h : Handshake) (message : Bytes) (a : Awaited) : Handshake :=
  { h with unsent := message, awaited := a, got := [] }

inductive Next
  | more (h : Handshake)
  | done
  | fault (f : Fault)
deriving Repr

def chosen (h : Handshake) (version method : UInt8) : Next :=
  if version ≠ 5 then .fault .version
  else if method = 0 then .more (h.say (request h.target) .reply)
  else if method = 255 then .fault .noMethod
  else if method = 2 then
    match h.credentials with
    | some c => .more (h.say (login c) .verdict)
    | none => .fault .needsCredentials
  else .fault .unknownMethod

def judged (h : Handshake) (version code : UInt8) : Next :=
  if version ≠ 1 then .fault .version
  else if code ≠ 0 then .fault (.credentials code)
  else .more (h.say (request h.target) .reply)

def replied (h : Handshake) (version code reserved kind : UInt8) : Next :=
  if version ≠ 5 then .fault .version
  else if code ≠ 0 then .fault (.refused code)
  else if reserved ≠ 0 then .fault .reserved
  else if kind = 1 then .more (h.say [] (.rest 6))
  else if kind = 4 then .more (h.say [] (.rest 18))
  else if kind = 3 then .more (h.say [] .nameLength)
  else .fault .addressType

def answer (h : Handshake) : Next :=
  match h.awaited, h.got with
  | .method, v :: m :: _ => h.chosen v m
  | .verdict, v :: c :: _ => h.judged v c
  | .reply, v :: c :: r :: k :: _ => h.replied v c r k
  | .nameLength, n :: _ => .more (h.say [] (.rest (n.toNat + 2)))
  | _, _ => .done

def early : IoFault := ⟨.unexpectedEof, "unexpected end of file"⟩

inductive Step
  | next (h : Handshake)
  | waiting
  | done
  | failed (f : Fault)
deriving Repr

def call (now : Nat) (h : Handshake) : StreamUse :=
  if h.unsent.isEmpty then .read now (h.awaited.size - h.got.length) else .write now h.unsent

def accepted (h : Handshake) : StreamAnswer → Bytes
  | .write r => RecordedStream.accepted h.unsent r
  | _ => []

/-- Further bytes of the awaited answer came; once it is whole it leads on. -/
def hear (h : Handshake) (bs : Bytes) : Step :=
  let h := { h with got := h.got ++ bs }
  if h.got.length < h.awaited.size then .next h
  else
    match h.answer with
    | .more h => .next h
    | .done => .done
    | .fault f => .failed f

/-- What the answer to the present call leads to; one to another call leads to nothing. -/
def take (h : Handshake) : StreamAnswer → Step
  | .write r =>
    if h.unsent.isEmpty then .waiting
    else
      match r with
      | .ready 0 => .failed (.io IoKind.writeZero.fault)
      | .ready n => .next { h with unsent := h.unsent.drop n }
      | .fault f => .failed (.io f)
      | .waiting => .waiting
  | .read r =>
    if !h.unsent.isEmpty then .waiting
    else
      match r with
      | .ready [] => .failed (.io early)
      | .ready bs => h.hear bs
      | .fault f => .failed (.io f)
      | .waiting => .waiting
  | _ => .waiting

end Handshake

def failure (a proxy : Address) (f : Fault) : Failure :=
  .connect .socks ("SOCKS5 connect to " ++ a.toText ++ " via " ++ proxy.toText ++ " failed: "
    ++ f.phrase)

def timedOut (proxy : Address) : Failure :=
  .connect .expiry ("SOCKS5 handshake with " ++ proxy.toText ++ " timed out")

end Socks

end TunnelDial
