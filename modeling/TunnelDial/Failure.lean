/-! Why a dial or a stream operation fails.  Stream errors carry the kind of the system error and a
text; dial failures carry their cause, from which kind, wording and retry class follow. -/
namespace TunnelDial

inductive IoKind
  | notFound
  | permissionDenied
  | connectionRefused
  | connectionReset
  | hostUnreachable
  | networkUnreachable
  | connectionAborted
  | notConnected
  | addrInUse
  | addrNotAvailable
  | networkDown
  | brokenPipe
  | alreadyExists
  | wouldBlock
  | invalidInput
  | invalidData
  | timedOut
  | writeZero
  | interrupted
  | unsupported
  | unexpectedEof
  | outOfMemory
  | other
deriving DecidableEq, Repr, Inhabited

namespace IoKind

def all : List IoKind :=
  [notFound, permissionDenied, connectionRefused, connectionReset, hostUnreachable,
   networkUnreachable, connectionAborted, notConnected, addrInUse, addrNotAvailable, networkDown,
   brokenPipe, alreadyExists, wouldBlock, invalidInput, invalidData, timedOut, writeZero,
   interrupted, unsupported, unexpectedEof, outOfMemory, other]

def name : IoKind → String
  | notFound => "NotFound"
  | permissionDenied => "PermissionDenied"
  | connectionRefused => "ConnectionRefused"
  | connectionReset => "ConnectionReset"
  | hostUnreachable => "HostUnreachable"
  | networkUnreachable => "NetworkUnreachable"
  | connectionAborted => "ConnectionAborted"
  | notConnected => "NotConnected"
  | addrInUse => "AddrInUse"
  | addrNotAvailable => "AddrNotAvailable"
  | networkDown => "NetworkDown"
  | brokenPipe => "BrokenPipe"
  | alreadyExists => "AlreadyExists"
  | wouldBlock => "WouldBlock"
  | invalidInput => "InvalidInput"
  | invalidData => "InvalidData"
  | timedOut => "TimedOut"
  | writeZero => "WriteZero"
  | interrupted => "Interrupted"
  | unsupported => "Unsupported"
  | unexpectedEof => "UnexpectedEof"
  | outOfMemory => "OutOfMemory"
  | other => "Other"

/-- The text of an error that has only its kind. -/
def phrase : IoKind → String
  | notFound => "entity not found"
  | permissionDenied => "permission denied"
  | connectionRefused => "connection refused"
  | connectionReset => "connection reset"
  | hostUnreachable => "host unreachable"
  | networkUnreachable => "network unreachable"
  | connectionAborted => "connection aborted"
  | notConnected => "not connected"
  | addrInUse => "address in use"
  | addrNotAvailable => "address not available"
  | networkDown => "network down"
  | brokenPipe => "broken pipe"
  | alreadyExists => "entity already exists"
  | wouldBlock => "operation would block"
  | invalidInput => "invalid input parameter"
  | invalidData => "invalid data"
  | timedOut => "timed out"
  | writeZero => "write zero"
  | interrupted => "operation interrupted"
  | unsupported => "unsupported"
  | unexpectedEof => "unexpected end of file"
  | outOfMemory => "out of memory"
  | other => "other error"

def named? (s : String) : Option IoKind := all.find? (·.name = s)

end IoKind

structure IoFault where
  kind : IoKind
  text : String
deriving DecidableEq, Repr

def IoKind.fault (k : IoKind) : IoFault := ⟨k, k.phrase⟩

inductive Stage
  | tcp
  | expiry
  | resolution
  | tls
  | http2
  | socks
deriving DecidableEq, Repr

def Stage.all : List Stage := [.tcp, .expiry, .resolution, .tls, .http2, .socks]

def Stage.name : Stage → String
  | tcp => "ConnectionFailed"
  | expiry => "Timeout"
  | resolution => "DnsFailed"
  | tls => "Tls"
  | http2 => "Http2"
  | socks => "Socks"

/-- Broad classes of failures, by which a caller decides whether to try again. -/
inductive FailureClass
  | config
  | transport
  | negotiation
  | rejected
  | cancelled
  | io
deriving DecidableEq, Repr

def FailureClass.name : FailureClass → String
  | config => "Config"
  | transport => "Transport"
  | negotiation => "Negotiation"
  | rejected => "ProxyRejected"
  | cancelled => "Cancelled"
  | io => "Io"

inductive Failure
  | proxyUrl (url reason : String)
  | scheme (name : String)
  | network (name : String)
  | address (reason : String)
  | config (reason : String)
  | connect (stage : Stage) (reason : String)
  | protocol (name : String)
  | rejected (status : String)
  | cancelled
  | io (fault : IoFault)
deriving DecidableEq, Repr

namespace Failure

def message : Failure → String
  | proxyUrl url reason => "Invalid proxy url `" ++ url ++ "`: " ++ reason
  | scheme name => "Scheme " ++ name ++ " is not supported"
  | network name => "Unsupported network: " ++ name
  | address reason => "Invalid address: " ++ reason
  | config reason => "Config error: " ++ reason
  | connect _ reason => "Connect error: " ++ reason
  | protocol name => "Negotiated unsupported application layer protocol: " ++ name
  | rejected status => "Proxy responded with non 200 code: " ++ status
  | cancelled => "Dial cancelled"
  | io fault => "IO error: " ++ fault.text

def sort : Failure → String
  | proxyUrl .. => "InvalidProxyUrl"
  | scheme _ => "UnsupportedScheme"
  | network _ => "UnsupportedNetwork"
  | address _ => "InvalidAddress"
  | config _ => "ConfigError"
  | connect .. => "ConnectError"
  | protocol _ => "UnsupportedProtocol"
  | rejected _ => "ProxyRejected"
  | cancelled => "Cancelled"
  | io _ => "IoError"

def kind : Failure → FailureClass
  | proxyUrl .. | scheme _ | network _ | address _ | config _ => .config
  | connect .. => .transport
  | protocol _ => .negotiation
  | rejected _ => .rejected
  | cancelled => .cancelled
  | io _ => .io

/-- A deadline passed, of the dialer or of the stream below it. -/
def isTimeout : Failure → Bool
  | connect stage _ => stage = .expiry
  | io fault => fault.kind = .timedOut
  | _ => false

def deadline (activity : String) : Failure :=
  .io ⟨.timedOut, "deadline exceeded while trying to " ++ activity ++ " proxy connection"⟩

end Failure

end TunnelDial
