import TunnelDial.Address.Basic
import TunnelDial.Proxy.Basic

/-! What a caller may set: the options of a direct connection, those of a dialer, and those of one
dial. -/
namespace TunnelDial

open Text

/-- The time limit of a dial without other options, in milliseconds. -/
def defaultTimeout : Nat := 10000

structure DirectOptions where
  timeout : Nat
  localIp : Option Ip
  device : Option String
  fastOpen : Bool
deriving DecidableEq, Repr

namespace DirectOptions

def standard : DirectOptions := ⟨defaultTimeout, none, none, false⟩

/-- What the options forbid: two kinds of binding at once, and no time at all. -/
def check (o : DirectOptions) : Except Failure Unit :=
  if o.device.isSome ∧ o.localIp.isSome then
    .error (.config "bind_device is mutually exclusive with local_addr")
  else if o.timeout = 0 then .error (.config "timeout must be greater than zero")
  else .ok ()

/-- A time in its diagnostic form: whole seconds, fractions without trailing zeros, or
milliseconds. -/
def timeText (ms : Nat) : String :=
  if ms = 0 then "0ns"
  else if ms < 1000 then s!"{ms}ms"
  else
    let fraction := (ms % 1000 + 1000 |> Nat.toDigits 10).tail
    let shown := dropTrailing (· == '0') fraction
    if shown.isEmpty then s!"{ms / 1000}s" else s!"{ms / 1000}.{String.ofList shown}s"

def fields (o : DirectOptions) : List (String × String) :=
  [("timeout", timeText o.timeout), ("local_addr", optional (o.localIp.map Ip.toText)),
    ("bind_device", optional (o.device.map quote)), ("fast_open", truth o.fastOpen)]

end DirectOptions

structure DialerOptions where
  direct : DirectOptions
  headers : Headers
  reuse : Bool
  priorKnowledge : Bool
  insecure : Bool
  ownTls : Bool
  ownTransport : Bool
deriving Repr

def DialerOptions.standard : DialerOptions := ⟨.standard, .empty, true, false, false, false, false⟩

def DialerOptions.diagnostic (o : DialerOptions) : String :=
  record "DialerOptions" [("direct", record "DirectOptions" o.direct.fields false),
    ("headers", toString o.headers.size), ("enable_h2_reuse", truth o.reuse),
    ("http2_prior_knowledge", truth o.priorKnowledge), ("insecure", truth o.insecure),
    ("custom_tls", truth o.ownTls), ("custom_transport", truth o.ownTransport)] false

structure CallOptions where
  headers : Option Headers
  cancellable : Bool
deriving Repr

namespace CallOptions

def standard : CallOptions := ⟨none, false⟩

/-- The headers of the dial: the caller's over those of the dialer. -/
def layered (o : CallOptions) (base : Headers) : Headers :=
  match o.headers with
  | some h => base.overlay h
  | none => base

def isCancelled (o : CallOptions) (token : Bool) : Bool := o.cancellable && token

end CallOptions

/-- What a client wants of a TLS connection: its protocols, the best first, and whether it trusts
any certificate. -/
structure Security where
  protocols : List String
  insecure : Bool
deriving Repr

namespace Security

def standardProtocols : List String := ["h2", "http/1.1"]

def standard (insecure : Bool) : Security := ⟨standardProtocols, insecure⟩

end Security

/-- What dials: through a proxy by `CONNECT` or by SOCKS5, or directly, without TLS or with it. -/
inductive Dialer
  | connect (proxy : Proxy) (options : DialerOptions) (headers : Headers)
  | socks (proxy : Proxy) (direct : DirectOptions)
  | direct (options : DirectOptions)
  | tls (options : DirectOptions) (security : Security)
deriving Repr

namespace Dialer

def ofConnect (proxy : Proxy) (o : DialerOptions) : Except Failure Dialer := do
  o.direct.check
  if proxy.scheme.isSocks then throw (.scheme proxy.scheme.name)
  return .connect proxy o (proxy.requestHeaders o.headers)

def socksCredentialLimit : Nat := 255

def badForSocks (c : Credentials) : Bool :=
  c.username.isEmpty || c.password.isEmpty || socksCredentialLimit < c.username.utf8ByteSize
    || socksCredentialLimit < c.password.utf8ByteSize

def ofSocks (proxy : Proxy) (direct : DirectOptions) : Except Failure Dialer := do
  direct.check
  if !proxy.scheme.isSocks then throw (.scheme proxy.scheme.name)
  match proxy.credentials with
  | some c =>
    if badForSocks c then
      throw (.proxyUrl proxy.toText "SOCKS5 username and password must be 1 to 255 bytes")
  | none => pure ()
  return .socks proxy direct

def ofProxy (proxy : Proxy) (o : DialerOptions) : Except Failure Dialer :=
  if proxy.scheme.isSocks then ofSocks proxy o.direct else ofConnect proxy o

def ofText (s : String) (o : DialerOptions) : Except Failure Dialer := do
  ofProxy (← Proxy.parse s) o

def ofDirect (o : DirectOptions) : Except Failure Dialer := do
  o.check
  return .direct o

def ofTls (o : DirectOptions) (s : Security) : Except Failure Dialer := do
  o.check
  return .tls o s

def proxy? : Dialer → Option Proxy
  | connect p _ _ => some p
  | socks p _ => some p
  | _ => none

def headers : Dialer → Headers
  | connect _ _ h => h
  | _ => .empty

def isConnect : Dialer → Bool
  | connect .. => true
  | _ => false

def reuses : Dialer → Bool
  | connect _ o _ => o.reuse
  | _ => false

def directDiagnostic (o : DirectOptions) : String := record "DirectDialer" o.fields false

/-- The diagnostic form of a dialer, where it has one; `cached` says whether a transport is kept. -/
def diagnostic? (cached : Bool) : Dialer → Option String
  | connect p o _ =>
    let slot := record "ReuseCache" [("cached", truth cached)] false
    some (record "ConnectDialer" [("proxy", p.diagnostic),
      ("timeout", DirectOptions.timeText o.direct.timeout),
      ("reuse", optional (if o.reuse then some slot else none))] true)
  | socks p o =>
    some (record "SocksDialer" [("proxy", p.diagnostic), ("direct", directDiagnostic o),
      ("timeout", DirectOptions.timeText o.timeout)] false)
  | direct o => some (directDiagnostic o)
  | tls .. => none

/-- The diagnostic form of a dialer that was chosen by its proxy: the proxy's text alone. -/
def choiceDiagnostic? (d : Dialer) : Option String :=
  d.proxy?.map fun p => applied "ProxyDialer" (quote p.toText)

end Dialer

end TunnelDial
