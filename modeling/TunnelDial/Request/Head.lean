import TunnelDial.Header.Basic

/-! The head of a `CONNECT` request: its first line, the host line and the header fields. -/
namespace TunnelDial

/-- What is asked of the proxy: a tunnel to the authority, with header fields. -/
structure ConnectRequest where
  authority : String
  headers : Headers
deriving DecidableEq, Repr

namespace ConnectRequest

def lineEnd : Bytes := [13, 10]

def fieldLine (name : List Char) (value : Bytes) : Bytes :=
  Bytes.ofChars name ++ [58, 32] ++ value ++ lineEnd

/-- The fields as they are sent: a caller's `host` is left out. -/
def sentFields (h : Headers) : List (HeaderName × Bytes) :=
  h.toList.filter fun f => f.1 ≠ .host

def head (r : ConnectRequest) : Bytes :=
  Bytes.ofText ("CONNECT " ++ r.authority ++ " HTTP/1.1") ++ lineEnd
    ++ (Bytes.ofText ("Host: " ++ r.authority) ++ lineEnd
    ++ ((sentFields r.headers).flatMap (fun f => fieldLine f.1.title f.2) ++ lineEnd))

end ConnectRequest

end TunnelDial
