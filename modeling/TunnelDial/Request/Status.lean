import TunnelDial.Text.Blank
import TunnelDial.Text.Numeral

/-! Status codes of proxies, their standard reasons, and the first line of an answer. -/
namespace TunnelDial

open Text

def standardReason? : Nat → Option String
  | 100 => "Continue"
  | 101 => "Switching Protocols"
  | 102 => "Processing"
  | 103 => "Early Hints"
  | 200 => "OK"
  | 201 => "Created"
  | 202 => "Accepted"
  | 203 => "Non Authoritative Information"
  | 204 => "No Content"
  | 205 => "Reset Content"
  | 206 => "Partial Content"
  | 207 => "Multi-Status"
  | 208 => "Already Reported"
  | 226 => "IM Used"
  | 300 => "Multiple Choices"
  | 301 => "Moved Permanently"
  | 302 => "Found"
  | 303 => "See Other"
  | 304 => "Not Modified"
  | 305 => "Use Proxy"
  | 307 => "Temporary Redirect"
  | 308 => "Permanent Redirect"
  | 400 => "Bad Request"
  | 401 => "Unauthorized"
  | 402 => "Payment Required"
  | 403 => "Forbidden"
  | 404 => "Not Found"
  | 405 => "Method Not Allowed"
  | 406 => "Not Acceptable"
  | 407 => "Proxy Authentication Required"
  | 408 => "Request Timeout"
  | 409 => "Conflict"
  | 410 => "Gone"
  | 411 => "Length Required"
  | 412 => "Precondition Failed"
  | 413 => "Payload Too Large"
  | 414 => "URI Too Long"
  | 415 => "Unsupported Media Type"
  | 416 => "Range Not Satisfiable"
  | 417 => "Expectation Failed"
  | 418 => "I'm a teapot"
  | 421 => "Misdirected Request"
  | 422 => "Unprocessable Entity"
  | 423 => "Locked"
  | 424 => "Failed Dependency"
  | 425 => "Too Early"
  | 426 => "Upgrade Required"
  | 428 => "Precondition Required"
  | 429 => "Too Many Requests"
  | 431 => "Request Header Fields Too Large"
  | 451 => "Unavailable For Legal Reasons"
  | 500 => "Internal Server Error"
  | 501 => "Not Implemented"
  | 502 => "Bad Gateway"
  | 503 => "Service Unavailable"
  | 504 => "Gateway Timeout"
  | 505 => "HTTP Version Not Supported"
  | 506 => "Variant Also Negotiates"
  | 507 => "Insufficient Storage"
  | 508 => "Loop Detected"
  | 510 => "Not Extended"
  | 511 => "Network Authentication Required"
  | _ => none

/-- The code with a reason: the given one, else the standard one, else none. -/
def statusText (code : Nat) (reason : List Char) : String :=
  match (if reason.isEmpty then standardReason? code else some (String.ofList reason)) with
  | some r => String.ofList (decimal code) ++ " " ++ r
  | none => String.ofList (decimal code)

/-- The first line of an answer: a code from 100 to 999 and a reason, which may be empty. -/
structure Status where
  code : Nat
  reason : List Char
deriving DecidableEq, Repr

namespace Status

def text (s : Status) : String := statusText s.code s.reason

def code? (cs : List Char) : Option Nat :=
  (decimal? 65536 cs).filter fun n => 100 ≤ n && n ≤ 999

/-- Version, code and reason of a line, which single spaces part; the reason may hold more. -/
def parse? (line : List Char) : Option Status :=
  let (version, rest) := match cut? ' ' line with
    | some (v, r) => (v, some r)
    | none => (line, none)
  if !"HTTP/1.".toList.isPrefixOf version then none
  else
    match rest with
    | none => none
    | some rest =>
      let (code, reason) := match cut? ' ' rest with
        | some (c, r) => (c, r)
        | none => (rest, [])
      (code? code).map fun n => ⟨n, trim reason⟩

end Status

end TunnelDial
