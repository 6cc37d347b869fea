import TunnelDial.Text.Bytes

/-! Which texts may be the authority of an HTTP/2 request: `host:port` in the characters of a
locator. -/
namespace TunnelDial.Http2

namespace Authority

/-- The largest number of colons outside brackets and user names. -/
def colonLimit : Nat := 8

def lengthLimit : Nat := 65534

def isAllowed (b : UInt8) : Bool :=
  let c := Char.ofNat b.toNat
  b < 128 && (c.isAlphanum || "!#$&'()*+,-./:;=?@[]_~".toList.contains c)

structure Scan where
  colons : Nat
  opened : Bool
  closed : Bool
  percent : Bool
  atEnd : Bool

def Scan.start : Scan := ⟨0, false, false, false, false⟩

inductive Fault
  | empty
  | tooLong
  | char
  | authority
  | format
deriving DecidableEq, Repr

def Fault.phrase : Fault → String
  | empty => "empty string"
  | tooLong => "uri too long"
  | char => "invalid uri character"
  | authority => "invalid authority"
  | format => "invalid format"

def Scan.step (s : Scan) (b : UInt8) : Except Fault Scan :=
  let s' := { s with atEnd := false }
  match Char.ofNat b.toNat with
  | ':' =>
    if colonLimit ≤ s.colons then .error .authority else .ok { s' with colons := s.colons + 1 }
  | '[' => if s.percent || s.opened then .error .authority else .ok { s' with opened := true }
  | ']' =>
    if !s.opened || s.closed then .error .authority
    else .ok { s' with closed := true, colons := 0, percent := false }
  | '@' => .ok { s' with atEnd := true, colons := 0, percent := false }
  | '%' => .ok { s' with percent := true }
  | _ => if isAllowed b then .ok s' else .error .char

def Scan.finish (s : Scan) : Except Fault Unit :=
  if s.opened != s.closed then .error .authority
  else if 1 < s.colons then .error .authority
  else if s.atEnd then .error .authority
  else if s.percent then .error .authority
  else .ok ()

/-- The part before a path, and whether there is more after it. -/
def scan : Scan → Bytes → Except Fault (Scan × Bool)
  | s, [] => .ok (s, false)
  | s, b :: bs =>
    if b = 47 ∨ b = 63 ∨ b = 35 then .ok (s, true)
    else
      match s.step b with
      | .ok s => scan s bs
      | .error f => .error f

def check (text : String) : Except Fault Unit := do
  let bs := Bytes.ofText text
  if bs.isEmpty then throw .empty
  if lengthLimit < bs.length then throw .tooLong
  if bs = [42] ∨ bs.head? = some 47 then return ()
  let (s, more) ← scan .start bs
  s.finish
  if more then throw .format

end Authority

end TunnelDial.Http2
