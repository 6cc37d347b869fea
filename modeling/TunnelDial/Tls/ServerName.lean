import TunnelDial.Address.Basic
import TunnelDial.Failure

/-! Names of TLS servers: domain names of letters, digits, hyphens and underscores, or IP addresses.
-/
namespace TunnelDial.Tls

open Text

namespace ServerName

/-- What came before, in a label of some length. -/
inductive Place
  | start
  | afterDot
  | afterNumericDot
  | digits (length : Nat)
  | letters (length : Nat)
  | hyphen (length : Nat)
deriving DecidableEq, Repr

def labelLimit : Nat := 63

def nameLimit : Nat := 253

def Place.length? : Place → Option Nat
  | digits n => some n
  | letters n => some n
  | hyphen n => some n
  | _ => none

def Place.next? (p : Place) (c : Char) : Option Place :=
  if c = '.' then
    match p with
    | letters _ => some afterDot
    | digits _ => some afterNumericDot
    | _ => none
  else
    match p.length? with
    | none =>
      if c.isDigit then some (digits 1)
      else if c.isAlpha || c == '_' then some (letters 1)
      else none
    | some n =>
      if labelLimit ≤ n then none
      else if c = '-' then some (hyphen (n + 1))
      else if c.isDigit then
        match p with
        | digits _ => some (digits (n + 1))
        | _ => some (letters (n + 1))
      else if c.isAlpha || c == '_' then some (letters (n + 1))
      else none

def Place.mayEnd : Place → Bool
  | letters _ => true
  | afterDot => true
  | _ => false

def isDomainFrom : Place → List Char → Bool
  | p, [] => p.mayEnd
  | p, c :: cs =>
    match p.next? c with
    | some p => isDomainFrom p cs
    | none => false

def isDomain (cs : List Char) : Bool := cs.length ≤ nameLimit && isDomainFrom .start cs

/-- The name that a client shows to the server: a domain name in small letters without a dot at its
end; nothing for an IP address. -/
def shown? (host : String) : Except Failure (Option String) :=
  let cs := host.toList
  if isDomain cs then
    .ok (some (String.ofList (dropTrailing (· == '.') (cs.map Char.toLower))))
  else if (Ip.ofList? cs).isSome then .ok none
  else .error (.config ("invalid TLS server name " ++ host ++ ": invalid dns name"))

end ServerName

end TunnelDial.Tls
