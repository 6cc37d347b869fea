import TunnelDial.Text.Numeral

/-! IPv4 and IPv6 addresses with their standard text forms.  Reading accepts the dotted form of
four decimal octets without needless zeros and the eight-group form with one `::` and an optional
dotted tail; printing shortens the first longest run of at least two zero groups. -/
namespace TunnelDial

open Text

structure Ipv4 where
  a : UInt8
  b : UInt8
  c : UInt8
  d : UInt8
deriving DecidableEq, Repr

structure Ipv6 where
  groups : List UInt16
  eight : groups.length = 8
deriving DecidableEq, Repr

inductive Ip
  | v4 (ip : Ipv4)
  | v6 (ip : Ipv6)
deriving DecidableEq, Repr

def expect? (c : Char) : List Char → Option (List Char)
  | x :: xs => if x = c then some xs else none
  | [] => none

namespace Ipv4

/-- One octet: up to three decimal digits, no zero before another digit, at most 255. -/
def readOctet? (cs : List Char) : Option (UInt8 × List Char) :=
  match spanDigits 10 cs with
  | (0 :: _ :: _, _) => none
  | _ => (readShort? 10 256 3 cs).map fun r => (UInt8.ofNat r.1, r.2)

def read? (cs : List Char) : Option (Ipv4 × List Char) := do
  let (a, cs) ← readOctet? cs
  let cs ← expect? '.' cs
  let (b, cs) ← readOctet? cs
  let cs ← expect? '.' cs
  let (c, cs) ← readOctet? cs
  let cs ← expect? '.' cs
  let (d, cs) ← readOctet? cs
  return (⟨a, b, c, d⟩, cs)

def ofList? (cs : List Char) : Option Ipv4 :=
  match read? cs with
  | some (ip, []) => some ip
  | _ => none

def toList (ip : Ipv4) : List Char :=
  decimal ip.a.toNat ++ '.' :: (decimal ip.b.toNat ++ '.' :: (decimal ip.c.toNat
    ++ '.' :: decimal ip.d.toNat))

/-- The address as the two halves that an IPv6 address carries at its end. -/
def halves (ip : Ipv4) : List UInt16 :=
  [UInt16.ofNat (ip.a.toNat * 256 + ip.b.toNat), UInt16.ofNat (ip.c.toNat * 256 + ip.d.toNat)]

def ofHalves (hi lo : UInt16) : Ipv4 :=
  ⟨UInt8.ofNat (hi.toNat / 256), UInt8.ofNat (hi.toNat % 256),
    UInt8.ofNat (lo.toNat / 256), UInt8.ofNat (lo.toNat % 256)⟩

def ofNat (n : Nat) : Ipv4 :=
  ⟨UInt8.ofNat (n >>> 24), UInt8.ofNat (n >>> 16), UInt8.ofNat (n >>> 8), UInt8.ofNat n⟩

def isLoopback (ip : Ipv4) : Bool := ip.a == 127

def isUnspecified (ip : Ipv4) : Bool := ip == ⟨0, 0, 0, 0⟩

def octets (ip : Ipv4) : List UInt8 := [ip.a, ip.b, ip.c, ip.d]

end Ipv4

namespace Ipv6

/-- The groups read at the front of a text, whether the last two were written as a dotted IPv4
address, and the rest of the text. -/
structure Groups where
  values : List UInt16
  dotted : Bool
  rest : List Char

/-- Up to `room` groups separated by colons; the dotted form may end them where two fit. A group
that cannot be read ends the list and leaves its colon in the text. -/
def readGroups : (room : Nat) → (first : Bool) → List Char → Groups
  | 0, _, cs => ⟨[], false, cs⟩
  | room + 1, first, cs =>
    match (if first then some cs else expect? ':' cs) with
    | none => ⟨[], false, cs⟩
    | some body =>
      match (if room = 0 then none else Ipv4.read? body) with
      | some (ip, rest) => ⟨ip.halves, true, rest⟩
      | none =>
        match readShort? 16 65536 4 body with
        | none => ⟨[], false, cs⟩
        | some (g, rest) =>
          let more := readGroups room false rest
          ⟨UInt16.ofNat g :: more.values, more.dotted, more.rest⟩

/-- An address of the groups before and after `::`, with zeros between them. -/
def ofEnds? (front back : List UInt16) : Option Ipv6 :=
  let groups := front ++ List.replicate (8 - front.length - back.length) 0 ++ back
  if h : groups.length = 8 then some ⟨groups, h⟩ else none

def read? (cs : List Char) : Option (Ipv6 × List Char) := do
  let front := readGroups 8 true cs
  if h : front.values.length = 8 then
    return (⟨front.values, h⟩, front.rest)
  if front.dotted then none
  let rest ← expect? ':' front.rest
  let rest ← expect? ':' rest
  let back := readGroups (7 - front.values.length) true rest
  let ip ← ofEnds? front.values back.values
  return (ip, back.rest)

def ofList? (cs : List Char) : Option Ipv6 :=
  match read? cs with
  | some (ip, []) => some ip
  | _ => none

def writeGroups : List UInt16 → List Char
  | [] => []
  | [g] => hexadecimal g.toNat
  | g :: gs => hexadecimal g.toNat ++ ':' :: writeGroups gs

def leadingZeros : List UInt16 → Nat
  | 0 :: gs => leadingZeros gs + 1
  | _ => 0

/-- Start and length of the first longest run of zero groups. -/
def longestRun : List UInt16 → Nat × Nat
  | [] => (0, 0)
  | g :: gs =>
    let here := leadingZeros (g :: gs)
    let later := longestRun gs
    if later.2 ≤ here then (0, here) else (later.1 + 1, later.2)

/-- The groups with the first longest run of at least two zeros written as `::`. -/
def toShort (groups : List UInt16) : List Char :=
  let run := longestRun groups
  if 2 ≤ run.2 then
    writeGroups (groups.take run.1) ++ ':' :: ':' :: writeGroups (groups.drop (run.1 + run.2))
  else writeGroups groups

/-- The IPv4 address inside `::ffff:0:0/96`. -/
def mapped? (ip : Ipv6) : Option Ipv4 :=
  match ip.groups with
  | [0, 0, 0, 0, 0, 0xFFFF, hi, lo] => some (Ipv4.ofHalves hi lo)
  | _ => none

/-- The text form; an IPv4-mapped address shows its IPv4 part in dotted form. -/
def toList (ip : Ipv6) : List Char :=
  match ip.mapped? with
  | some v4 => "::ffff:".toList ++ v4.toList
  | none => toShort ip.groups

def isLoopback (ip : Ipv6) : Bool := ip.groups == [0, 0, 0, 0, 0, 0, 0, 1]

def isUnspecified (ip : Ipv6) : Bool := ip.groups.all (· == 0)

def octets (ip : Ipv6) : List UInt8 :=
  ip.groups.flatMap fun g => [UInt8.ofNat (g.toNat / 256), UInt8.ofNat (g.toNat % 256)]

end Ipv6

namespace Ip

def ofList? (cs : List Char) : Option Ip :=
  match Ipv4.ofList? cs with
  | some ip => some (.v4 ip)
  | none => (Ipv6.ofList? cs).map .v6

def toList : Ip → List Char
  | v4 ip => ip.toList
  | v6 ip => ip.toList

def toText (ip : Ip) : String := String.ofList ip.toList

def toBytes : Ip → List UInt8
  | v4 a => a.octets
  | v6 a => a.octets

def isV4 : Ip → Bool
  | v4 _ => true
  | v6 _ => false

def isLoopback : Ip → Bool
  | v4 ip => ip.isLoopback
  | v6 ip => ip.isLoopback

def isUnspecified : Ip → Bool
  | v4 ip => ip.isUnspecified
  | v6 ip => ip.isUnspecified

def loopback : Ip → Ip
  | v4 _ => v4 ⟨127, 0, 0, 1⟩
  | v6 _ => v6 ⟨[0, 0, 0, 0, 0, 0, 0, 1], rfl⟩

end Ip

structure Socket where
  ip : Ip
  port : UInt16
deriving DecidableEq, Repr

namespace Socket

def readPort? (cs : List Char) : Option UInt16 := do
  let cs ← expect? ':' cs
  match readNumber? 10 65536 cs with
  | some (n, []) => some (UInt16.ofNat n)
  | _ => none

/-- The text behind an optional zone number, which names an interface and is not kept. -/
def skipZone? (cs : List Char) : Option (List Char) :=
  match cs with
  | '%' :: r => (readNumber? 10 (1 <<< 32) r).map (·.2)
  | _ => some cs

def ofV4? (cs : List Char) : Option Socket := do
  let (ip, cs) ← Ipv4.read? cs
  return ⟨.v4 ip, ← readPort? cs⟩

def ofV6? (cs : List Char) : Option Socket := do
  let cs ← expect? '[' cs
  let (ip, cs) ← Ipv6.read? cs
  let cs ← skipZone? cs
  let cs ← expect? ']' cs
  return ⟨.v6 ip, ← readPort? cs⟩

def ofList? (cs : List Char) : Option Socket := (ofV4? cs).orElse fun _ => ofV6? cs

def toList (s : Socket) : List Char :=
  match s.ip with
  | .v4 ip => ip.toList ++ ':' :: decimal s.port.toNat
  | .v6 ip => '[' :: (ip.toList ++ ']' :: ':' :: decimal s.port.toNat)

def toText (s : Socket) : String := String.ofList s.toList

end Socket

/-- A socket address with all that it carries: an IPv6 one has a flow label and a zone as well. -/
inductive SocketAddress
  | v4 (ip : Ipv4) (port : UInt16)
  | v6 (ip : Ipv6) (port : UInt16) (flow zone : UInt32)
deriving DecidableEq, Repr

namespace SocketAddress

def socket : SocketAddress → Socket
  | v4 ip port => ⟨.v4 ip, port⟩
  | v6 ip port _ _ => ⟨.v6 ip, port⟩

def ofSocket (s : Socket) : SocketAddress :=
  match s.ip with
  | .v4 ip => .v4 ip s.port
  | .v6 ip => .v6 ip s.port 0 0

end SocketAddress

end TunnelDial
