import TunnelDial.Header.Basic
import TunnelDial.Http2.Frame

/-! Header blocks: the fields of a request or a response as bytes. Fields are written in full; those
of the fixed table and fields written in full can be read. -/
namespace TunnelDial.Http2

structure BlockField where
  name : Bytes
  value : Bytes
deriving DecidableEq, Repr

namespace HeaderBlock

def fixed : List (String × String) :=
  [(":authority", ""), (":method", "GET"), (":method", "POST"), (":path", "/"),
   (":path", "/index.html"), (":scheme", "http"), (":scheme", "https"), (":status", "200"),
   (":status", "204"), (":status", "206"), (":status", "304"), (":status", "400"),
   (":status", "404"), (":status", "500"), ("accept-charset", ""),
   ("accept-encoding", "gzip, deflate"), ("accept-language", ""), ("accept-ranges", ""),
   ("accept", ""), ("access-control-allow-origin", ""), ("age", ""), ("allow", ""),
   ("authorization", ""), ("cache-control", ""), ("content-disposition", ""),
   ("content-encoding", ""), ("content-language", ""), ("content-length", ""),
   ("content-location", ""), ("content-range", ""), ("content-type", ""), ("cookie", ""),
   ("date", ""), ("etag", ""), ("expect", ""), ("expires", ""), ("from", ""), ("host", ""),
   ("if-match", ""), ("if-modified-since", ""), ("if-none-match", ""), ("if-range", ""),
   ("if-unmodified-since", ""), ("last-modified", ""), ("link", ""), ("location", ""),
   ("max-forwards", ""), ("proxy-authenticate", ""), ("proxy-authorization", ""), ("range", ""),
   ("referer", ""), ("refresh", ""), ("retry-after", ""), ("server", ""), ("set-cookie", ""),
   ("strict-transport-security", ""), ("transfer-encoding", ""), ("user-agent", ""), ("vary", ""),
   ("via", ""), ("www-authenticate", "")]

def fixed? (n : Nat) : Option BlockField :=
  if n = 0 then none
  else (fixed[n - 1]?).map fun f => ⟨Bytes.ofText f.1, Bytes.ofText f.2⟩

/-- The bytes of a number after those that its first byte can hold: seven bits each, the lowest
first. -/
def tailNumber : Nat → Nat → Bytes
  | 0, _ => []
  | fuel + 1, n =>
    if n < 128 then [UInt8.ofNat n] else UInt8.ofNat (128 + n % 128) :: tailNumber fuel (n / 128)

/-- A number whose first byte has that many bits for it, beside a mark. -/
def number (bits mark n : Nat) : Bytes :=
  let full := (1 <<< bits) - 1
  if n < full then [UInt8.ofNat (mark + n)]
  else UInt8.ofNat (mark + full) :: tailNumber 10 (n - full)

def readTail : Nat → Nat → Bytes → Option (Nat × Bytes)
  | _, _, [] => none
  | scale, n, b :: bs =>
    let n := n + b.toNat % 128 * scale
    if b.toNat < 128 then some (n, bs) else readTail (scale * 128) n bs

def readNumber (bits : Nat) : Bytes → Option (Nat × Bytes)
  | [] => none
  | b :: bs =>
    let full := (1 <<< bits) - 1
    let n := b.toNat % (1 <<< bits)
    if n < full then some (n, bs) else readTail 1 full bs

def text (bs : Bytes) : Bytes := number 7 0 bs.length ++ bs

def readText (bs : Bytes) : Option (Bytes × Bytes) :=
  match bs with
  | [] => none
  | b :: _ =>
    if 128 ≤ b.toNat then none
    else
      match readNumber 7 bs with
      | some (n, rest) => if rest.length < n then none else some (rest.take n, rest.drop n)
      | none => none

def encode (fields : List BlockField) : Bytes :=
  fields.flatMap fun f => 0 :: (text f.name ++ text f.value)

def readField (bits : Nat) (bs : Bytes) : Option (BlockField × Bytes) :=
  match readNumber bits bs with
  | none => none
  | some (0, rest) =>
    match readText rest with
    | none => none
    | some (name, rest) => (readText rest).map fun r => (⟨name, r.1⟩, r.2)
  | some (n, rest) =>
    match fixed? n with
    | none => none
    | some f => (readText rest).map fun r => (⟨f.name, r.1⟩, r.2)

/-- The first field of a block, and the rest; a change of the table's size is no field. -/
def first (bs : Bytes) : Option (Option BlockField × Bytes) :=
  match bs with
  | [] => none
  | b :: _ =>
    let n := b.toNat
    if 128 ≤ n then
      match readNumber 7 bs with
      | some (k, rest) => (fixed? k).map fun f => (some f, rest)
      | none => none
    else if 64 ≤ n then (readField 6 bs).map fun r => (some r.1, r.2)
    else if 32 ≤ n then (readNumber 5 bs).map fun r => (none, r.2)
    else (readField 4 bs).map fun r => (some r.1, r.2)

def decodeIn : Nat → Bytes → Option (List BlockField)
  | _, [] => some []
  | 0, _ => none
  | n + 1, bs =>
    match first bs with
    | none => none
    | some (f, rest) => (decodeIn n rest).map fun fs => f.toList ++ fs

def decode (bs : Bytes) : Option (List BlockField) := decodeIn bs.length bs

def value? (name : String) (fields : List BlockField) : Option Bytes :=
  (fields.find? fun f => f.name = Bytes.ofText name).map (·.value)

end HeaderBlock

end TunnelDial.Http2
