import TunnelDial.Http2.Reason
import TunnelDial.Text.Bytes

/-! The frames of HTTP/2 and their bytes. -/
namespace TunnelDial.Http2

/-- A setting that matters here, by its number. -/
structure Setting where
  id : Nat
  value : Nat
deriving DecidableEq, Repr

inductive Frame
  | data (stream : Nat) (bytes : Bytes) (last : Bool)
  | headers (stream : Nat) (block : Bytes) (last whole : Bool)
  | reset (stream : Nat) (reason : Reason)
  | settings (values : List Setting)
  | settingsAck
  | ping (ack : Bool) (bytes : Bytes)
  | goAway (last : Nat) (reason : Reason) (debug : Bytes)
  | window (stream : Nat) (more : Nat)
  | continuation (stream : Nat) (block : Bytes) (whole : Bool)
  | other (stream : Nat)
deriving DecidableEq, Repr

namespace Frame

def payloadLimit : Nat := 16384

def raw (kind flags stream : Nat) (payload : Bytes) : Bytes :=
  Bytes.number 3 payload.length ++ (Bytes.number 1 kind ++ (Bytes.number 1 flags
    ++ (Bytes.number 4 stream ++ payload)))

def flag (b : Bool) (n : Nat) : Nat := if b then n else 0

def encode : Frame → Bytes
  | data stream bytes last => raw 0 (flag last 1) stream bytes
  | headers stream block last whole => raw 1 (flag last 1 + flag whole 4) stream block
  | reset stream reason => raw 3 0 stream (Bytes.number 4 reason.code)
  | settings values =>
    raw 4 0 0 (values.flatMap fun s => Bytes.number 2 s.id ++ Bytes.number 4 s.value)
  | settingsAck => raw 4 1 0 []
  | ping ack bytes => raw 6 (flag ack 1) 0 bytes
  | goAway last reason debug =>
    raw 7 0 0 (Bytes.number 4 last ++ (Bytes.number 4 reason.code ++ debug))
  | window stream more => raw 8 0 stream (Bytes.number 4 more)
  | continuation stream block whole => raw 9 (flag whole 4) stream block
  | other stream => raw 2 0 stream (Bytes.number 5 0)

/-- The settings of a payload; none if its length is not that of whole settings. -/
def settingsOf? : Bytes → Option (List Setting)
  | [] => some []
  | a :: b :: c :: d :: e :: f :: rest =>
    (settingsOf? rest).map (⟨Bytes.toNumber [a, b], Bytes.toNumber [c, d, e, f]⟩ :: ·)
  | _ => none

def windowLimit : Nat := 2147483647

def Setting.valid (s : Setting) : Bool :=
  match s.id with
  | 2 => s.value ≤ 1
  | 4 => s.value ≤ windowLimit
  | 5 => 16384 ≤ s.value && s.value ≤ 16777215
  | _ => true

/-- The payload without its padding, if that fits. -/
def unpad? (padded : Bool) (bs : Bytes) : Option Bytes :=
  if padded then
    match bs with
    | n :: rest => if rest.length < n.toNat then none else some (rest.take (rest.length - n.toNat))
    | [] => none
  else some bs

/-- The frame of a header and a payload; none if they make no sense. -/
def ofParts? (kind flags stream : Nat) (payload : Bytes) : Option Frame :=
  let has := fun n => flags / n % 2 = 1
  match kind with
  | 0 => if stream = 0 then none else (unpad? (has 8) payload).map fun bs => data stream bs (has 1)
  | 1 =>
    if stream = 0 then none
    else (unpad? (has 8) payload).bind fun bs =>
      if has 32 then
        if bs.length < 5 then none else some (headers stream (bs.drop 5) (has 1) (has 4))
      else some (headers stream bs (has 1) (has 4))
  | 3 =>
    if stream = 0 ∨ payload.length ≠ 4 then none
    else some (reset stream (.ofCode (Bytes.toNumber payload)))
  | 4 =>
    if stream ≠ 0 then none
    else if has 1 then (if payload.isEmpty then some settingsAck else none)
    else (settingsOf? payload).bind fun s => if s.all Setting.valid then some (settings s) else none
  | 6 => if stream ≠ 0 ∨ payload.length ≠ 8 then none else some (ping (has 1) payload)
  | 7 =>
    if stream ≠ 0 ∨ payload.length < 8 then none
    else some (goAway (Bytes.toNumber (payload.take 4) % 2147483648)
      (.ofCode (Bytes.toNumber ((payload.drop 4).take 4))) (payload.drop 8))
  | 8 =>
    let more := Bytes.toNumber payload % 2147483648
    if payload.length ≠ 4 ∨ more = 0 then none else some (window stream more)
  | 9 => if stream = 0 then none else some (continuation stream payload (has 4))
  | _ => some (other stream)

inductive Next
  | more
  | broken (reason : Reason)
  | frame (f : Frame) (rest : Bytes)
deriving Repr

def next (bs : Bytes) : Next :=
  match bs with
  | a :: b :: c :: kind :: flags :: d :: e :: f :: g :: rest =>
    let size := Bytes.toNumber [a, b, c]
    if payloadLimit < size then .broken .frameSize
    else if rest.length < size then .more
    else
      let stream := Bytes.toNumber [d, e, f, g] % 2147483648
      match ofParts? kind.toNat flags.toNat stream (rest.take size) with
      | some frame => .frame frame (rest.drop size)
      | none => .broken .protocolError
  | a :: b :: c :: _ =>
    if payloadLimit < Bytes.toNumber [a, b, c] then .broken .frameSize else .more
  | _ => .more

end Frame

end TunnelDial.Http2
