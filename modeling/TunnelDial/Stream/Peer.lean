import TunnelDial.Stream.Pipe

/-! A scripted far end of a pipe: it waits for bytes, sends, pauses, echoes. When its script is over
it closes its sending side and reads until the near end closes. -/
namespace TunnelDial

inductive PeerAct
  | quiet
  | recv (n : Nat)
  | recvUntil (mark : Bytes)
  | send (bs : Bytes)
  | delay (time : Nat)
  | echo
  | hang
deriving Repr

/-- The script left, what the act at its front has done so far, and all bytes received, which may be
recorded or not. -/
structure Peer where
  recorded : Bool
  acts : List PeerAct
  since : Option Nat
  seen : Bytes
  owed : Bytes
  pending : Bytes
  received : Bytes
  finished : Bool
  gone : Bool
deriving Repr

namespace Peer

/-- The received bytes of a script that starts quietly are not recorded. -/
def startsQuiet : List PeerAct → Bool
  | .quiet :: _ => true
  | _ => false

def ofActs (acts : List PeerAct) : Peer :=
  ⟨!startsQuiet acts, acts, none, [], [], [], [], false, false⟩

/-- The bytes up to and including the first occurrence of `mark`, which may have begun in the bytes
`before`; and those after it. -/
def spanMark (mark before : Bytes) : Bytes → Option (Bytes × Bytes)
  | [] => none
  | b :: bs =>
    let before := before ++ [b]
    if (before.drop (before.length - mark.length)) = mark then some ([b], bs)
    else (spanMark mark (before.drop (before.length + 1 - mark.length)) bs).map fun r =>
      (b :: r.1, r.2)

inductive Progress
  | moved
  | stuck
deriving DecidableEq, Repr

def next (p : Peer) : Peer := { p with acts := p.acts.tail, since := none, seen := [], owed := [] }

/-- Bytes that came but are not used yet, before those still in the pipe. -/
def fetch (p : Peer) (pipe : Pipe) : Poll Bytes × Peer × Pipe :=
  if p.pending.isEmpty then
    let r := pipe.farRead 65536
    match r.1 with
    | .ready bs => (.ready bs, { p with received := p.received ++ bs }, r.2)
    | other => (other, p, r.2)
  else (.ready p.pending, { p with pending := [] }, pipe)

def step (now : Nat) (p : Peer) (pipe : Pipe) : Progress × Peer × Pipe :=
  if p.gone then (.stuck, p, pipe)
  else
    match p.acts with
    | [] =>
      if p.finished then
        match p.fetch pipe with
        | (.ready [], p, pipe) => (.moved, { p with gone := true }, pipe.farDrop)
        | (.ready _, p, pipe) => (.moved, p, pipe)
        | (_, p, pipe) => (.stuck, p, pipe)
      else (.moved, { p with finished := true }, pipe.farShutdown)
    | .quiet :: _ => (.moved, p.next, pipe)
    | .recv n :: _ =>
      if p.seen.length = n then (.moved, p.next, pipe)
      else
        match p.fetch pipe with
        | (.ready [], p, pipe) => (.moved, p.next, pipe)
        | (.ready bs, p, pipe) =>
          let need := n - p.seen.length
          (.moved, { p with seen := p.seen ++ bs.take need, pending := bs.drop need }, pipe)
        | (_, p, pipe) => (.stuck, p, pipe)
    | .recvUntil mark :: _ =>
      match p.fetch pipe with
      | (.ready [], p, pipe) => (.moved, p.next, pipe)
      | (.ready bs, p, pipe) =>
        match spanMark mark p.seen bs with
        | some (_, rest) => (.moved, { p.next with pending := rest }, pipe)
        | none =>
          let all := p.seen ++ bs
          (.moved, { p with seen := all.drop (all.length + 1 - mark.length) }, pipe)
      | (_, p, pipe) => (.stuck, p, pipe)
    | .send bs :: _ =>
      let left := if p.since.isNone then bs else p.owed
      if left.isEmpty then (.moved, p.next, pipe)
      else
        let r := pipe.farWrite left
        match r.1 with
        | .ready n => (.moved, { p with since := some now, owed := left.drop n }, r.2)
        | .fault _ => (.moved, p.next, r.2)
        | .waiting => (.stuck, p, r.2)
    | .delay n :: _ =>
      let start := p.since.getD now
      if start + n ≤ now then (.moved, p.next, pipe)
      else (.stuck, { p with since := some start }, pipe)
    | .echo :: _ =>
      if p.owed.isEmpty then
        match p.fetch pipe with
        | (.ready [], p, pipe) => (.moved, p.next, pipe)
        | (.ready bs, p, pipe) => (.moved, { p with owed := bs }, pipe)
        | (_, p, pipe) => (.stuck, p, pipe)
      else
        let r := pipe.farWrite p.owed
        match r.1 with
        | .ready n => (.moved, { p with owed := p.owed.drop n }, r.2)
        | .fault _ => (.moved, p.next, r.2)
        | .waiting => (.stuck, p, r.2)
    | .hang :: _ =>
      match p.fetch pipe with
      | (.ready [], p, pipe) => (.moved, p.next, pipe)
      | (.ready _, p, pipe) => (.moved, p, pipe)
      | (_, p, pipe) => (.stuck, p, pipe)

def wake? (p : Peer) : Option Nat :=
  match p.acts, p.since with
  | .delay n :: _, some start => some (start + n)
  | _, _ => none

end Peer

end TunnelDial
