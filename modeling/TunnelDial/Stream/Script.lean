import TunnelDial.Stream.Basic

/-! Streams that follow a script: for each kind of call a list of acts, used up in order.  Whatever
the stream accepts and every call that ends is recorded. -/
namespace TunnelDial

inductive Act
  | data (bytes : Bytes)
  | atMost (n : Nat)
  | delay (time : Nat)
  | fault (f : IoFault)
  | eof
  | hang
deriving Repr

/-- The acts left, and since when the delay at their front is running. -/
structure Script where
  acts : List Act
  since : Option Nat
deriving Repr

namespace Script

def ofActs (acts : List Act) : Script := ⟨acts, none⟩

/-- Reads with room for some bytes: one piece of data at a time. -/
def readFrom (now room : Nat) : List Act → Option Nat → Poll Bytes × Script
  | [], _ => (.ready [], ⟨[], none⟩)
  | .delay n :: rest, since =>
    let start := since.getD now
    if start + n ≤ now then readFrom now room rest none
    else (.waiting, ⟨.delay n :: rest, some start⟩)
  | .data bs :: rest, _ =>
    if bs.isEmpty then readFrom now room rest none
    else if bs.length ≤ room then (.ready bs, ⟨rest, none⟩)
    else (.ready (bs.take room), ⟨.data (bs.drop room) :: rest, none⟩)
  | .fault f :: rest, _ => (.fault f, ⟨rest, none⟩)
  | .atMost _ :: rest, _ => readFrom now room rest none
  | .eof :: rest, _ => (.ready [], ⟨.eof :: rest, none⟩)
  | .hang :: rest, _ => (.waiting, ⟨.hang :: rest, none⟩)

/-- One read; without room it gives nothing and uses up nothing. -/
def read (now room : Nat) (s : Script) : Poll Bytes × Script :=
  if room = 0 then (.ready [], s) else readFrom now room s.acts s.since

def writeFrom (now size : Nat) : List Act → Option Nat → Poll Nat × Script
  | [], _ => (.ready size, ⟨[], none⟩)
  | .delay n :: rest, since =>
    let start := since.getD now
    if start + n ≤ now then writeFrom now size rest none
    else (.waiting, ⟨.delay n :: rest, some start⟩)
  | .atMost n :: rest, _ => (.ready (min n size), ⟨rest, none⟩)
  | .fault f :: rest, _ => (.fault f, ⟨rest, none⟩)
  | .hang :: rest, _ => (.waiting, ⟨.hang :: rest, none⟩)
  | .data _ :: rest, _ => (.ready size, ⟨rest, none⟩)
  | .eof :: rest, _ => (.ready size, ⟨rest, none⟩)

def callFrom (now : Nat) : List Act → Option Nat → Poll Unit × Script
  | [], _ => (.ready (), ⟨[], none⟩)
  | .delay n :: rest, since =>
    let start := since.getD now
    if start + n ≤ now then callFrom now rest none
    else (.waiting, ⟨.delay n :: rest, some start⟩)
  | .fault f :: rest, _ => (.fault f, ⟨rest, none⟩)
  | .hang :: rest, _ => (.waiting, ⟨.hang :: rest, none⟩)
  | _ :: rest, _ => (.ready (), ⟨rest, none⟩)

def wake? (s : Script) : Option Nat :=
  match s.acts, s.since with
  | .delay n :: _, some start => some (start + n)
  | _, _ => none

/-- The data that the script still gives to reads before its end or its first fault. -/
def dataOf : List Act → Bytes
  | .data bs :: rest => bs ++ dataOf rest
  | .delay _ :: rest => dataOf rest
  | .atMost _ :: rest => dataOf rest
  | _ => []

end Script

/-- A stream made of four scripts, with the record of what happened to it. -/
structure ScriptedStream where
  reads : Script
  writes : Script
  flushes : Script
  shutdowns : Script
  written : Bytes
  flushed : Nat
  shut : Nat
  dropped : Bool
deriving Repr

namespace ScriptedStream

def ofActs (reads writes flushes shutdowns : List Act) : ScriptedStream :=
  ⟨.ofActs reads, .ofActs writes, .ofActs flushes, .ofActs shutdowns, [], 0, 0, false⟩

def read (now room : Nat) (s : ScriptedStream) : Poll Bytes × ScriptedStream :=
  let r := s.reads.read now room
  (r.1, { s with reads := r.2 })

def write (now : Nat) (bs : Bytes) (s : ScriptedStream) : Poll Nat × ScriptedStream :=
  let r := Script.writeFrom now bs.length s.writes.acts s.writes.since
  let s := { s with writes := r.2 }
  match r.1 with
  | .ready n => (.ready n, { s with written := s.written ++ bs.take n })
  | other => (other, s)

def flush (now : Nat) (s : ScriptedStream) : Poll Unit × ScriptedStream :=
  let r := Script.callFrom now s.flushes.acts s.flushes.since
  let s := { s with flushes := r.2 }
  match r.1 with
  | .waiting => (.waiting, s)
  | done => (done, { s with flushed := s.flushed + 1 })

def shutdown (now : Nat) (s : ScriptedStream) : Poll Unit × ScriptedStream :=
  let r := Script.callFrom now s.shutdowns.acts s.shutdowns.since
  let s := { s with shutdowns := r.2 }
  match r.1 with
  | .waiting => (.waiting, s)
  | done => (done, { s with shut := s.shut + 1 })

def wake? (s : ScriptedStream) : Option Nat :=
  earlier? (earlier? s.reads.wake? s.writes.wake?) (earlier? s.flushes.wake? s.shutdowns.wake?)

instance : ByteStream ScriptedStream where
  read := read
  write := write
  flush := flush
  shutdown := shutdown
  wake? := wake?

end ScriptedStream

end TunnelDial
