import TunnelDial.Rehearsal.MuxServer
import TunnelDial.Rehearsal.TlsServer
import TunnelDial.Stream.Peer
import TunnelDial.Stream.Script

/-! The connections of a rehearsal: either a scripted stream, or a pipe with a program at its far
end.  The program runs on its own whenever time is given to it. -/
namespace TunnelDial.Rehearsal

inductive Far
  | peer (p : Peer)
  | mux (s : MuxServer)
  | tls (s : TlsServer) (inner : Far)
deriving Repr

namespace Far

/-- One step; tells whether anything moved. -/
def step (now : Nat) (pipe : Pipe) : Far → Bool × Pipe × Far
  | .peer p =>
    let r := p.step now pipe
    (r.1 = .moved, r.2.2, .peer r.2.1)
  | .mux s =>
    let r := s.step now pipe
    (r.1, r.2.2, .mux r.2.1)
  | .tls s inner =>
    if s.phase = .secured then
      let r := inner.step now pipe
      (r.1, r.2.1, .tls s r.2.2)
    else
      let r := s.step pipe
      (r.1, r.2.1, .tls r.2.2 inner)

def wakes : Far → List Nat
  | .peer p => p.wake?.toList
  | .mux s => s.wakes
  | .tls _ inner => inner.wakes

def run (now : Nat) : Nat → Bool → Pipe → Far → Bool × Pipe × Far
  | 0, moved, pipe, f => (moved, pipe, f)
  | n + 1, moved, pipe, f =>
    match f.step now pipe with
    | (true, pipe, f) => run now n true pipe f
    | (false, pipe, f) => (moved, pipe, f)

end Far

inductive Carrier
  | scripted (s : ScriptedStream)
  | piped (pipe : Pipe) (far : Far) (dropped : Bool)
deriving Repr

namespace Carrier

def read (now room : Nat) : Carrier → Poll Bytes × Carrier
  | scripted s =>
    let r := s.read now room
    (r.1, scripted r.2)
  | piped pipe far dropped =>
    let r := pipe.read room
    (r.1, piped r.2 far dropped)

def write (now : Nat) (bs : Bytes) : Carrier → Poll Nat × Carrier
  | scripted s =>
    let r := s.write now bs
    (r.1, scripted r.2)
  | piped pipe far dropped =>
    let r := pipe.write bs
    (r.1, piped r.2 far dropped)

def flush (now : Nat) : Carrier → Poll Unit × Carrier
  | scripted s =>
    let r := s.flush now
    (r.1, scripted r.2)
  | piped pipe far dropped => (.ready (), piped pipe far dropped)

def shutdown (now : Nat) : Carrier → Poll Unit × Carrier
  | scripted s =>
    let r := s.shutdown now
    (r.1, scripted r.2)
  | piped pipe far dropped => (.ready (), piped pipe.shutdown far dropped)

def wakes : Carrier → List Nat
  | scripted s => s.wake?.toList
  | piped _ far _ => far.wakes

def wake? (c : Carrier) : Option Nat := c.wakes.min?

def drop : Carrier → Carrier
  | scripted s => scripted { s with dropped := true }
  | piped pipe far _ => piped pipe.drop far true

/-- How many steps a far program may take in one go. -/
def patience : Nat := 1000000

/-- The far program runs until it has to wait; tells whether anything moved. -/
def stir (now : Nat) : Carrier → Bool × Carrier
  | scripted s => (false, scripted s)
  | piped pipe far dropped =>
    let r := far.run now patience false pipe
    (r.1, piped r.2.1 r.2.2 dropped)

instance : ByteStream Carrier where
  read := read
  write := write
  flush := flush
  shutdown := shutdown
  wake? := wake?

end Carrier

end TunnelDial.Rehearsal
