import TunnelDial.Stream.Basic

/-! Two flows of bytes between two ends, each with limited room.  An end that is closed takes no
more bytes; the other end still gets those under way, and then the end of the stream. -/
namespace TunnelDial

/-- One direction: the bytes under way, and whether one of its two ends was closed. -/
structure Flow where
  bytes : Bytes
  closed : Bool
deriving Repr

namespace Flow

def empty : Flow := ⟨[], false⟩

/-- Puts in what fits below `limit` bytes; a closed flow takes nothing. -/
def put (limit : Nat) (broken : IoFault) (bs : Bytes) (f : Flow) : Poll Nat × Flow :=
  if f.closed then (.fault broken, f)
  else
    let room := limit - f.bytes.length
    if room = 0 ∧ bs ≠ [] then (.waiting, f)
    else
      let now := bs.take room
      (.ready now.length, { f with bytes := f.bytes ++ now })

/-- Takes at most `room` bytes out; a closed and empty flow has ended. -/
def get (room : Nat) (f : Flow) : Poll Bytes × Flow :=
  if room = 0 then (.ready [], f)
  else if f.bytes.isEmpty then (if f.closed then .ready [] else .waiting, f)
  else (.ready (f.bytes.take room), { f with bytes := f.bytes.drop room })

def close (f : Flow) : Flow := { f with closed := true }

end Flow

/-- What differs between pipes: the room of a flow and the error of a write that nobody reads. -/
structure PipeKind where
  limit : Nat
  broken : IoFault
deriving Repr

def PipeKind.local : PipeKind := ⟨262144, IoKind.brokenPipe.fault⟩

def PipeKind.system : PipeKind := ⟨262144, ⟨.brokenPipe, "Broken pipe (os error 32)"⟩⟩

structure Pipe where
  kind : PipeKind
  out : Flow
  back : Flow
deriving Repr

namespace Pipe

def ofKind (kind : PipeKind) : Pipe := ⟨kind, .empty, .empty⟩

def read (room : Nat) (p : Pipe) : Poll Bytes × Pipe :=
  let r := p.back.get room
  (r.1, { p with back := r.2 })

def write (bs : Bytes) (p : Pipe) : Poll Nat × Pipe :=
  let r := p.out.put p.kind.limit p.kind.broken bs
  (r.1, { p with out := r.2 })

def shutdown (p : Pipe) : Pipe := { p with out := p.out.close }

def drop (p : Pipe) : Pipe := { p with out := p.out.close, back := p.back.close }

def farRead (room : Nat) (p : Pipe) : Poll Bytes × Pipe :=
  let r := p.out.get room
  (r.1, { p with out := r.2 })

def farWrite (bs : Bytes) (p : Pipe) : Poll Nat × Pipe :=
  let r := p.back.put p.kind.limit p.kind.broken bs
  (r.1, { p with back := r.2 })

def farShutdown (p : Pipe) : Pipe := { p with back := p.back.close }

def farDrop (p : Pipe) : Pipe := { p with out := p.out.close, back := p.back.close }

end Pipe

end TunnelDial
