import TunnelDial.Stream.Basic

/-! A stream that answers as another one does and records every call and its answer. -/
namespace TunnelDial

/-- A call on a stream: the bytes that it gave or accepted, and whether it was done. -/
inductive StreamCall
  | read (bytes : Bytes)
  | write (bytes : Bytes)
  | flush (done : Bool)
  | shutdown (done : Bool)
deriving DecidableEq, Repr

namespace StreamCall

def isRead : StreamCall → Bool
  | read _ => true
  | _ => false

def isWrite : StreamCall → Bool
  | write _ => true
  | _ => false

/-- The call had an effect; a call that waits has none. -/
def isEffective : StreamCall → Bool
  | read bs => !bs.isEmpty
  | write bs => !bs.isEmpty
  | flush done => done
  | shutdown done => done

def got : StreamCall → Bytes
  | read bs => bs
  | _ => []

def put : StreamCall → Bytes
  | write bs => bs
  | _ => []

end StreamCall

/-- A stream and the calls on it, the first one first. -/
structure RecordedStream (σ : Type) where
  inner : σ
  calls : List StreamCall
deriving Repr

namespace RecordedStream

variable {σ : Type} [ByteStream σ]

def given : Poll Bytes → Bytes
  | .ready bs => bs
  | _ => []

/-- Those of some bytes that a write accepted. -/
def accepted (bs : Bytes) : Poll Nat → Bytes
  | .ready n => bs.take n
  | _ => []

/-- A call without data is done when it does not wait. -/
def isDone : Poll Unit → Bool
  | .ready _ => true
  | _ => false

def read (now room : Nat) (s : RecordedStream σ) : Poll Bytes × RecordedStream σ :=
  let r := ByteStream.read now room s.inner
  (r.1, ⟨r.2, s.calls ++ [.read (given r.1)]⟩)

def write (now : Nat) (bs : Bytes) (s : RecordedStream σ) : Poll Nat × RecordedStream σ :=
  let r := ByteStream.write now bs s.inner
  (r.1, ⟨r.2, s.calls ++ [.write (accepted bs r.1)]⟩)

def flush (now : Nat) (s : RecordedStream σ) : Poll Unit × RecordedStream σ :=
  let r := ByteStream.flush now s.inner
  (r.1, ⟨r.2, s.calls ++ [.flush (isDone r.1)]⟩)

def shutdown (now : Nat) (s : RecordedStream σ) : Poll Unit × RecordedStream σ :=
  let r := ByteStream.shutdown now s.inner
  (r.1, ⟨r.2, s.calls ++ [.shutdown (isDone r.1)]⟩)

instance : ByteStream (RecordedStream σ) where
  read := read
  write := write
  flush := flush
  shutdown := shutdown
  wake? s := ByteStream.wake? s.inner

def written (s : RecordedStream σ) : Bytes := s.calls.flatMap StreamCall.put

end RecordedStream

end TunnelDial
