import TunnelDial.Stream.Record

/-! Runs of a system that answers one event after another, and the calls on a stream as such events.
-/
namespace TunnelDial

/-- Every event with its answer, and the state after all of them. -/
def transcript {σ ε α : Type} (step : σ → ε → α × σ) (s : σ) : List ε → List (ε × α) × σ
  | [] => ([], s)
  | e :: es =>
    let r := step s e
    let rest := transcript step r.2 es
    ((e, r.1) :: rest.1, rest.2)

/-- One call on a stream, at a time and with all that the stream gets to know of it. -/
inductive StreamUse
  | read (now room : Nat)
  | write (now : Nat) (bs : Bytes)
  | flush (now : Nat)
  | shutdown (now : Nat)
deriving DecidableEq, Repr

def StreamUse.isRead : StreamUse → Bool
  | read .. => true
  | _ => false

inductive StreamAnswer
  | read (r : Poll Bytes)
  | write (r : Poll Nat)
  | flush (r : Poll Unit)
  | shutdown (r : Poll Unit)
deriving Repr

def StreamAnswer.isWaiting : StreamAnswer → Bool
  | read .waiting => true
  | write .waiting => true
  | flush .waiting => true
  | shutdown .waiting => true
  | _ => false

def StreamAnswer.got : StreamAnswer → Bytes
  | read r => RecordedStream.given r
  | _ => []

namespace ByteStream

variable {σ : Type} [ByteStream σ]

def use (s : σ) : StreamUse → StreamAnswer × σ
  | .read now room =>
    let r := ByteStream.read now room s
    (.read r.1, r.2)
  | .write now bs =>
    let r := ByteStream.write now bs s
    (.write r.1, r.2)
  | .flush now =>
    let r := ByteStream.flush now s
    (.flush r.1, r.2)
  | .shutdown now =>
    let r := ByteStream.shutdown now s
    (.shutdown r.1, r.2)

end ByteStream

def gotten (log : List (StreamUse × StreamAnswer)) : Bytes := log.flatMap (·.2.got)

end TunnelDial
