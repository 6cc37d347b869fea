import TunnelDial.Failure
import TunnelDial.Text.Bytes

/-! Byte streams under a clock.  One call on a stream is answered at once, fails, or has to wait;
a waiting call has done nothing and may be made again. -/
namespace TunnelDial

inductive Poll (α : Type)
  | ready (a : α)
  | fault (f : IoFault)
  | waiting
deriving DecidableEq, Repr

/-- A stream whose calls get the present time. Reading gives no bytes only at the end of the
stream, or when there is no room for any. -/
class ByteStream (σ : Type) where
  read : (now room : Nat) → σ → Poll Bytes × σ
  write : (now : Nat) → Bytes → σ → Poll Nat × σ
  flush : (now : Nat) → σ → Poll Unit × σ
  shutdown : (now : Nat) → σ → Poll Unit × σ
  /-- When a waiting call may be answered by the passing of time alone. -/
  wake? : σ → Option Nat

/-- The bytes of reads at some instants, each with its room, and the stream after them. -/
def ByteStream.gather {σ : Type} [ByteStream σ] (s : σ) : List (Nat × Nat) → Bytes × σ
  | [] => ([], s)
  | (now, room) :: calls =>
    match ByteStream.read now room s with
    | (.ready bs, s) => (bs ++ (gather s calls).1, (gather s calls).2)
    | (_, s) => gather s calls

/-- How many of these reads had to wait. -/
def ByteStream.idle {σ : Type} [ByteStream σ] (s : σ) : List (Nat × Nat) → Nat
  | [] => 0
  | (now, room) :: calls =>
    match ByteStream.read now room s with
    | (.waiting, s) => idle s calls + 1
    | (_, s) => idle s calls

def earlier? : Option Nat → Option Nat → Option Nat
  | some a, some b => some (min a b)
  | some a, none => some a
  | none, b => b

end TunnelDial
