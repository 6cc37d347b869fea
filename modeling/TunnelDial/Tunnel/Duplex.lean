import TunnelDial.Stream.Use
import TunnelDial.Tunnel.Mux

/-! A multiplexed tunnel with all it uses: the channel of its request body, the stream of its
response body and the ledger of its transport. Its caller uses it, the receiver of the request body
takes chunks or goes away, and other holders of the transport come and go. -/
namespace TunnelDial

/-- A tunnel, its request body, its response body as long as it is read, the leases on its transport
and how many of these others hold. -/
structure Duplex (σ : Type) where
  mux : MuxTunnel
  channel : Channel
  response : Option σ
  pool : Pool
  others : Nat
deriving Repr

inductive DuplexEvent
  | use (u : StreamUse)
  | closeWrite
  | closeRead
  | close
  | closeTransport
  | received
  | abandoned
  | joined
  | parted
deriving DecidableEq, Repr

inductive DuplexAnswer
  | use (a : StreamAnswer)
  | done (r : Except IoFault Unit)
  | receipt (r : Receipt)
  | silent
deriving Repr

namespace DuplexEvent

/-- Concerns only the reading half. -/
def isReading : DuplexEvent → Bool
  | use u => u.isRead
  | closeRead => true
  | _ => false

/-- Concerns only the writing half. -/
def isWriting : DuplexEvent → Bool
  | use u => !u.isRead
  | closeWrite => true
  | received => true
  | abandoned => true
  | _ => false

/-- Ends the writing half: to shut the stream down is to close it. -/
def endsWriting : DuplexEvent → Bool
  | use (.shutdown _) | closeWrite | close => true
  | _ => false

def endsReading : DuplexEvent → Bool
  | closeRead | close => true
  | _ => false

end DuplexEvent

def DuplexAnswer.isSuccess : DuplexAnswer → Bool
  | done (.ok _) => true
  | use (.flush (.ready _)) => true
  | use (.shutdown (.ready _)) => true
  | _ => false

def Offer.answer : Offer → Poll Nat
  | taken n => .ready n
  | full => .waiting
  | broken => .fault MuxTunnel.closedWrite

namespace Duplex

variable {σ : Type}

def start (others : Nat) (response : σ) : Duplex σ :=
  ⟨.ofLease 0, .fresh, some response, Nat.repeat (·.retain 0) others (Pool.empty.issue 0).1, others⟩

def write (bs : Bytes) (d : Duplex σ) : Poll Nat × Duplex σ :=
  let r := d.mux.write bs d.channel
  (r.1.answer, { d with channel := r.2 })

def closeWrite (d : Duplex σ) : Duplex σ :=
  let r := d.mux.closeWrite d.channel
  { d with mux := r.1, channel := r.2 }

def closeRead (d : Duplex σ) : Duplex σ := { d with mux := d.mux.closeRead, response := none }

def close (d : Duplex σ) : Duplex σ :=
  let r := d.mux.close d.channel d.pool
  { d with mux := r.1, channel := r.2.1, response := none, pool := r.2.2 }

/-- Closes the transport itself, which only its sole holder may do. -/
def closeTransport (d : Duplex σ) : Except IoFault Unit × Duplex σ :=
  match d.mux.closeTransport d.channel d.pool with
  | (.ok _, mux, channel, pool) =>
    (.ok (), { d with mux := mux, channel := channel, response := none, pool := pool })
  | (.error f, _) => (.error f, d)

def receive (d : Duplex σ) : DuplexAnswer × Duplex σ :=
  if d.channel.receiving then
    let r := d.channel.receive
    (.receipt r.1, { d with channel := r.2 })
  else (.silent, d)

def join (d : Duplex σ) : Duplex σ :=
  if d.mux.lease.isSome || 0 < d.others then
    { d with pool := d.pool.retain 0, others := d.others + 1 }
  else d

def part (d : Duplex σ) : Duplex σ :=
  if 0 < d.others then { d with pool := d.pool.release 0, others := d.others - 1 } else d

variable [ByteStream σ]

/-- Reads the response body; a closed half is at its end. -/
def read (now room : Nat) (d : Duplex σ) : Poll Bytes × Duplex σ :=
  match d.response with
  | some s =>
    let r := ByteStream.read now room s
    (r.1, { d with response := some r.2 })
  | none => (.ready [], d)

instance : ByteStream (Duplex σ) where
  read := read
  write _ := write
  flush _ d := (.ready (), d)
  shutdown _ d := (.ready (), d.closeWrite)
  wake? d := d.response.bind ByteStream.wake?

def step (d : Duplex σ) : DuplexEvent → DuplexAnswer × Duplex σ
  | .use u =>
    let r := ByteStream.use d u
    (.use r.1, r.2)
  | .closeWrite => (.done (.ok ()), d.closeWrite)
  | .closeRead => (.done (.ok ()), d.closeRead)
  | .close => (.done (.ok ()), d.close)
  | .closeTransport =>
    let r := d.closeTransport
    (.done r.1, r.2)
  | .received => d.receive
  | .abandoned => (.silent, { d with channel := d.channel.abandon })
  | .joined => (.silent, d.join)
  | .parted => (.silent, d.part)

def run (others : Nat) (response : σ) (es : List DuplexEvent) :
    List (DuplexEvent × DuplexAnswer) × Duplex σ :=
  transcript step (start others response) es

def severed (d : Duplex σ) : Bool := d.pool.ledger.isClosed 0

end Duplex

/-- The chunk that a write put into the request body, by its answer. -/
def chunkOf : DuplexEvent × DuplexAnswer → List Bytes
  | (.use (.write _ bs), .use (.write (.ready n))) => if n = 0 then [] else [bs.take n]
  | _ => []

def receiptOf : DuplexEvent × DuplexAnswer → List Receipt
  | (_, .receipt r) => [r]
  | _ => []

def Receipt.chunks : Receipt → List Bytes
  | chunk bs => [bs]
  | _ => []

def acceptedChunks (log : List (DuplexEvent × DuplexAnswer)) : List Bytes := log.flatMap chunkOf

def receipts (log : List (DuplexEvent × DuplexAnswer)) : List Receipt := log.flatMap receiptOf

end TunnelDial
