import TunnelDial.Request.Reply
import TunnelDial.Stream.Basic

/-! The exchange with a proxy on a connection of its own: the request is written and flushed, then
the head of the answer is read. One deadline covers all of it. -/
namespace TunnelDial

inductive ExchangePhase
  | writing (left : Bytes)
  | flushing
  | reading (head : HeadReader)
deriving DecidableEq, Repr

structure Exchange where
  phase : ExchangePhase
  deadline : Nat
deriving DecidableEq, Repr

inductive ExchangeStep
  | next (e : Exchange)
  | waiting
  | accepted (status : Status) (rest : Bytes)
  | failed (f : Failure)
deriving DecidableEq, Repr

namespace Exchange

def readSize : Nat := 8192

def start (request : Bytes) (deadline : Nat) : Exchange := ⟨.writing request, deadline⟩

def activity (e : Exchange) : String :=
  match e.phase with
  | .reading _ => "read"
  | _ => "write"

def expired (e : Exchange) : Failure := .deadline e.activity

/-- The answer of the proxy: any code but 200 refuses the tunnel. -/
def conclude (s : Status) (rest : Bytes) : ExchangeStep :=
  if s.code = 200 then .accepted s rest else .failed (.rejected s.text)

/-- A failed write or read ends the exchange, unless it was merely interrupted. -/
def retry (e : Exchange) (f : IoFault) : ExchangeStep :=
  if f.kind = .interrupted then .next e else .failed (.io f)

def step {σ : Type} [ByteStream σ] (now : Nat) (e : Exchange) (s : σ) : ExchangeStep × σ :=
  match e.phase with
  | .writing [] => (.next { e with phase := .flushing }, s)
  | .writing left =>
    let r := ByteStream.write now left s
    match r.1 with
    | .ready 0 => (.failed (.io IoKind.writeZero.fault), r.2)
    | .ready n => (.next { e with phase := .writing (left.drop n) }, r.2)
    | .fault f => (retry e f, r.2)
    | .waiting => (.waiting, r.2)
  | .flushing =>
    let r := ByteStream.flush now s
    match r.1 with
    | .ready _ => (.next { e with phase := .reading .start }, r.2)
    | .fault f => (.failed (.io f), r.2)
    | .waiting => (.waiting, r.2)
  | .reading head =>
    let r := ByteStream.read now readSize s
    match r.1 with
    | .ready [] => (.failed (.io headUnfinished), r.2)
    | .ready bs =>
      match head.feed bs with
      | .more head => (.next { e with phase := .reading head }, r.2)
      | .done status rest => (conclude status rest, r.2)
      | .fault f => (.failed (.io f), r.2)
    | .fault f => (retry e f, r.2)
    | .waiting => (.waiting, r.2)

variable {σ : Type} [ByteStream σ]

/-- One call, unless it has to wait when the deadline has come. -/
def attend (now : Nat) (e : Exchange) (s : σ) : ExchangeStep × σ :=
  match e.step now s with
  | (.waiting, s) => (if e.deadline ≤ now then .failed e.expired else .waiting, s)
  | r => r

/-- The calls at some instants, one after the other, as far as the exchange goes. -/
def course (e : Exchange) (s : σ) : List Nat → ExchangeStep × σ
  | [] => (.next e, s)
  | now :: nows =>
    match e.attend now s with
    | (.next e, s) => course e s nows
    | (.waiting, s) => course e s nows
    | r => r

end Exchange

end TunnelDial
