import TunnelDial.Http2.Endpoint

/-! The answer of a scripted HTTP/2 server to one request: after a pause a head, pieces of a
response, perhaps a reset; then the request body is read to its end, and sent back if the plan says
so. -/
namespace TunnelDial.Rehearsal

open Http2

/-- A piece of a response: bytes, or a pause. -/
inductive Piece
  | bytes (bs : Bytes)
  | pause (time : Nat)
deriving Repr

structure StreamPlan where
  delay : Nat
  hangs : Bool
  reset : Option Reason
  status : Nat
  data : Option (List Piece)
  thenReset : Option Reason
  ends : Bool
  noRead : Bool
  echo : Bool
deriving Repr

def StreamPlan.echoing : StreamPlan := ⟨0, false, none, 200, none, none, false, false, true⟩

inductive HandlerPhase
  | delayed
  | hanging
  | answering (pieces : List Piece) (since : Option Nat)
  | reading
  | over
deriving Repr

/-- A request being answered: its stream, since when, what its body held, and how that ended. -/
structure Handler where
  stream : Nat
  plan : StreamPlan
  since : Nat
  phase : HandlerPhase
  received : Bytes
  outcome : Option String
deriving Repr

namespace Handler

def reasonText (c : Cause) : String :=
  match c.reason? with
  | some r => "Some(" ++ r.name ++ ")"
  | none => "None"

/-- The answer to a request is over; what it held of the stream goes. -/
def leave (h : Handler) (e : Endpoint) (outcome : Option String) : Bool × Handler × Endpoint :=
  (true, { h with phase := .over, outcome := outcome },
    (e.modify h.stream fun s => { s with writing := false }).dropReading h.stream)

def respond (h : Handler) (e : Endpoint) : Bool × Handler × Endpoint :=
  match (e.stream? h.stream).map (·.failure.isSome) with
  | some false =>
    match h.plan.reset with
    | some r =>
      h.leave ((e.modify h.stream fun s => { s with writing := false }).reset h.stream .user r) none
    | none =>
      let last := h.plan.status ≠ 200 ∧ h.plan.data.isNone
      let status := Bytes.ofText (toString h.plan.status)
      let e := e.sendHead h.stream [⟨Bytes.ofText ":status", status⟩] last
      if last then h.leave e none
      else (true, { h with phase := .answering (h.plan.data.getD []) none }, e)
  | _ => h.leave e (some "send_failed")

def afterPieces (h : Handler) (e : Endpoint) : Bool × Handler × Endpoint :=
  match h.plan.thenReset with
  | some r => h.leave (e.reset h.stream .user r) none
  | none =>
    let e := if h.plan.ends then e.finish h.stream else e
    (true, { h with phase := if h.plan.noRead then .hanging else .reading }, e)

def sendBytes (id : Nat) (bs : Bytes) (e : Endpoint) : Option Endpoint :=
  match e.stream? id with
  | some s => if s.failure.isSome || s.sendEnded then none else some (e.post id bs)
  | none => none

def readBody (h : Handler) (e : Endpoint) : Bool × Handler × Endpoint :=
  let r := e.read h.stream
  match r.1 with
  | .data bs =>
    let h := { h with received := h.received ++ bs }
    if h.plan.echo && !h.plan.ends && !bs.isEmpty then
      match sendBytes h.stream bs r.2 with
      | some e => (true, h, e)
      | none => h.leave r.2 (some "send_failed")
    else (true, h, r.2)
  | .ended =>
    let e := if h.plan.ends then r.2 else r.2.finish h.stream
    h.leave e (some "eof")
  | .failed c => h.leave r.2 (some (reasonText c))
  | .waiting => (false, h, r.2)

def step (now : Nat) (h : Handler) (e : Endpoint) : Bool × Handler × Endpoint :=
  match h.phase with
  | .delayed =>
    if now < h.since + h.plan.delay then (false, h, e)
    else if h.plan.hangs then (true, { h with phase := .hanging }, e)
    else h.respond e
  | .hanging => (false, h, e)
  | .over => (false, h, e)
  | .answering [] _ => h.afterPieces e
  | .answering (.bytes bs :: rest) _ =>
    match sendBytes h.stream bs e with
    | some e => (true, { h with phase := .answering rest none }, e)
    | none => h.leave e (some "send_failed")
  | .answering (.pause n :: rest) since =>
    let start := since.getD now
    if start + n ≤ now then (true, { h with phase := .answering rest none }, e)
    else (false, { h with phase := .answering (.pause n :: rest) (some start) }, e)
  | .reading => h.readBody e

def run (now : Nat) : Nat → Bool → Handler → Endpoint → Bool × Handler × Endpoint
  | 0, moved, h, e => (moved, h, e)
  | n + 1, moved, h, e =>
    match h.step now e with
    | (true, h, e) => run now n true h e
    | (false, h, e) => (moved, h, e)

def runAll (now : Nat) (e : Endpoint) : List Handler → Bool × List Handler × Endpoint
  | [] => (false, [], e)
  | h :: hs =>
    let r := run now 1000000 false h e
    let rest := runAll now r.2.2 hs
    (r.1 || rest.1, r.2.1 :: rest.2.1, rest.2.2)

def wake? (h : Handler) : Option Nat :=
  match h.phase with
  | .delayed => some (h.since + h.plan.delay)
  | .answering (.pause n :: _) (some start) => some (start + n)
  | _ => none

end Handler

end TunnelDial.Rehearsal
