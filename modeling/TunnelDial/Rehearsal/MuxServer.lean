import TunnelDial.Http2.Client
import TunnelDial.Rehearsal.Handler
import TunnelDial.Stream.Pipe

/-! A scripted HTTP/2 server at the far end of a pipe. Each request is answered by its own plan; the
server records the requests, what their bodies held and how they ended. -/
namespace TunnelDial.Rehearsal

open Http2

structure ServerPlan where
  maxStreams : Option Nat
  window : Option Nat
  delay : Nat
  farewellAfter : Option Nat
  abortAfter : Option Nat
  abortReason : Reason
  cutAt : Option Nat
  streams : List StreamPlan
deriving Repr

/-- The plan for a request; the last one repeats. -/
def ServerPlan.planOf (p : ServerPlan) (i : Nat) : StreamPlan :=
  (p.streams[i]?).getD (p.streams.getLast?.getD .echoing)

structure SeenRequest where
  method : Bytes
  uri : Bytes
  headers : List BlockField
deriving Repr

inductive ServerPhase
  | waiting
  | greeting
  | serving
  | gone
deriving DecidableEq, Repr

structure MuxServer where
  plan : ServerPlan
  since : Option Nat
  phase : ServerPhase
  core : Endpoint
  requests : List SeenRequest
  handlers : List Handler
  unheard : Nat
  leaving : Bool
  notes : List String
deriving Repr

namespace MuxServer

def ofPlan (p : ServerPlan) : MuxServer :=
  ⟨p, none, .waiting, .start false (p.window.getD Window.standard), [], [], 0, false, []⟩

def seen (fields : List BlockField) : SeenRequest :=
  let own := fields.filter fun f => f.name.head? ≠ some 58
  let named := fun (name : String) => (HeaderBlock.value? name fields).getD []
  ⟨named ":method", named ":authority", own⟩

/-- The server says that it takes no more requests, and asks for a sign that this was heard. -/
def sayFarewell (s : MuxServer) : MuxServer :=
  { s with leaving := true
           core := (s.core.push (.goAway Frame.windowLimit .noError [])).push
             (.ping false (List.replicate 8 11)) }

def abort (s : MuxServer) : MuxServer :=
  let c : Cause := .goAway .user s.plan.abortReason []
  let core := { s.core.failAll c with queued := [], closing := true, farewell := some c }
  { s with core := core.push (.goAway s.core.lastSeen s.plan.abortReason []) }

def takeUp (now : Nat) (s : MuxServer) (x : Stream) (fields : List BlockField) : MuxServer :=
  let i := s.requests.length
  let core := s.core.modify x.id fun y => { y with head := none }
  let s := { s with core := core, requests := s.requests ++ [seen fields] }
  if s.plan.abortAfter = some (i + 1) then
    { s with unheard := s.unheard + 1 }.abort
  else
    let s := { s with handlers := s.handlers ++ [⟨x.id, s.plan.planOf i, now, .delayed, [], none⟩] }
    if s.plan.farewellAfter = some (i + 1) then s.sayFarewell else s

def takeAll (now : Nat) (s : MuxServer) : MuxServer :=
  s.core.streams.foldl (fun s x =>
    match x.head with
    | some fields => if s.core.closing then s else s.takeUp now x fields
    | none => s) s

def depart (s : MuxServer) (note : String) (pipe : Pipe) : MuxServer × Pipe :=
  ({ s with phase := .gone, notes := s.notes ++ [note] }, pipe.farDrop)

def endNote (s : MuxServer) : String :=
  match s.core.farewell with
  | some (.goAway .user _ _) => "closed"
  | some (.goAway _ r _) => if r = .noError then "closed" else "connection_error"
  | some (.io f) => if (Cause.io f) = .cutFrame then "connection_error" else "closed"
  | _ => "closed"

def speak : Nat → Bool → MuxServer → Pipe → Bool × MuxServer × Pipe
  | 0, moved, s, pipe => (moved, s, pipe)
  | n + 1, moved, s, pipe =>
    if s.core.output.isEmpty then (moved, s, pipe)
    else
      let r := pipe.farWrite s.core.output
      match r.1 with
      | .ready 0 => (moved, s, r.2)
      | .ready k =>
        speak n true { s with core := { s.core with output := s.core.output.drop k } } r.2
      | .fault _ => (moved, { s with core := { s.core with output := [] } }, r.2)
      | .waiting => (moved, s, r.2)

/-- The sign came that the farewell was heard: it is repeated with the last request taken. -/
def confirmFarewell (s : MuxServer) : MuxServer :=
  if s.leaving && 0 < s.core.pongs && s.core.farewellAt.isNone then
    let last := s.core.lastSeen
    { s with core := { s.core with farewellAt := some last }.push (.goAway last .noError []) }
  else s

def mayLeave (s : MuxServer) : Bool :=
  s.core.closing || (s.leaving && s.core.farewellAt.isSome && !s.core.isBusy)

def send (moved : Bool) (s : MuxServer) (pipe : Pipe) : Bool × MuxServer × Pipe :=
  let r := speak 1000000 moved { s with core := s.core.render } pipe
  if r.2.1.mayLeave && r.2.1.core.output.isEmpty then
    let d := r.2.1.depart r.2.1.endNote r.2.2
    (true, d.1, d.2)
  else r

def serve (now : Nat) (s : MuxServer) (pipe : Pipe) : Bool × MuxServer × Pipe :=
  let r := pipe.farRead 1000000
  let heard : Bool × MuxServer × Option Unit := match r.1 with
    | .ready [] => (true, { s with core := s.core.end_ }, some ())
    | .ready bs => (true, ({ s with core := s.core.feed bs }.takeAll now).confirmFarewell, none)
    | _ => (false, s, none)
  let s := heard.2.1
  let run := Handler.runAll now s.core s.handlers
  let s := { s with handlers := run.2.1, core := run.2.2 }
  match heard.2.2 with
  | some _ =>
    let d := s.depart s.endNote r.2
    (true, d.1, d.2)
  | none => send (heard.1 || run.1) s r.2

def greet (s : MuxServer) (pipe : Pipe) : Bool × MuxServer × Pipe :=
  let said := speak 1000000 false { s with core := s.core.render } pipe
  let s := said.2.1
  let r := said.2.2.farRead (Client.preface.length - s.core.input.length)
  match r.1 with
  | .ready [] =>
    let d := s.depart "handshake_failed" r.2
    (true, d.1, d.2)
  | .ready bs =>
    let all := s.core.input ++ bs
    if all = Client.preface then
      (true, { s with core := { s.core with input := [] }, phase := .serving }, r.2)
    else if all = Client.preface.take all.length then
      (true, { s with core := { s.core with input := all } }, r.2)
    else
      let d := s.depart "handshake_failed" r.2
      (true, d.1, d.2)
  | _ => (said.1, s, r.2)

def settings (p : ServerPlan) : List Setting :=
  (p.maxStreams.map fun n => Setting.mk 3 n).toList ++ (p.window.map fun n => Setting.mk 4 n).toList

def step (now : Nat) (s : MuxServer) (pipe : Pipe) : Bool × MuxServer × Pipe :=
  let start := s.since.getD now
  let s := { s with since := some start }
  if s.phase ≠ .gone ∧ s.plan.cutAt.any (fun n => start + n ≤ now) then
    let core := s.core.end_
    (true, { s with phase := .gone, core := core }, pipe.farDrop)
  else
    match s.phase with
    | .waiting =>
      if now < start + s.plan.delay then (false, s, pipe)
      else
        (true, { s with phase := .greeting, core := s.core.push (.settings (settings s.plan)) },
          pipe)
    | .greeting => s.greet pipe
    | .serving => s.serve now pipe
    | .gone =>
      let run := Handler.runAll now s.core s.handlers
      (run.1, { s with handlers := run.2.1, core := run.2.2 }, pipe)

def wakes (s : MuxServer) : List Nat :=
  let start := s.since.toList
  s.handlers.filterMap Handler.wake? ++ start.map (· + s.plan.delay)
    ++ start.flatMap fun t => (s.plan.cutAt.map (t + ·)).toList

end MuxServer

end TunnelDial.Rehearsal
