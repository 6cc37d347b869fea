import TunnelDial.Rehearsal.Calls

/-! Operations on a tunnel that take several calls, and waiting for them: while an operation waits,
everything else runs; when nothing can run the clock goes on to the next instant at which something
happens, at most to the time limit of the operation. -/
namespace TunnelDial.Rehearsal

/-- An operation and what it has done so far. -/
inductive Task
  | write (bs : Bytes)
  | writeAll (left : Bytes)
  | read (n : Nat)
  | readExact (n : Nat) (got : Bytes)
  | readAll (got : List Bytes)
  | flush
  | shutdown
  | receive (trip : Nat)
deriving Repr

inductive TaskEnd
  | done
  | wrote (n : Nat)
  | bytes (bs : Bytes)
  | everything (bs : Bytes) (fault : Option IoFault)
  | unfinished (bs : Bytes)
  | bodyEnded
  | fault (f : IoFault)
  | pending
deriving Repr

inductive TaskStep
  | next (t : Task)
  | waiting
  | ended (e : TaskEnd)

namespace Task

def earlyEnd : IoFault := ⟨.unexpectedEof, "early eof"⟩

/-- The most bytes of one read of those that read everything. -/
def readSize : Nat := 65536

def unit (r : Poll Unit × World) : TaskStep × World :=
  match r.1 with
  | .ready _ => (.ended .done, r.2)
  | .fault f => (.ended (.fault f), r.2)
  | .waiting => (.waiting, r.2)

def step (name : String) (w : World) : Task → TaskStep × World
  | .write bs =>
    let r := w.write bs name
    match r.1 with
    | .ready n => (.ended (.wrote n), r.2)
    | .fault f => (.ended (.fault f), r.2)
    | .waiting => (.waiting, r.2)
  | .writeAll [] => (.ended .done, w)
  | .writeAll left =>
    let r := w.write left name
    match r.1 with
    | .ready 0 => (.ended (.fault IoKind.writeZero.fault), r.2)
    | .ready n => (.next (.writeAll (left.drop n)), r.2)
    | .fault f =>
      if f.kind = .interrupted then (.next (.writeAll left), r.2) else (.ended (.fault f), r.2)
    | .waiting => (.waiting, r.2)
  | .read n =>
    let r := w.read n name
    match r.1 with
    | .ready bs => (.ended (.bytes bs), r.2)
    | .fault f => (.ended (.fault f), r.2)
    | .waiting => (.waiting, r.2)
  | .readExact n got =>
    if got.length = n then (.ended (.bytes got), w)
    else
      let r := w.read (n - got.length) name
      match r.1 with
      | .ready [] => (.ended (.fault earlyEnd), r.2)
      | .ready bs => (.next (.readExact n (got ++ bs)), r.2)
      | .fault f => (.ended (.fault f), r.2)
      | .waiting => (.waiting, r.2)
  | .readAll got =>
    let r := w.read readSize name
    match r.1 with
    | .ready [] => (.ended (.everything got.reverse.flatten none), r.2)
    | .ready bs => (.next (.readAll (bs :: got)), r.2)
    | .fault f => (.ended (.everything got.reverse.flatten (some f)), r.2)
    | .waiting => (.waiting, r.2)
  | .flush => unit (w.flush name)
  | .shutdown => unit (w.shutdown name)
  | .receive trip =>
    match w.trips[trip]? with
    | some t =>
      let r := t.channel.receive
      let w := w.setTrip trip { t with channel := r.2 }
      match r.1 with
      | .chunk bs => (.ended (.bytes bs), w)
      | .ended => (.ended .bodyEnded, w)
      | .nothing => (.waiting, w)
    | none => (.ended .done, w)

def giveUp : Task → TaskEnd
  | .readAll got => .unfinished got.reverse.flatten
  | _ => .pending

/-- The time that an operation on a tunnel may take, in milliseconds. -/
def limit : Nat := 2000

end Task

namespace World

def nextWake (w : World) (limit : Nat) : Nat :=
  w.wakes.foldl (fun t x => if w.now < x then min t x else t) limit

/-- The first of some instants that is still to come; the present one if none is. -/
def nextWakeOf (w : World) (wakes : List Nat) : Nat :=
  ((wakes.filter (w.now < ·)).min?).getD w.now

def awaitTask (name : String) (deadline : Nat) : Nat → Task → World → TaskEnd × World
  | 0, t, w => (t.giveUp, w)
  | n + 1, t, w =>
    match t.step name w with
    | (.next t, w) => awaitTask name deadline n t w
    | (.ended e, w) => (e, w)
    | (.waiting, w) =>
      if deadline ≤ w.now then (t.giveUp, w)
      else
        match w.stir with
        | (true, w) => awaitTask name deadline n t w.settle
        | (false, w) => awaitTask name deadline n t { w with now := w.nextWake deadline }

def perform (name : String) (t : Task) (w : World) : TaskEnd × World :=
  awaitTask name (w.now + Task.limit) 10000000 t w

def receive (trip : Nat) (w : World) : TaskEnd × World := w.perform "" (.receive trip)

end World

end TunnelDial.Rehearsal
