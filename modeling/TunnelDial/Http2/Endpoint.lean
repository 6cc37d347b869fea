import TunnelDial.Http2.Cause
import TunnelDial.Http2.HeaderBlock
import TunnelDial.Http2.Window

/-! One end of an HTTP/2 connection, client or server: its streams with their two directions, flow
control, and the frames that wait to be sent. -/
namespace TunnelDial.Http2

inductive Outgoing
  | data (bs : Bytes)
  | last
  | reset (r : Reason)
deriving DecidableEq, Repr

/-- A stream. Each direction ends on its own; a failure ends both. `head` is a head that came and
was not taken, `inbox` the data that came and was not read, `outbox` what flow control holds back.
-/
structure Stream where
  id : Nat
  sendRoom : Int
  recv : Window
  sendEnded : Bool
  recvEnded : Bool
  failure : Option Cause
  headed : Bool
  head : Option (List BlockField)
  inbox : List Bytes
  outbox : List Outgoing
  reading : Bool
  writing : Bool
deriving Repr

namespace Stream

def fresh (id sendRoom ownWindow : Nat) : Stream :=
  ⟨id, sendRoom, .ofSize ownWindow, false, false, none, false, none, [], [], true, true⟩

def isOver (s : Stream) : Bool := s.failure.isSome || (s.sendEnded && s.recvEnded)

def fail (c : Cause) (s : Stream) : Stream := if s.isOver then s else { s with failure := some c }

end Stream

structure Endpoint where
  isClient : Bool
  input : Bytes
  output : Bytes
  queued : List Frame
  streams : List Stream
  nextId : Nat
  lastSeen : Nat
  sendRoom : Int
  recv : Window
  firstRoom : Nat
  ownWindow : Nat
  partialHead : Option (Nat × Bool × Bytes)
  limit : Option Nat
  settled : Bool
  farewell : Option Cause
  farewellAt : Option Nat
  pongs : Nat
  closing : Bool
deriving Repr

namespace Endpoint

/-- How many streams may be opened before the other side has said how many. -/
def firstLimit : Nat := 100

def start (isClient : Bool) (ownWindow : Nat) : Endpoint :=
  ⟨isClient, [], [], [], [], 1, 0, Window.standard, .ofSize Window.standard, Window.standard,
    ownWindow, none, some firstLimit, false, none, none, 0, false⟩

def push (e : Endpoint) (f : Frame) : Endpoint := { e with queued := e.queued ++ [f] }

def stream? (e : Endpoint) (id : Nat) : Option Stream := e.streams.find? (·.id = id)

def modify (e : Endpoint) (id : Nat) (f : Stream → Stream) : Endpoint :=
  { e with streams := e.streams.map fun s => if s.id = id then f s else s }

def streamOf? : Frame → Option Nat
  | .data s _ _ => some s
  | .headers s _ _ _ => some s
  | .reset s _ => some s
  | .window s _ => some s
  | .continuation s _ _ => some s
  | _ => none

def unqueue (e : Endpoint) (id : Nat) : Endpoint :=
  { e with queued := e.queued.filter fun f => streamOf? f ≠ some id }.modify id
    fun s => { s with outbox := [] }

def failAll (e : Endpoint) (c : Cause) : Endpoint :=
  { e with streams := e.streams.map (Stream.fail c) }

def refuse (e : Endpoint) (r : Reason) (debug : Bytes) : Endpoint :=
  let c : Cause := .goAway .library r debug
  let e := { e.failAll c with queued := [], farewell := some c, closing := true }
  e.push (.goAway e.lastSeen r debug)

/-- A stream is ended at once; what waits to be sent on it is lost. -/
def reset (e : Endpoint) (id : Nat) (party : Party) (r : Reason) : Endpoint :=
  ((e.unqueue id).modify id fun s =>
    if s.isOver then s else { s with failure := some (.reset party r) }).push (.reset id r)

/-- A stream that nobody reads or writes any more is ended, after all that waits to be sent. -/
def forsake (e : Endpoint) (id : Nat) : Endpoint :=
  match e.stream? id with
  | some s =>
    if s.isOver ∨ s.reading ∨ s.writing then e
    else
      let r : Reason :=
        if !e.isClient && s.sendEnded && !s.recvEnded then .noError else .cancel
      e.modify id fun s =>
        { s with failure := some (.reset .library r), outbox := s.outbox ++ [.reset r] }
  | none => e

def releaseConnection (e : Endpoint) (n : Nat) : Endpoint := { e with recv := e.recv.release n }

def release (e : Endpoint) (id n : Nat) : Endpoint :=
  (e.releaseConnection n).modify id fun s => { s with recv := s.recv.release n }

def openStream (e : Endpoint) : Endpoint :=
  { e with
    nextId := e.nextId + 2
    streams := e.streams ++ [Stream.fresh e.nextId e.firstRoom e.ownWindow] }

def dropReading (e : Endpoint) (id : Nat) : Endpoint :=
  match e.stream? id with
  | none => e
  | some s =>
    let e := e.releaseConnection s.inbox.flatten.length
    (e.modify id fun s => { s with reading := false, inbox := [], head := none }).forsake id

def dropWriting (e : Endpoint) (id : Nat) : Endpoint :=
  (e.modify id fun s => { s with writing := false }).forsake id

inductive Reading
  | data (bs : Bytes)
  | ended
  | failed (c : Cause)
  | waiting
deriving Repr

/-- Reads one piece of data, and tells the other side that it may send more. -/
def read (e : Endpoint) (id : Nat) : Reading × Endpoint :=
  match e.stream? id with
  | none => (.ended, e)
  | some s =>
    match s.inbox with
    | bs :: rest =>
      (.data bs, (e.modify id fun s => { s with inbox := rest }).release id bs.length)
    | [] =>
      match s.failure with
      | some c => (.failed c, e)
      | none => (if s.recvEnded then .ended else .waiting, e)

def capacity (e : Endpoint) (s : Stream) : Nat :=
  min (min s.sendRoom e.sendRoom).toNat Frame.payloadLimit

def emit (e : Endpoint) (s : Stream) (bs : Bytes) : Endpoint :=
  if bs.isEmpty then e
  else
    let e := e.modify s.id fun s => { s with sendRoom := s.sendRoom - bs.length }
    { e with sendRoom := e.sendRoom - bs.length }.push (.data s.id bs false)

/-- Sends as much of some bytes as may be sent; the rest is returned. -/
def send (e : Endpoint) (s : Stream) (bs : Bytes) : Bytes × Endpoint :=
  (bs.drop (e.capacity s), e.emit s (bs.take (e.capacity s)))

def post (e : Endpoint) (id : Nat) (bs : Bytes) : Endpoint :=
  e.modify id fun s => { s with outbox := s.outbox ++ [.data bs] }

def finish (e : Endpoint) (id : Nat) : Endpoint :=
  e.modify id fun s => { s with sendEnded := true, outbox := s.outbox ++ [.last] }

def headFrames (id : Nat) (block : Bytes) (last : Bool) : List Frame :=
  let rest := block.drop Frame.payloadLimit
  if rest.isEmpty then [.headers id block last true]
  else
    let pieces := (List.range ((rest.length + Frame.payloadLimit - 1) / Frame.payloadLimit)).map
      fun i => (rest.drop (i * Frame.payloadLimit)).take Frame.payloadLimit
    .headers id (block.take Frame.payloadLimit) last false ::
      pieces.mapIdx fun i p => .continuation id p (i + 1 = pieces.length)

def sendHead (e : Endpoint) (id : Nat) (fields : List BlockField) (last : Bool) : Endpoint :=
  let e := { e with queued := e.queued ++ headFrames id (HeaderBlock.encode fields) last }
  if last then e.modify id fun s => { s with sendEnded := true } else e

/-- How many pieces of data may wait to be read on one stream. -/
def inboxLimit : Nat := 209

/-- Bytes came that nobody is going to read: they count, and are used up at once. -/
def passOver (e : Endpoint) (n : Nat) : Endpoint := { e with recv := (e.recv.take n).release n }

/-- Data are taken off the windows of the connection and of their stream, and wait there if somebody
is going to read them. -/
def takeIn (e : Endpoint) (id : Nat) (bs : Bytes) (last : Bool) : Endpoint :=
  { e with recv := e.recv.take bs.length }.modify id fun s => { s with
    recv := s.recv.take bs.length
    recvEnded := s.recvEnded || last
    inbox := if s.reading then s.inbox ++ [bs] else s.inbox }

def receiveData (e : Endpoint) (id : Nat) (bs : Bytes) (last : Bool) : Endpoint :=
  match e.stream? id with
  | none =>
    if (if e.isClient then e.nextId else e.lastSeen + 1) ≤ id then e.refuse .protocolError []
    else if e.recv.room < bs.length then e.refuse .flowControl []
    else (e.passOver bs.length).push (.reset id .streamClosed)
  | some s =>
    match s.failure with
    | some c =>
      if c.isRemote then e.refuse .protocolError []
      else if e.recv.room < bs.length then e.refuse .flowControl []
      else e.passOver bs.length
    | none =>
      if s.recvEnded ∨ !s.headed then e.refuse .protocolError []
      else if e.recv.room < bs.length then e.refuse .flowControl []
      else if s.recv.room < bs.length then (e.passOver bs.length).reset id .library .flowControl
      else
        let e := e.takeIn id bs last
        if !s.reading then e.releaseConnection bs.length
        else if inboxLimit < s.inbox.length + 1 then
          e.refuse .calm (Bytes.ofText "too_many_data_frames")
        else e

def receiveStatus (e : Endpoint) (id status : Nat) (fields : List BlockField) (last : Bool) :
    Endpoint :=
  let e := { e with lastSeen := max e.lastSeen id }
  if status / 100 = 1 then (if last then e.reset id .library .protocolError else e)
  else e.modify id fun s => { s with headed := true, head := some fields, recvEnded := last }

def statusOf? (fields : List BlockField) : Option Nat :=
  (HeaderBlock.value? ":status" fields).bind fun v =>
    if v.length = 3 ∧ v.all (fun b => 48 ≤ b ∧ b ≤ 57) then
      some (v.foldl (fun n b => n * 10 + (b.toNat - 48)) 0)
    else none

def receiveHead (e : Endpoint) (id : Nat) (block : Bytes) (last : Bool) : Endpoint :=
  match HeaderBlock.decode block with
  | none => e.refuse .compression []
  | some fields =>
    match e.stream? id with
    | some s =>
      if s.failure.isSome then e
      else if s.recvEnded then e.refuse .protocolError []
      else if s.headed then
        if last then e.modify id fun s => { s with recvEnded := true }
        else e.reset id .library .protocolError
      else
        match statusOf? fields with
        | some n => e.receiveStatus id n fields last
        | none => e.reset id .library .protocolError
    | none =>
      if e.isClient then (if e.nextId ≤ id then e.refuse .protocolError [] else e)
      else if id % 2 = 0 ∨ id ≤ e.lastSeen then e.refuse .protocolError []
      else
        let s := Stream.fresh id e.firstRoom e.ownWindow
        { e with
          lastSeen := id
          streams := e.streams ++
            [{ s with headed := true, head := some fields, recvEnded := last }] }

def applySetting (e : Endpoint) (s : Setting) : Endpoint :=
  match s.id with
  | 3 => { e with limit := some s.value }
  | 4 =>
    { e with
      firstRoom := s.value
      streams := e.streams.map fun x =>
        { x with sendRoom := x.sendRoom + (s.value : Int) - (e.firstRoom : Int) } }
  | _ => e

def receiveSettings (e : Endpoint) (values : List Setting) : Endpoint :=
  let e := if e.settled then e else { e with limit := none, settled := true }
  (values.foldl applySetting e).push .settingsAck

/-- The other side takes no streams past the last one that it names. -/
def receiveFarewell (e : Endpoint) (last : Nat) (r : Reason) (debug : Bytes) : Endpoint :=
  if (e.farewellAt.getD last) < last then e.refuse .protocolError []
  else
    let c : Cause := .goAway .remote r debug
    { e with
      farewell := some c
      farewellAt := some last
      streams := e.streams.map fun s => if last < s.id then s.fail c else s }

def receiveReset (e : Endpoint) (id : Nat) (r : Reason) : Endpoint :=
  match e.stream? id with
  | some s =>
    if s.isOver && s.outbox.isEmpty then e
    else (e.unqueue id).modify id fun s => { s with failure := some (.reset .remote r) }
  | none =>
    if (if e.isClient then e.nextId else e.lastSeen + 1) ≤ id then e.refuse .protocolError [] else e

def receiveWindow (e : Endpoint) (id more : Nat) : Endpoint :=
  if id = 0 then
    if (Frame.windowLimit : Int) < e.sendRoom + more then e.refuse .flowControl []
    else { e with sendRoom := e.sendRoom + more }
  else
    match e.stream? id with
    | some s =>
      if s.failure.isSome then e
      else if (Frame.windowLimit : Int) < s.sendRoom + more then e.reset id .library .flowControl
      else e.modify id fun s => { s with sendRoom := s.sendRoom + more }
    | none =>
      if (if e.isClient then e.nextId else e.lastSeen + 1) ≤ id then e.refuse .protocolError []
      else e

def receive (e : Endpoint) (f : Frame) : Endpoint :=
  match e.partialHead, f with
  | some (id, last, block), .continuation id' more whole =>
    if id ≠ id' then e.refuse .protocolError []
    else if whole then { e with partialHead := none }.receiveHead id (block ++ more) last
    else { e with partialHead := some (id, last, block ++ more) }
  | some _, _ => e.refuse .protocolError []
  | none, .continuation _ _ _ => e.refuse .protocolError []
  | none, .data id bs last => e.receiveData id bs last
  | none, .headers id block last whole =>
    if whole then e.receiveHead id block last else { e with partialHead := some (id, last, block) }
  | none, .reset id r => e.receiveReset id r
  | none, .settings values => e.receiveSettings values
  | none, .settingsAck => e
  | none, .ping ack bytes =>
    if ack then { e with pongs := e.pongs + 1 } else e.push (.ping true bytes)
  | none, .goAway last r debug => e.receiveFarewell last r debug
  | none, .window id more => e.receiveWindow id more
  | none, .other _ => e

def digest : Nat → Endpoint → Endpoint
  | 0, e => e
  | n + 1, e =>
    if e.closing then e
    else
      match Frame.next e.input with
      | .more => e
      | .broken r => e.refuse r []
      | .frame f rest => digest n ({ e with input := rest }.receive f)

def feed (e : Endpoint) (bs : Bytes) : Endpoint :=
  let e := { e with input := e.input ++ bs }
  digest (e.input.length + 1) e

def end_ (e : Endpoint) : Endpoint :=
  if e.input.isEmpty then
    { e.failAll .brokenStream with farewell := e.farewell.or (some .brokenConnection) }
  else { e.failAll .cutFrame with farewell := e.farewell.or (some .cutFrame) }

def letGo (id : Nat) : Nat → Endpoint → Endpoint
  | 0, e => e
  | n + 1, e =>
    match e.stream? id with
    | none => e
    | some s =>
      match s.outbox with
      | [] => e
      | .data bs :: rest =>
        let r := e.send s bs
        if r.1.length = bs.length ∧ bs ≠ [] then e
        else
          letGo id n (r.2.modify id fun s =>
            { s with outbox := if r.1.isEmpty then rest else .data r.1 :: rest })
      | .last :: rest =>
        letGo id n ((e.modify id fun s => { s with outbox := rest }).push (.data id [] true))
      | .reset r :: rest =>
        letGo id n ((e.modify id fun s => { s with outbox := rest }).push (.reset id r))

def letAllGo (e : Endpoint) : Endpoint :=
  e.streams.foldl (fun e s => if s.outbox.isEmpty then e else letGo s.id 1000000 e) e

def announceStream (e : Endpoint) (s : Stream) : Endpoint :=
  match s.recv.due? with
  | some more =>
    if s.recvEnded ∨ s.isOver then e
    else ({ e with queued := .window s.id more :: e.queued }).modify s.id
      fun s => { s with recv := s.recv.announce }
  | none => e

def announce (e : Endpoint) : Endpoint :=
  let e := e.streams.foldl announceStream e
  match e.recv.due? with
  | some more => { e with queued := .window 0 more :: e.queued, recv := e.recv.announce }
  | none => e

def render (e : Endpoint) : Endpoint :=
  let e := if e.closing then e else e.letAllGo.announce
  { e with output := e.output ++ e.queued.flatMap Frame.encode, queued := [] }

def isBusy (e : Endpoint) : Bool := e.streams.any fun s => !s.isOver || !s.outbox.isEmpty

end Endpoint

end TunnelDial.Http2
