import TunnelDial.Http2.Authority
import TunnelDial.Http2.Endpoint
import TunnelDial.Request.Head
import TunnelDial.Stream.Basic
import TunnelDial.Tunnel.Pump

/-! The client's end of an HTTP/2 connection to a proxy: it opens one `CONNECT` stream for each
tunnel, and says whether it can open another. -/
namespace TunnelDial.Http2

/-- The endpoint, whether its connection is still driven, and whether it was closed on purpose. -/
structure Client where
  core : Endpoint
  alive : Bool
  closed : Bool
deriving Repr

namespace Client

def preface : Bytes := Bytes.ofText "PRI * HTTP/2.0\r\n\r\nSM\r\n\r\n"

def start (window : Option Nat) : Client :=
  let core := Endpoint.start true (window.getD Window.standard)
  let values := ⟨2, 0⟩ :: (window.map fun n => Setting.mk 4 n).toList
  ⟨{ core with output := preface }.push (.settings values), true, false⟩

/-- The streams that are in use, by a tunnel or by what sends its bytes on. -/
def active (c : Client) : Nat := (c.core.streams.filter fun s => s.reading || s.writing).length

def accepts (c : Client) : Bool :=
  !c.closed && c.alive && match c.core.limit with
    | some n => c.active < n
    | none => true

def failure (text : String) : Failure := .connect .http2 text

def connectionNames : List String :=
  ["connection", "transfer-encoding", "upgrade", "keep-alive", "proxy-connection"]

def wellFormed (h : Headers) : Bool :=
  let fields := h.toList
  !(fields.any fun f => connectionNames.contains f.1.text) &&
    match fields.find? fun f => f.1.text = "te" with
    | some f => f.2 = Bytes.ofText "trailers"
    | none => true

def fields (r : ConnectRequest) : List BlockField :=
  [⟨Bytes.ofText ":method", Bytes.ofText "CONNECT"⟩,
   ⟨Bytes.ofText ":authority", Bytes.ofText r.authority⟩]
  ++ r.headers.toList.map fun f => ⟨Bytes.ofChars f.1.chars, f.2⟩

def request (r : ConnectRequest) (c : Client) : Except Failure (Client × Nat) :=
  if c.closed then .error (failure "HTTP/2 transport is closed")
  else
    match c.core.farewell with
    | some cause => .error (failure ("HTTP/2 connection not ready: " ++ cause.text))
    | none =>
      match Authority.check r.authority with
      | .error f => .error (failure ("invalid CONNECT request: " ++ f.phrase))
      | .ok _ =>
        if !wellFormed r.headers then
          .error (failure "failed to send CONNECT request: user error: malformed headers")
        else
          let id := c.core.nextId
          .ok ({ c with core := c.core.openStream.sendHead id (fields r) false }, id)

def answer? (id : Nat) (c : Client) : Option (Except Failure Nat) :=
  let failed := fun (cause : Cause) =>
    some (.error (failure ("CONNECT request failed: " ++ cause.text)))
  match c.core.stream? id with
  | none => none
  | some s =>
    match s.head.bind Endpoint.statusOf?, s.failure with
    | some n, _ => some (.ok n)
    | none, some cause => failed cause
    | none, none => if s.recvEnded then failed (.reset .library .protocolError) else none

/-- Sends the chunks of a tunnel on, as flow control allows; `hand` is the rest of the chunk in
hand. Tells whether anything moved. -/
def pump (id : Nat) (hand : Bytes) (channel : Channel) (c : Client) :
    Bool × Bytes × Channel × Client :=
  match c.core.stream? id with
  | none => (false, hand, channel, c)
  | some s =>
    let p : Pump := ⟨hand, s.writing⟩
    if !p.running then (false, hand, channel, c)
    else if s.isOver || s.failure.isSome then
      let r := Pump.halt channel
      (true, r.1.hand, r.2, { c with core := c.core.dropWriting id })
    else if p.hand.isEmpty then
      let r := p.receive channel
      let core := if r.1 = .ended then (c.core.finish id).dropWriting id else c.core
      (r.1 ≠ .nothing, r.2.1.hand, r.2.2, { c with core := core })
    else
      let r := p.grant (c.core.capacity s)
      (!r.1.isEmpty, r.2.hand, channel, { c with core := c.core.emit s r.1 })

def pumpAll (id : Nat) : Nat → Bool → Bytes → Channel → Client → Bool × Bytes × Channel × Client
  | 0, moved, hand, channel, c => (moved, hand, channel, c)
  | n + 1, moved, hand, channel, c =>
    match pump id hand channel c with
    | (true, hand, channel, c) => pumpAll id n true hand channel c
    | (false, hand, channel, c) => (moved, hand, channel, c)

def listen {σ : Type} [ByteStream σ] (now : Nat) : Nat → Bool → Client → σ → Bool × Client × σ
  | 0, moved, c, s => (moved, c, s)
  | n + 1, moved, c, s =>
    if !c.alive || c.core.closing then (moved, c, s)
    else
      let r := ByteStream.read now 65536 s
      match r.1 with
      | .ready [] => (true, { c with core := c.core.end_, alive := false }, r.2)
      | .ready bs => listen now n true { c with core := c.core.feed bs } r.2
      | .fault f => (true, { c with core := c.core.failAll (.io f), alive := false }, r.2)
      | .waiting => (moved, c, r.2)

def speak {σ : Type} [ByteStream σ] (now : Nat) : Nat → Bool → Client → σ → Bool × Client × σ
  | 0, moved, c, s => (moved, c, s)
  | n + 1, moved, c, s =>
    if c.core.output.isEmpty then (moved, c, s)
    else
      let r := ByteStream.write now c.core.output s
      match r.1 with
      | .ready 0 => (moved, c, r.2)
      | .ready k =>
        speak now n true { c with core := { c.core with output := c.core.output.drop k } } r.2
      | .fault f => (true, { c with core := c.core.failAll (.io f), alive := false }, r.2)
      | .waiting => (moved, c, r.2)

/-- The other side has said farewell and no stream is left: the client says farewell too. -/
def leaveIfIdle (c : Client) : Client :=
  if c.core.farewell.isSome && !c.core.closing && !c.core.isBusy && c.core.queued.isEmpty then
    { c with core := { c.core with closing := true }.push (.goAway 0 .noError []) }
  else c

def patience : Nat := 100000

/-- One turn of the connection: reads, then writes. The connection ends when it is to be closed and
everything was written. -/
def turn {σ : Type} [ByteStream σ] (now : Nat) (c : Client) (s : σ) : Bool × Client × σ :=
  if !c.alive then (false, c, s)
  else
    let heard := listen now patience false c s
    if !heard.2.1.alive then heard
    else
      let c := heard.2.1.leaveIfIdle
      let said := speak now patience heard.1 { c with core := c.core.render } heard.2.2
      let c := said.2.1
      if c.alive && c.core.closing && c.core.output.isEmpty then
        (true, { c with alive := false }, said.2.2)
      else said

def close (c : Client) : Client :=
  if c.closed then c
  else
    { core := { c.core.failAll .brokenStream with queued := [], output := [] }
      alive := false
      closed := true }

/-- Reads at most some bytes of a response, taking up to that many pieces of data off its stream;
`left` is the rest of the piece taken before. -/
def readOff (id room : Nat) (left : Bytes) : Nat → Client → Poll Bytes × Bytes × Client
  | 0, c => (.waiting, left, c)
  | n + 1, c =>
    if !left.isEmpty then (.ready (left.take room), left.drop room, c)
    else
      let r := c.core.read id
      let c := { c with core := r.2 }
      match r.1 with
      | .data bs => readOff id room bs n c
      | .ended => (.ready [], [], c)
      | .waiting => (.waiting, [], c)
      | .failed cause =>
        if cause.reason? = some .noError then (.ready [], [], c) else (.fault cause.fault, [], c)

def waiting (id : Nat) (c : Client) : List Bytes := ((c.core.stream? id).map (·.inbox)).getD []

/-- Reads at most some bytes of a response. The fuel is for all pieces that wait, which may be
empty, for the end after them, and for the piece in hand. -/
def read (id room : Nat) (left : Bytes) (c : Client) : Poll Bytes × Bytes × Client :=
  c.readOff id room left ((c.waiting id).length + 2)

def dropReading (id : Nat) (c : Client) : Client := { c with core := c.core.dropReading id }

end Client

end TunnelDial.Http2
