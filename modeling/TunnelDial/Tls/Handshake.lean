import TunnelDial.Stream.Basic

/-! The opening of a TLS connection, as far as it can be seen from outside: the client names the
server and its protocols, the server picks a protocol or refuses, and the client judges the
certificate. What is secret about it is left out, so after the opening bytes pass as they are. -/
namespace TunnelDial.Tls

inductive RecordKind
  | alert
  | handshake
  | other
deriving DecidableEq, Repr

def RecordKind.ofNumber? (n : Nat) : Option RecordKind :=
  if n = 21 then some alert
  else if n = 22 then some handshake
  else if 20 ≤ n ∧ n ≤ 24 then some other
  else none

def record (kind : Nat) (payload : Bytes) : Bytes :=
  UInt8.ofNat kind :: 3 :: 3 :: (Bytes.number 2 payload.length ++ payload)

def message (kind : Nat) (body : Bytes) : Bytes :=
  record 22 (UInt8.ofNat kind :: (Bytes.number 3 body.length ++ body))

def short (bs : Bytes) : Bytes := UInt8.ofNat bs.length :: bs

def readShort : Bytes → Bytes × Bytes
  | [] => ([], [])
  | n :: rest => (rest.take n.toNat, rest.drop n.toNat)

def readShorts : Nat → Bytes → List Bytes
  | 0, _ => []
  | _, [] => []
  | n + 1, bs => (readShort bs).1 :: readShorts n (readShort bs).2

/-- What a client shows: the name of the server, if it has one, and its protocols. -/
structure Hello where
  name : String
  protocols : List String
deriving DecidableEq, Repr

def Hello.bytes (h : Hello) : Bytes :=
  message 1 (short (Bytes.ofText h.name) ++ h.protocols.flatMap fun p => short (Bytes.ofText p))

def textOf (bs : Bytes) : String := String.ofList (Utf8.decodeLossy bs)

def Hello.ofBody (body : Bytes) : Hello :=
  match readShorts (body.length + 1) body with
  | name :: protocols => ⟨textOf name, protocols.map textOf⟩
  | [] => ⟨"", []⟩

def welcome (protocol : String) : Bytes := message 2 (Bytes.ofText protocol)

def finished : Bytes := message 20 []

def alert (code : Nat) : Bytes := record 21 [2, UInt8.ofNat code]

def noProtocol : Nat := 120

def unknownIssuer : Nat := 48

def decodeError : Nat := 50

def alertNames : List (Nat × String) :=
  [(0, "CloseNotify"), (10, "UnexpectedMessage"), (20, "BadRecordMac"), (21, "DecryptionFailed"),
   (22, "RecordOverflow"), (30, "DecompressionFailure"), (40, "HandshakeFailure"),
   (41, "NoCertificate"), (42, "BadCertificate"), (43, "UnsupportedCertificate"),
   (44, "CertificateRevoked"), (45, "CertificateExpired"), (46, "CertificateUnknown"),
   (47, "IllegalParameter"), (48, "UnknownCA"), (49, "AccessDenied"), (50, "DecodeError"),
   (51, "DecryptError"), (60, "ExportRestriction"), (70, "ProtocolVersion"),
   (71, "InsufficientSecurity"), (80, "InternalError"), (86, "InappropriateFallback"),
   (90, "UserCanceled"), (100, "NoRenegotiation"), (109, "MissingExtension"),
   (110, "UnsupportedExtension"), (111, "CertificateUnobtainable"), (112, "UnrecognisedName"),
   (113, "BadCertificateStatusResponse"), (114, "BadCertificateHashValue"),
   (115, "UnknownPSKIdentity"), (116, "CertificateRequired"), (120, "NoApplicationProtocol")]

def alertName (code : Nat) : String :=
  ((alertNames.find? (·.1 = code)).map (·.2)).getD ("Unknown(" ++ toString code ++ ")")

/-- The server's pick: its first protocol that the client has too. A side without protocols leaves
the choice open; else having none in common is refused. -/
def pick (server client : List String) : Option String :=
  if server.isEmpty ∨ client.isEmpty then some "" else server.find? fun p => client.contains p

inductive Read
  | more (missing : Nat)
  | corrupt
  | record (kind : RecordKind) (payload : Bytes)
deriving Repr

def readRecord : Bytes → Read
  | [] => .more 5
  | k :: rest =>
    match RecordKind.ofNumber? k.toNat with
    | none => .corrupt
    | some kind =>
      match rest with
      | _ :: _ :: a :: b :: payload =>
        let size := a.toNat * 256 + b.toNat
        if payload.length < size then .more (size - payload.length)
        else .record kind (payload.take size)
      | short => .more (4 - short.length)

/-- The opening from the client's side: what is to be written, the bytes of the record being read,
and the message so far. -/
structure Handshake where
  hello : Hello
  insecure : Bool
  unsent : Bytes
  got : Bytes
  body : Bytes
  verdict : Option (Except String String)
deriving Repr

namespace Handshake

def start (hello : Hello) (insecure : Bool) : Handshake :=
  ⟨hello, insecure, hello.bytes, [], [], none⟩

inductive Step
  | next (h : Handshake)
  | waiting
  | done (protocol : String)
  | failed (reason : String)
deriving Repr

/-- The server's answer is judged; the client's last message is still to be written. -/
def judge (h : Handshake) (protocol : String) : Handshake :=
  if h.insecure then { h with unsent := finished, verdict := some (.ok protocol) }
  else
    { h with
      unsent := alert unknownIssuer
      verdict := some (.error "invalid peer certificate: UnknownIssuer") }

def receive (h : Handshake) (kind : RecordKind) (payload : Bytes) : Step :=
  let h := { h with got := [] }
  match kind with
  | .alert =>
    match payload with
    | [_, code] => .failed ("received fatal alert: " ++ alertName code.toNat)
    | _ => .failed "received corrupt message of type InvalidPayload"
  | .other => .next h
  | .handshake =>
    let body := h.body ++ payload
    match body with
    | 2 :: a :: b :: c :: rest =>
      if rest.length < Bytes.toNumber [a, b, c] then .next { h with body := body }
      else .next ({ h with body := [] }.judge (textOf rest))
    | _ => .next { h with body := body }

def step {σ : Type} [ByteStream σ] (now : Nat) (h : Handshake) (s : σ) : Step × σ :=
  if !h.unsent.isEmpty then
    let r := ByteStream.write now h.unsent s
    match r.1 with
    | .ready n => (.next { h with unsent := h.unsent.drop n }, r.2)
    | .fault f => (.failed f.text, r.2)
    | .waiting => (.waiting, r.2)
  else
    match h.verdict with
    | some (.ok protocol) => (.done protocol, s)
    | some (.error reason) => (.failed reason, s)
    | none =>
      match readRecord h.got with
      | .corrupt => (.failed "received corrupt message of type InvalidContentType", s)
      | .record kind payload => (h.receive kind payload, s)
      | .more missing =>
        let r := ByteStream.read now missing s
        match r.1 with
        | .ready [] => (.failed "tls handshake eof", r.2)
        | .ready bs => (.next { h with got := h.got ++ bs }, r.2)
        | .fault f => (.failed f.text, r.2)
        | .waiting => (.waiting, r.2)

end Handshake

end TunnelDial.Tls
