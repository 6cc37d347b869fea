import TunnelDial.Stream.Pipe
import TunnelDial.Tls.Handshake

/-! The opening of a TLS connection from the server's side, at the far end of a pipe. -/
namespace TunnelDial.Rehearsal

open Tls

/-- Where the opening stands: nothing of the client is known, its hello was answered, the connection
is open, or the opening failed. -/
inductive TlsPhase
  | listening
  | answered (name : String)
  | secured
  | failed
deriving DecidableEq, Repr

/-- The protocols of the server, the bytes of the record being read, and the notes. -/
structure TlsServer where
  protocols : List String
  phase : TlsPhase
  got : Bytes
  notes : List String
deriving Repr

namespace TlsServer

def ofProtocols (protocols : List String) : TlsServer := ⟨protocols, .listening, [], []⟩

/-- The opening failed; the client may be told why. -/
def fail (s : TlsServer) (code : Option Nat) (pipe : Pipe) : Bool × Pipe × TlsServer :=
  let told := match code with
    | some n => (pipe.farWrite (alert n)).2
    | none => pipe
  (true, told.farDrop, { s with phase := .failed, notes := ["tls_failed"] })

def greet (s : TlsServer) (h : Hello) (pipe : Pipe) : Bool × Pipe × TlsServer :=
  match pick s.protocols h.protocols with
  | none => s.fail (some noProtocol) pipe
  | some p => (true, (pipe.farWrite (welcome p)).2, { s with phase := .answered h.name })

def receive (s : TlsServer) (kind : RecordKind) (payload : Bytes) (pipe : Pipe) :
    Bool × Pipe × TlsServer :=
  let s := { s with got := [] }
  match s.phase, kind, payload with
  | .listening, .handshake, 1 :: _ :: _ :: _ :: body => s.greet (Hello.ofBody body) pipe
  | .answered name, .handshake, 20 :: _ =>
    (true, pipe, { s with phase := .secured, notes := ["sni=" ++ name] })
  | _, .alert, _ => s.fail none pipe
  | _, _, _ => s.fail (some decodeError) pipe

def step (s : TlsServer) (pipe : Pipe) : Bool × Pipe × TlsServer :=
  match s.phase with
  | .secured => (false, pipe, s)
  | .failed => (false, pipe, s)
  | _ =>
    match readRecord s.got with
    | .corrupt => s.fail (some decodeError) pipe
    | .record kind payload => s.receive kind payload pipe
    | .more missing =>
      let r := pipe.farRead missing
      match r.1 with
      | .ready [] => s.fail none r.2
      | .ready bs => (true, r.2, { s with got := s.got ++ bs })
      | _ => (false, r.2, s)

end TlsServer

end TunnelDial.Rehearsal
