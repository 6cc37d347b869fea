/-! The reasons for which an HTTP/2 stream or connection ends before its time. -/
namespace TunnelDial.Http2

inductive Reason
  | noError
  | protocolError
  | internalError
  | flowControl
  | settingsTimeout
  | streamClosed
  | frameSize
  | refused
  | cancel
  | compression
  | connect
  | calm
  | security
  | http11
  | unknown (code : Nat)
deriving DecidableEq, Repr

namespace Reason

/-- The reasons with a code of their own, in the order of their codes. -/
def all : List Reason :=
  [noError, protocolError, internalError, flowControl, settingsTimeout, streamClosed, frameSize,
   refused, cancel, compression, connect, calm, security, http11]

def ofCode (n : Nat) : Reason := all.getD n (unknown n)

def code : Reason → Nat
  | noError => 0
  | protocolError => 1
  | internalError => 2
  | flowControl => 3
  | settingsTimeout => 4
  | streamClosed => 5
  | frameSize => 6
  | refused => 7
  | cancel => 8
  | compression => 9
  | connect => 10
  | calm => 11
  | security => 12
  | http11 => 13
  | unknown n => n

def name : Reason → String
  | noError => "NO_ERROR"
  | protocolError => "PROTOCOL_ERROR"
  | internalError => "INTERNAL_ERROR"
  | flowControl => "FLOW_CONTROL_ERROR"
  | settingsTimeout => "SETTINGS_TIMEOUT"
  | streamClosed => "STREAM_CLOSED"
  | frameSize => "FRAME_SIZE_ERROR"
  | refused => "REFUSED_STREAM"
  | cancel => "CANCEL"
  | compression => "COMPRESSION_ERROR"
  | connect => "CONNECT_ERROR"
  | calm => "ENHANCE_YOUR_CALM"
  | security => "INADEQUATE_SECURITY"
  | http11 => "HTTP_1_1_REQUIRED"
  | unknown n => s!"Reason({n})"

def named? (s : String) : Option Reason := all.find? (·.name = s)

def phrase : Reason → String
  | noError => "not a result of an error"
  | protocolError => "unspecific protocol error detected"
  | internalError => "unexpected internal error encountered"
  | flowControl => "flow-control protocol violated"
  | settingsTimeout => "settings ACK not received in timely manner"
  | streamClosed => "received frame when stream half-closed"
  | frameSize => "frame with invalid size"
  | refused => "refused stream before processing any application logic"
  | cancel => "stream no longer needed"
  | compression => "unable to maintain the header compression context"
  | connect =>
    "connection established in response to a CONNECT request was reset or abnormally closed"
  | calm => "detected excessive load generating behavior"
  | security => "security properties do not meet minimum requirements"
  | http11 => "endpoint requires HTTP/1.1"
  | unknown _ => "unknown reason"

@[simp] theorem ofCode_code_noError : ofCode noError.code = noError := rfl

end Reason

end TunnelDial.Http2
