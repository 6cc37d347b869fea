import TunnelDial.Failure
import TunnelDial.Http2.Reason
import TunnelDial.Text.Bytes

/-! What ended a stream or a connection: a reset, a farewell, or the connection below it. -/
namespace TunnelDial.Http2

inductive Party
  | remote
  | library
  | user
deriving DecidableEq, Repr

def Party.word : Party → String
  | remote => "received"
  | library => "detected"
  | user => "sent by user"

inductive Cause
  | reset (party : Party) (reason : Reason)
  | goAway (party : Party) (reason : Reason) (debug : Bytes)
  | io (f : IoFault)
deriving DecidableEq, Repr

namespace Cause

def hexDigit (n : Nat) : Char := (Nat.toDigits 16 n).headD '0'

def shownByte (b : UInt8) : List Char :=
  if b = 10 then ['\\', 'n']
  else if b = 13 then ['\\', 'r']
  else if b = 9 then ['\\', 't']
  else if b = 0 then ['\\', '0']
  else if b = 34 ∨ b = 92 then ['\\', Char.ofNat b.toNat]
  else if 32 ≤ b ∧ b < 127 then [Char.ofNat b.toNat]
  else ['\\', 'x', hexDigit (b.toNat / 16), hexDigit (b.toNat % 16)]

def shown (bs : Bytes) : String := "b\"" ++ String.ofList (bs.flatMap shownByte) ++ "\""

def text : Cause → String
  | reset p r => "stream error " ++ p.word ++ ": " ++ r.phrase
  | goAway p r debug =>
    "connection error " ++ p.word ++ ": " ++ r.phrase
      ++ if debug.isEmpty then "" else " (" ++ shown debug ++ ")"
  | io f => f.text

def reason? : Cause → Option Reason
  | reset _ r => some r
  | goAway _ r _ => some r
  | io _ => none

def isRemote : Cause → Bool
  | reset p _ => p = .remote
  | goAway p _ _ => p = .remote
  | io _ => false

/-- The error of a read that meets the cause. -/
def fault : Cause → IoFault
  | io f => f
  | other => ⟨.other, other.text⟩

def brokenStream : Cause := io ⟨.brokenPipe, "stream closed because of a broken pipe"⟩

def brokenConnection : Cause := io ⟨.brokenPipe, "connection closed because of a broken pipe"⟩

def cutFrame : Cause := io ⟨.other, "bytes remaining on stream"⟩

end Cause

end TunnelDial.Http2
