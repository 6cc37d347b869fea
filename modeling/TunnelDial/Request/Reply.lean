import TunnelDial.Failure
import TunnelDial.Request.Status
import TunnelDial.Text.Bytes

/-! Reading the head of a proxy's answer, byte by byte and in any pieces: the status line, the lines
after it, and the empty line that ends it.  A head has at most 65536 bytes. -/
namespace TunnelDial

open Text

def headLimit : Nat := 65536

def headTooLarge : IoFault := ⟨.unexpectedEof, "proxy response head too large"⟩

def headUnfinished : IoFault :=
  ⟨.unexpectedEof, "proxy closed connection before end of response head"⟩

def badStatusLine (line : List Char) : IoFault :=
  ⟨.invalidData, "Invalid HTTP response: " ++ String.ofList line⟩

/-- How much of a head was read: the number of bytes, the bytes of the line that is not over, the
last one first, and the status once its line is over. -/
structure HeadReader where
  taken : Nat
  line : Bytes
  status : Option Status
deriving DecidableEq, Repr

inductive HeadProgress
  | more (r : HeadReader)
  | done (status : Status) (rest : Bytes)
  | fault (f : IoFault)
deriving Repr

namespace HeadReader

def start : HeadReader := ⟨0, [], none⟩

/-- The text of a line without the characters that end it. -/
def lineText (line : Bytes) : List Char :=
  dropTrailing (fun c => c == '\r' || c == '\n') (Utf8.decodeLossy line)

def isBlankLine (line : Bytes) : Bool := line.all fun b => b == 13 || b == 10

/-- More of a head, unless it has all the bytes it may have. -/
def room (r : HeadReader) : HeadProgress :=
  if headLimit ≤ r.taken then .fault headTooLarge else .more r

def endLine (r : HeadReader) (rest : Bytes) : HeadProgress :=
  match r.status with
  | none =>
    match Status.parse? (lineText r.line.reverse) with
    | some s => room ⟨r.taken + 1, [], some s⟩
    | none => .fault (badStatusLine (lineText r.line.reverse))
  | some s => if isBlankLine r.line then .done s rest else room ⟨r.taken + 1, [], some s⟩

def feed (r : HeadReader) : Bytes → HeadProgress
  | [] => .more r
  | b :: bs =>
    let longer := { r with taken := r.taken + 1, line := b :: r.line }
    match (if b = 10 then r.endLine bs else room longer) with
    | .more r' => feed r' bs
    | other => other

end HeadReader

end TunnelDial
