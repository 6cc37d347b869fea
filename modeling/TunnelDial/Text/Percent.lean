import TunnelDial.Text.Bytes
import TunnelDial.Text.Numeral

/-! Percent sequences: `%` and two hexadecimal digits stand for one byte. -/
namespace TunnelDial.Percent

open Text

def sequence (b : UInt8) : List Char :=
  ['%', capitalHexDigit (b.toNat / 16), capitalHexDigit b.toNat]

/-- The characters in UTF-8 with each byte of class `escape` as a sequence; bytes above 127 are
always escaped. -/
def encode (escape : Char → Bool) (cs : List Char) : List Char :=
  cs.flatMap fun c =>
    if c.toNat < 128 && !escape c then [c] else (Bytes.ofChars [c]).flatMap sequence

def pair? (hi lo : UInt8) : Option UInt8 := do
  let h ← digitValue? 16 (Char.ofNat hi.toNat)
  let l ← digitValue? 16 (Char.ofNat lo.toNat)
  return UInt8.ofNat (h * 16 + l)

/-- The bytes with every sequence replaced by its byte; a `%` that starts no sequence stays. -/
def decode : Bytes → Bytes
  | 37 :: hi :: lo :: rest =>
    match pair? hi lo with
    | some b => b :: decode rest
    | none => 37 :: decode (hi :: lo :: rest)
  | b :: rest => b :: decode rest
  | [] => []

end TunnelDial.Percent
