/-! Byte strings, their view as text with one character a byte, and the UTF-8 form of text.
Decoding names the first fault and its place; lossy decoding puts U+FFFD for every maximal
ill-formed piece. -/
namespace TunnelDial

abbrev Bytes := List UInt8

namespace Bytes

def ofText (s : String) : Bytes := s.toUTF8.toList

def ofChars (cs : List Char) : Bytes := ofText (String.ofList cs)

/-- One character for each byte. -/
def latin (bs : Bytes) : List Char := bs.map fun b => Char.ofNat b.toNat

def number (size n : Nat) : Bytes :=
  (List.range size).map fun i => UInt8.ofNat (n >>> (8 * (size - 1 - i)))

def toNumber (bs : Bytes) : Nat := bs.foldl (fun n b => n * 256 + b.toNat) 0

end Bytes

namespace Utf8

/-- What a first byte of a longer character asks for: how many bytes follow, the payload of the
first byte and the range of the second. -/
structure Lead where
  tail : Nat
  payload : Nat
  low : UInt8
  high : UInt8

def lead? (b : UInt8) : Option Lead :=
  if 0xC2 ≤ b ∧ b ≤ 0xDF then some ⟨1, b.toNat - 0xC0, 0x80, 0xBF⟩
  else if b = 0xE0 then some ⟨2, 0, 0xA0, 0xBF⟩
  else if b = 0xED then some ⟨2, 13, 0x80, 0x9F⟩
  else if 0xE1 ≤ b ∧ b ≤ 0xEF then some ⟨2, b.toNat - 0xE0, 0x80, 0xBF⟩
  else if b = 0xF0 then some ⟨3, 0, 0x90, 0xBF⟩
  else if 0xF1 ≤ b ∧ b ≤ 0xF3 then some ⟨3, b.toNat - 0xF0, 0x80, 0xBF⟩
  else if b = 0xF4 then some ⟨3, 4, 0x80, 0x8F⟩
  else none

/-- The outcome of reading one character: the character, an ill-formed piece of some bytes, or
the end of the input inside a character. -/
inductive Piece
  | char (c : Char) (rest : Bytes)
  | bad (size : Nat) (rest : Bytes)
  | short

/-- The continuation bytes of a character after the second; `seen` bytes are read so far. -/
def continueChar : (owed : Nat) → (value seen : Nat) → Bytes → Piece
  | 0, v, _, rest => .char (Char.ofNat v) rest
  | _ + 1, _, _, [] => .short
  | n + 1, v, seen, b :: rest =>
    if 0x80 ≤ b ∧ b ≤ 0xBF then continueChar n (v * 64 + (b.toNat - 0x80)) (seen + 1) rest
    else .bad seen (b :: rest)

def nextChar (b : UInt8) (rest : Bytes) : Piece :=
  if b < 0x80 then .char (Char.ofNat b.toNat) rest
  else
    match lead? b with
    | none => .bad 1 rest
    | some l =>
      match rest with
      | [] => .short
      | b2 :: rest' =>
        if l.low ≤ b2 ∧ b2 ≤ l.high then
          continueChar (l.tail - 1) (l.payload * 64 + (b2.toNat - 0x80)) 2 rest'
        else .bad 1 rest

/-- Where and how a byte string stops being UTF-8; no size when it ends inside a character. -/
structure Fault where
  index : Nat
  size : Option Nat
deriving DecidableEq, Repr

def Fault.phrase (f : Fault) : String :=
  match f.size with
  | some n => s!"invalid utf-8 sequence of {n} bytes from index {f.index}"
  | none => s!"incomplete utf-8 byte sequence from index {f.index}"

/-- Decodes with at most `fuel` characters; `done` holds those read, the last one first. -/
def decodeFrom : (fuel : Nat) → (done : List Char) → (index : Nat) → Bytes →
    Except Fault (List Char)
  | _, done, _, [] => .ok done.reverse
  | 0, done, _, _ => .ok done.reverse
  | fuel + 1, done, i, b :: bs =>
    match nextChar b bs with
    | .char c rest => decodeFrom fuel (c :: done) (i + c.utf8Size) rest
    | .bad n _ => .error ⟨i, some n⟩
    | .short => .error ⟨i, none⟩

def decode (bs : Bytes) : Except Fault (List Char) := decodeFrom bs.length [] 0 bs

def decodeLossyFrom : (fuel : Nat) → (done : List Char) → Bytes → List Char
  | _, done, [] => done.reverse
  | 0, done, _ => done.reverse
  | fuel + 1, done, b :: bs =>
    match nextChar b bs with
    | .char c rest => decodeLossyFrom fuel (c :: done) rest
    | .bad _ rest => decodeLossyFrom fuel ('\uFFFD' :: done) rest
    | .short => ('\uFFFD' :: done).reverse

/-- The characters of a byte string with U+FFFD in place of each ill-formed piece. -/
def decodeLossy (bs : Bytes) : List Char := decodeLossyFrom bs.length [] bs

end Utf8

end TunnelDial
