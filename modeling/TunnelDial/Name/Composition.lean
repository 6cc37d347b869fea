import TunnelDial.Name.CompositionTable
import TunnelDial.Name.Table

/-! The composed form of a text: characters are taken apart, marks are put in order, and then each
mark joins the character before it where one character stands for both. -/
namespace TunnelDial.DomainName

def composites : List Entry := entries compositesText

def expansions : List Entry := entries expansionsText

def markClasses : List Span := spans markClassesText

/-- The class of a mark, which says where it stands among marks; zero for all other characters. -/
def markClass (c : Char) : Nat := if c.toNat < 128 then 0 else (valueIn? markClasses c).getD 0

namespace Syllable

/-- Korean syllables have a leading consonant, a vowel and perhaps a trailing consonant. -/
def base : Nat := 0xAC00

def leadBase : Nat := 0x1100

def vowelBase : Nat := 0x1161

/-- The code before that of the first trailing consonant. -/
def tailBase : Nat := 0x11A7

def leads : Nat := 19

def vowels : Nat := 21

def tails : Nat := 28

def split? (c : Char) : Option (List Char) :=
  let n := c.toNat - base
  if base ≤ c.toNat ∧ n < leads * vowels * tails then
    let front := [leadBase + n / tails / vowels, vowelBase + n / tails % vowels]
    let back := if n % tails = 0 then [] else [tailBase + n % tails]
    some ((front ++ back).map Char.ofNat)
  else none

def join? (a b : Char) : Option Char :=
  let lead := a.toNat - leadBase
  let vowel := b.toNat - vowelBase
  let whole := a.toNat - base
  let tail := b.toNat - tailBase
  if leadBase ≤ a.toNat ∧ lead < leads ∧ vowelBase ≤ b.toNat ∧ vowel < vowels then
    some (Char.ofNat (base + (lead * vowels + vowel) * tails))
  else if base ≤ a.toNat ∧ whole < leads * vowels * tails ∧ whole % tails = 0
      ∧ tailBase < b.toNat ∧ tail < tails then
    some (Char.ofNat (a.toNat + tail))
  else none

end Syllable

/-- The parts of one character, themselves taken apart as often as the fuel allows. -/
def parts : (fuel : Nat) → Char → List Char
  | 0, c => [c]
  | n + 1, c =>
    if c.toNat < 128 then [c]
    else
      match Syllable.split? c with
      | some cs => cs
      | none =>
        match targetsIn? composites c with
        | some cs => cs.flatMap (parts n)
        | none => (targetsIn? expansions c).getD [c]

/-- No character is composed more often than this. -/
def depth : Nat := 8

def decompose (cs : List Char) : List Char := cs.flatMap (parts depth)

def insertMark (c : Char) : List Char → List Char
  | [] => [c]
  | d :: ds =>
    if markClass d ≠ 0 ∧ markClass d < markClass c then d :: insertMark c ds else c :: d :: ds

def orderMarks : List Char → List Char
  | [] => []
  | c :: cs => insertMark c (orderMarks cs)

def pair? (a b : Char) : Option Char :=
  match Syllable.join? a b with
  | some c => some c
  | none => (composites.find? fun e => e.targets = [a, b]).map fun e => Char.ofNat e.code

/-- Composes what follows `base` and its marks, whose last class is `last`. -/
def composeAfter (base : Char) (marks : List Char) (last : Nat) : List Char → List Char
  | [] => base :: marks
  | c :: cs =>
    let free := marks.isEmpty || last < markClass c
    match if free then pair? base c else none with
    | some d => composeAfter d marks last cs
    | none =>
      if markClass c = 0 then base :: (marks ++ composeAfter c [] 0 cs)
      else composeAfter base (marks ++ [c]) (markClass c) cs

def composeOrdered : List Char → List Char
  | [] => []
  | c :: cs => if markClass c = 0 then composeAfter c [] 0 cs else c :: composeOrdered cs

def compose (cs : List Char) : List Char := composeOrdered (orderMarks (decompose cs))

end TunnelDial.DomainName
