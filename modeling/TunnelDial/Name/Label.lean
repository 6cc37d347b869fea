import TunnelDial.Name.LabelTable
import TunnelDial.Name.Table

/-! The rules for a label in any script: it does not start with a mark, joiners stand only where
they change how letters join, and in a name with letters from right to left the label keeps to one
direction. -/
namespace TunnelDial.DomainName

def nonspacing : List Span := spans nonspacingText

def spacing : List Span := spans spacingText

def rightToLeft : List Span := spans rightToLeftText

def arabicDigits : List Span := spans arabicDigitsText

def europeanDigits : List Span := spans europeanDigitsText

def neutral : List Span := spans neutralText

def joinsNext : List Span := spans joinsNextText

def joinsBoth : List Span := spans joinsBothText

def joinsPrevious : List Span := spans joinsPreviousText

def isNonspacing (c : Char) : Bool := 128 ≤ c.toNat && isIn nonspacing c

def isMark (c : Char) : Bool := isNonspacing c || (128 ≤ c.toNat && isIn spacing c)

def nonJoiner : Char := '\u200C'

def joiner : Char := '\u200D'

/-- Letters join across such a character. -/
def isTransparent (c : Char) : Bool := isNonspacing c || c == Char.ofNat 0x1E94B

/-- The first character across which letters do not join has the property. -/
def nextJoins (p : Char → Bool) (cs : List Char) : Bool :=
  ((cs.dropWhile isTransparent).head?.map p).getD false

/-- A joiner stands well after what is before it, the nearest first, and before what is after it: it
follows a mark that takes away a vowel, or keeps two letters from joining. -/
def joinerFits (isViramaLast : Bool) (before : List Char) (c : Char) (after : List Char) : Bool :=
  isViramaLast
    || (c == nonJoiner
      && nextJoins (fun d => isIn joinsNext d || isIn joinsBoth d) before
      && nextJoins (fun d => isIn joinsPrevious d || isIn joinsBoth d) after)

def joinersFit (isVirama : Char → Bool) (before : List Char) : List Char → Bool
  | [] => true
  | c :: cs =>
    ((c != nonJoiner && c != joiner)
      || joinerFits ((before.head?.map isVirama).getD false) before c cs)
      && joinersFit isVirama (c :: before) cs

inductive Direction
  | left
  | right
  | arabicDigit
  | europeanDigit
  | neutral
  | mark
deriving DecidableEq, Repr

def leftMarks : List Nat := [0xCBF, 0xCC6, 0x11A07, 0x11A08, 0x11C3F]

def directionOf (c : Char) : Direction :=
  if c.toNat < 128 then
    if c.isAlpha then .left else if c.isDigit then .europeanDigit else .neutral
  else if isNonspacing c && !leftMarks.contains c.toNat then .mark
  else if isIn rightToLeft c then .right
  else if isIn arabicDigits c then .arabicDigit
  else if isIn europeanDigits c then .europeanDigit
  else if isIn DomainName.neutral c then .neutral
  else .left

def turnsName (c : Char) : Bool :=
  match directionOf c with
  | .right => true
  | .arabicDigit => true
  | _ => false

/-- The directions of a label keep to its first one: from left to right it holds nothing of the
other direction and ends in a letter or digit; from right to left it holds no letters from left to
right, ends in a letter or digit, and has digits of one kind only. -/
def keepsDirection (ds : List Direction) : Bool :=
  let ending := ((ds.reverse.dropWhile (· == .mark)).head?).getD .mark
  match ds.head? with
  | none => true
  | some .left =>
    ds.all (fun d => d != .right && d != .arabicDigit)
      && (ending == .left || ending == .europeanDigit)
  | some .right =>
    ds.all (· != .left)
      && (ending == .right || ending == .europeanDigit || ending == .arabicDigit)
      && !(ds.contains .europeanDigit && ds.contains .arabicDigit)
  | some _ => false

end TunnelDial.DomainName
