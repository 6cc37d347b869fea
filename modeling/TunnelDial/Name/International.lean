import TunnelDial.Name.Composition
import TunnelDial.Name.Label
import TunnelDial.Name.Mapping
import TunnelDial.Name.Punycode
import TunnelDial.Text.Bytes
import TunnelDial.Text.Blank

/-! Domain names in any script and their ASCII form. A name is mapped and composed; labels with the
mark `xn--` are unpacked and must be in the form that mapping leaves alone; then every label is
judged and those that are not ASCII are packed. -/
namespace TunnelDial.DomainName

open Text

def isForbidden (c : Char) : Bool :=
  c.toNat ≤ 32 || c.toNat == 127 || "#/:<>?@[\\]^|%".toList.contains c

def isAscii (c : Char) : Bool := c.toNat < 128

def packedMark : List Char := "xn--".toList

def isPacked (label : List Char) : Bool := packedMark.isPrefixOf label

/-- The longest packed label after its mark, and the longest label that is packed. -/
def packedLimit : Nat := 2000

def unpackedLimit : Nat := 1000

def labels : List Char → List (List Char)
  | [] => [[]]
  | c :: cs =>
    if c = '.' then [] :: labels cs
    else
      match labels cs with
      | l :: ls => (c :: l) :: ls
      | [] => [[c]]

theorem labels_ne_nil (cs : List Char) : labels cs ≠ [] := by
  induction cs with
  | nil => simp [labels]
  | cons c cs _ =>
    rw [labels]
    split
    · simp
    · split <;> simp

def joinLabels (ls : List (List Char)) : List Char := ['.'].intercalate ls

/-- The mapped and composed form of a text. -/
def prepare? (cs : List Char) : Option (List Char) := (mapAll? (decompose cs)).map compose

def viramaClass : Nat := 9

def isVirama (c : Char) : Bool := markClass c == viramaClass

def isSound (label : List Char) : Bool :=
  label.all isAscii
    || (label.length ≤ unpackedLimit && !(label.head?.map isMark).getD false
      && joinersFit isVirama [] label)

def unpack? (label : List Char) : Option (List Char) :=
  if isPacked label then
    let body := label.drop packedMark.length
    if label.all isAscii && label.getLast? != some '-' && body.length ≤ packedLimit then
      match Punycode.decode? body with
      | some u => if prepare? u = some u && isSound u then some u else none
      | none => none
    else none
  else if isSound label then some label
  else none

def pack (label : List Char) : List Char :=
  if label.all isAscii then label else packedMark ++ Punycode.encode label

def suit (ls : List (List Char)) : Bool :=
  !(ls.any (·.any turnsName)) || ls.all fun l => keepsDirection (l.map directionOf)

def asciiOf? (cs : List Char) : Option (List Char) := do
  let ready ← prepare? cs
  if ready.any isForbidden then none
  let ls ← (labels ready).mapM unpack?
  if suit ls then some (joinLabels (ls.map pack)) else none

/-- The name is ASCII and has no packed label, so that only its letters change. -/
def isPlain (cs : List Char) : Bool := cs.all isAscii && !(labels (cs.map toSmall)).any isPacked

def toAscii? (bs : Bytes) : Option (List Char) :=
  match Utf8.decode bs with
  | .error _ => none
  | .ok cs =>
    if isPlain cs then
      let small := cs.map toSmall
      if small.any isForbidden then none else some small
    else asciiOf? cs

end TunnelDial.DomainName
