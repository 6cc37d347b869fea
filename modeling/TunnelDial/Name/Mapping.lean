import TunnelDial.Name.MappingTable
import TunnelDial.Name.Table
import TunnelDial.Text.Blank

/-! What becomes of each character of a domain name: it stays, goes, becomes other characters (small
letters for capital ones above all), or is not allowed.  Characters are taken apart before this, so
nothing is said of those with a decomposition. -/
namespace TunnelDial.DomainName

open Text

def disallowed : List Span := spans disallowedText

def ignored : List Span := spans ignoredText

def caseShifts : List Shift := shifts shiftsText

def replacements : List Entry := entries replacementsText

/-- What stands for one character; nothing if it is not allowed. -/
def mapped? (c : Char) : Option (List Char) :=
  if c.toNat < 128 then some [toSmall c]
  else if isIn disallowed c then none
  else if isIn ignored c then some []
  else
    match caseShifts.findSome? (·.image? c) with
    | some d => some [d]
    | none => some ((targetsIn? replacements c).getD [c])

def mapAll? (cs : List Char) : Option (List Char) := (cs.mapM mapped?).map List.flatten

end TunnelDial.DomainName
