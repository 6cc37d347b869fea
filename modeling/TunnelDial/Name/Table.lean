import TunnelDial.Text.Numeral

/-! Tables of characters in a short written form. Records stand apart by blanks, the numbers of a
record by commas; all numbers have base sixteen. The first number of a record is the distance to its
first character from the end of the record before. -/
namespace TunnelDial.DomainName

open Text

/-- What was read of a table, the last first: whole records, the numbers of the present one, and the
number at its end. -/
structure TableReader where
  records : List (List Nat)
  numbers : List Nat
  number : Nat

namespace TableReader

def start : TableReader := ⟨[], [], 0⟩

def endNumber (r : TableReader) : TableReader := ⟨r.records, r.number :: r.numbers, 0⟩

def endRecord (r : TableReader) : TableReader :=
  ⟨(r.number :: r.numbers).reverse :: r.records, [], 0⟩

def feed (r : TableReader) (c : Char) : TableReader :=
  match digitValue? 16 c with
  | some d => { r with number := r.number * 16 + d }
  | none => if c = ',' then r.endNumber else r.endRecord

end TableReader

def records (text : String) : List (List Nat) :=
  (text.toList.foldl TableReader.feed .start).endRecord.records.reverse

structure Span where
  first : Nat
  last : Nat
  value : Nat
deriving DecidableEq, Repr

/-- The spans of records with a distance, how many characters follow the first one, and a value;
both are zero if they are missing. -/
def spansFrom : Nat → List (List Nat) → List Span
  | _, [] => []
  | next, r :: rest =>
    let first := next + r.headD 0
    let last := first + r.getD 1 0
    ⟨first, last, r.getD 2 0⟩ :: spansFrom (last + 1) rest

def spans (text : String) : List Span := spansFrom 0 (records text)

def valueIn? (table : List Span) (c : Char) : Option Nat :=
  (table.find? fun s => s.first ≤ c.toNat && c.toNat ≤ s.last).map Span.value

def isIn (table : List Span) (c : Char) : Bool := (valueIn? table c).isSome

structure Entry where
  code : Nat
  targets : List Char
deriving DecidableEq, Repr

def entriesFrom : Nat → List (List Nat) → List Entry
  | _, [] => []
  | next, r :: rest =>
    let code := next + r.headD 0
    ⟨code, r.tail.map Char.ofNat⟩ :: entriesFrom (code + 1) rest

def entries (text : String) : List Entry := entriesFrom 0 (records text)

def targetsIn? (table : List Entry) (c : Char) : Option (List Char) :=
  (table.find? fun e => e.code = c.toNat).map Entry.targets

/-- Characters at even steps, which stand for others at the same steps. -/
structure Shift where
  first : Nat
  more : Nat
  step : Nat
  target : Nat
deriving DecidableEq, Repr

def shiftsFrom : Nat → List (List Nat) → List Shift
  | _, [] => []
  | next, r :: rest =>
    let s : Shift := ⟨next + r.headD 0, r.getD 1 0, r.getD 2 1, r.getD 3 0⟩
    s :: shiftsFrom (s.first + s.more * s.step + 1) rest

/-- The shifts of records with a distance, how many characters follow the first one, their step and
the first target. -/
def shifts (text : String) : List Shift := shiftsFrom 0 (records text)

def Shift.image? (s : Shift) (c : Char) : Option Char :=
  let far := c.toNat - s.first
  if s.first ≤ c.toNat ∧ far ≤ s.more * s.step ∧ far % s.step = 0 then
    some (Char.ofNat (s.target + far))
  else none

end TunnelDial.DomainName
