/-! Numerals at the front of a text: the digits of a radix, their value, and the decimal and
hexadecimal forms in which numbers are written. -/
namespace TunnelDial.Text

/-- The value of a digit in bases up to sixteen, in either case. -/
def digitValue? (radix : Nat) (c : Char) : Option Nat :=
  let v? :=
    if '0' ≤ c ∧ c ≤ '9' then some (c.toNat - 48)
    else if 'a' ≤ c ∧ c ≤ 'f' then some (c.toNat - 87)
    else if 'A' ≤ c ∧ c ≤ 'F' then some (c.toNat - 55)
    else none
  v?.filter (· < radix)

def spanDigits (radix : Nat) : List Char → List Nat × List Char
  | [] => ([], [])
  | c :: cs =>
    match digitValue? radix c with
    | some d => let r := spanDigits radix cs; (d :: r.1, r.2)
    | none => ([], c :: cs)

def valueOf (radix : Nat) (digits : List Nat) : Nat := digits.foldl (fun n d => n * radix + d) 0

def readNumber? (radix bound : Nat) (cs : List Char) : Option (Nat × List Char) :=
  match spanDigits radix cs with
  | ([], _) => none
  | (ds, rest) => if valueOf radix ds < bound then some (valueOf radix ds, rest) else none

def readShort? (radix bound width : Nat) (cs : List Char) : Option (Nat × List Char) :=
  if (spanDigits radix cs).1.length ≤ width then readNumber? radix bound cs else none

/-- A whole text that is a decimal number below `bound`; one plus sign may stand before it. -/
def decimal? (bound : Nat) (cs : List Char) : Option Nat :=
  let body := match cs with
    | '+' :: r => r
    | r => r
  match readNumber? 10 bound body with
  | some (n, []) => some n
  | _ => none

def port? (cs : List Char) : Option UInt16 := (decimal? 65536 cs).map UInt16.ofNat

def decimal (n : Nat) : List Char := Nat.toDigits 10 n

def hexadecimal (n : Nat) : List Char := Nat.toDigits 16 n

def capitalHexDigit (n : Nat) : Char := toCap (Nat.digitChar (n % 16))
where
  toCap (c : Char) : Char := if 'a' ≤ c ∧ c ≤ 'f' then Char.ofNat (c.toNat - 32) else c

end TunnelDial.Text
