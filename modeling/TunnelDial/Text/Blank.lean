/-! White space as Unicode defines it, and cutting it from the two ends of a text. -/
namespace TunnelDial.Text

/-- The characters with the Unicode property `White_Space`. -/
def isBlank (c : Char) : Bool :=
  let n := c.toNat
  (9 ≤ n && n ≤ 13) || n == 0x20 || n == 0x85 || n == 0xA0 || n == 0x1680
    || (0x2000 ≤ n && n ≤ 0x200A) || n == 0x2028 || n == 0x2029 || n == 0x202F
    || n == 0x205F || n == 0x3000

/-- The text without the characters of class `p` at its end. -/
def dropTrailing (p : Char → Bool) (cs : List Char) : List Char :=
  (cs.reverse.dropWhile p).reverse

def trim (cs : List Char) : List Char := dropTrailing isBlank (cs.dropWhile isBlank)

@[simp] theorem trim_nil : trim [] = [] := rfl

/-- The text up to the first `c` and the text after it; nothing when there is no `c`. -/
def cut? (c : Char) : List Char → Option (List Char × List Char)
  | [] => none
  | x :: xs => if x = c then some ([], xs) else (cut? c xs).map fun r => (x :: r.1, r.2)

/-- The text up to the last `c` and the text after it; nothing when there is no `c`. -/
def cutLast? (c : Char) : List Char → Option (List Char × List Char)
  | [] => none
  | x :: xs =>
    match cutLast? c xs with
    | some r => some (x :: r.1, r.2)
    | none => if x = c then some ([], xs) else none

theorem eq_of_cutLast? {c : Char} {s a b : List Char} (h : cutLast? c s = some (a, b)) :
    s = a ++ c :: b := by
  induction s generalizing a b with
  | nil => simp [cutLast?] at h
  | cons x xs ih =>
    rw [cutLast?] at h
    split at h
    · next r hr =>
      obtain ⟨rfl, rfl⟩ := by simpa using h
      simpa using ih hr
    · split at h
      · next hx => obtain ⟨rfl, rfl⟩ := by simpa using h
                   simp [hx]
      · simp at h

def toSmall (c : Char) : Char :=
  if 'A' ≤ c ∧ c ≤ 'Z' then Char.ofNat (c.toNat + 32) else c

def toCapital (c : Char) : Char :=
  if 'a' ≤ c ∧ c ≤ 'z' then Char.ofNat (c.toNat - 32) else c

end TunnelDial.Text
