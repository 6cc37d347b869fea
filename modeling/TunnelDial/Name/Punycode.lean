/-! Punycode: a label of any characters as letters, digits and hyphens.  The basic characters come
first; the others follow in increasing order as variable-length differences in base 36. -/
namespace TunnelDial.Punycode

def symbol (d : Nat) : Char := if d < 26 then Char.ofNat (97 + d) else Char.ofNat (22 + d)

def digit? (c : Char) : Option Nat :=
  if 'a' ≤ c ∧ c ≤ 'z' then some (c.toNat - 97)
  else if 'A' ≤ c ∧ c ≤ 'Z' then some (c.toNat - 65)
  else if '0' ≤ c ∧ c ≤ '9' then some (c.toNat - 22)
  else none

/-- The digit from which on a number continues, at position `k` of it. -/
def threshold (k bias : Nat) : Nat :=
  if k ≤ bias then 1 else if bias + 26 ≤ k then 26 else k - bias

theorem threshold_pos (k bias : Nat) : 1 ≤ threshold k bias := by
  unfold threshold; split
  · omega
  · split <;> omega

theorem threshold_le (k bias : Nat) : threshold k bias ≤ 26 := by
  unfold threshold; split
  · omega
  · split <;> omega

/-- Divides by 35 until the rest is small, counting in steps of 36. -/
def shrink (delta k : Nat) : Nat × Nat :=
  if 455 < delta then shrink (delta / 35) (k + 36) else (delta, k)
termination_by delta
decreasing_by exact Nat.div_lt_self (by omega) (by omega)

/-- The bias after a difference, when `points` characters are placed. -/
def adapt (delta points : Nat) (first : Bool) : Nat :=
  let d := if first then delta / 700 else delta / 2
  let r := shrink (d + d / points) 0
  r.2 + 36 * r.1 / (r.1 + 38)

def digits (bias k q : Nat) : List Char :=
  let t := threshold k bias
  if q < t then [symbol q]
  else symbol (t + (q - t) % (36 - t)) :: digits bias (k + 36) ((q - t) / (36 - t))
termination_by q
decreasing_by
  have h1 := threshold_pos k bias
  have h2 := threshold_le k bias
  exact Nat.lt_of_le_of_lt (Nat.div_le_self _ _) (by omega)

/-- The state of writing: text so far, difference, bias and characters handled. -/
structure Writer where
  out : List Char
  delta : Nat
  bias : Nat
  handled : Nat

def Writer.visit (basic m : Nat) (w : Writer) (c : Char) : Writer :=
  if c.toNat < m then { w with delta := w.delta + 1 }
  else if c.toNat = m then
    { out := w.out ++ digits w.bias 36 w.delta, delta := 0,
      bias := adapt w.delta (w.handled + 1) (w.handled == basic), handled := w.handled + 1 }
  else w

/-- Places the characters with each of the codes, which increase. -/
def Writer.place (input : List Char) (basic : Nat) : List Nat → (next : Nat) → Writer → Writer
  | [], _, w => w
  | m :: ms, next, w =>
    let start := { w with delta := w.delta + (m - next) * (w.handled + 1) }
    let done := input.foldl (Writer.visit basic m) start
    place input basic ms (m + 1) { done with delta := done.delta + 1 }

def encode (input : List Char) : List Char :=
  let basic := input.filter fun c => c.toNat < 128
  let codes := ((input.filter fun c => 128 ≤ c.toNat).map Char.toNat).mergeSort (· ≤ ·)
  let start : Writer := ⟨[], 0, 72, basic.length⟩
  basic ++ (if basic.isEmpty then [] else ['-'])
    ++ (Writer.place input basic.length codes.eraseDups 128 start).out

/-- Numbers and weights stay below this. -/
def bound : Nat := 1 <<< 32

def number? (bias : Nat) : List Char → (k w i : Nat) → Option (Nat × List Char)
  | [], _, _, _ => none
  | c :: rest, k, w, i =>
    match digit? c with
    | none => none
    | some d =>
      if bound ≤ i + d * w ∨ bound ≤ w then none
      else if d < threshold k bias then some (i + d * w, rest)
      else number? bias rest (k + 36) (w * (36 - threshold k bias)) (i + d * w)

theorem number?_length {bias : Nat} {l : List Char} {k w i : Nat} {r : Nat × List Char}
    (h : number? bias l k w i = some r) : r.2.length < l.length := by
  induction l generalizing k w i with
  | nil => simp [number?] at h
  | cons c rest ih =>
    rw [number?] at h
    split at h
    · simp at h
    · split at h
      · simp at h
      · split at h
        · rw [← Option.some.inj h]; simp
        · have := ih h
          simp; omega

def insertAll (bias n i : Nat) (out : List Char) : List Char → Option (List Char)
  | [] => some out
  | c :: rest =>
    match _h : number? bias (c :: rest) 36 1 i with
    | none => none
    | some (j, more) =>
      let points := out.length + 1
      let code := n + j / points
      if code < 0xD800 ∨ (0xDFFF < code ∧ code < 0x110000) then
        insertAll (adapt (j - i) points (i == 0)) code (j % points + 1)
          (out.insertIdx (j % points) (Char.ofNat code)) more
      else none
termination_by l => l.length
decreasing_by
  have := number?_length _h
  simpa using this

/-- The label of a Punycode form; the basic characters stand before the last hyphen, unless the form
starts with it. -/
def decode? (input : List Char) : Option (List Char) :=
  let tail := (input.reverse.takeWhile (· != '-')).reverse
  let basic := (input.take (input.length - tail.length)).dropLast
  if basic.isEmpty then insertAll 72 128 0 [] input else insertAll 72 128 0 basic tail

end TunnelDial.Punycode
