import TunnelDial.Text.Bytes
import TunnelDial.Text.Blank

/-! Header fields: names in small letters with their values.  The fields of one name form a bucket;
buckets keep the order in which their names came, and taking one out moves the last into its
place. -/
namespace TunnelDial

open Text

structure HeaderName where
  chars : List Char
deriving DecidableEq, Repr

namespace HeaderName

def isToken (c : Char) : Bool :=
  c.isAlphanum || "!#$%&'*+-.^_`|~".toList.contains c

/-- The name in those bytes: a token of at most 65535 characters, in any case. -/
def ofBytes? (bs : Bytes) : Option HeaderName :=
  let cs := Bytes.latin bs
  if cs.isEmpty || 65535 < cs.length || !cs.all isToken then none
  else some ⟨cs.map toSmall⟩

def host : HeaderName := ⟨"host".toList⟩

def proxyAuthorization : HeaderName := ⟨"proxy-authorization".toList⟩

def text (n : HeaderName) : String := String.ofList n.chars

/-- The name with a capital letter at its start and after every hyphen; `up` says that the next
letter is one. -/
def titleFrom (up : Bool) : List Char → List Char
  | [] => []
  | c :: cs => (if up then toCapital c else c) :: titleFrom (c == '-') cs

def title (n : HeaderName) : List Char := titleFrom true n.chars

end HeaderName

def isValueByte (b : UInt8) : Bool := (32 ≤ b && b != 127) || b == 9

/-- Bytes of a text that is taken as a header value: printable ASCII and the tab. -/
def isTextByte (b : UInt8) : Bool := (32 ≤ b && b < 127) || b == 9

/-- A name with its values, the oldest first; there is at least one. -/
structure HeaderBucket where
  name : HeaderName
  value : Bytes
  more : List Bytes
deriving DecidableEq, Repr

def HeaderBucket.values (b : HeaderBucket) : List Bytes := b.value :: b.more

structure Headers where
  buckets : List HeaderBucket
deriving DecidableEq, Repr, Inhabited

namespace Headers

def empty : Headers := ⟨[]⟩

def names (h : Headers) : List HeaderName := h.buckets.map (·.name)

def toList (h : Headers) : List (HeaderName × Bytes) :=
  h.buckets.flatMap fun b => b.values.map fun v => (b.name, v)

def size (h : Headers) : Nat := h.toList.length

def valuesOf (h : Headers) (n : HeaderName) : List Bytes :=
  match h.buckets.find? (·.name = n) with
  | some b => b.values
  | none => []

/-- One more value in the bucket of its name, or a new bucket behind all others. -/
def appendTo (n : HeaderName) (v : Bytes) : List HeaderBucket → List HeaderBucket
  | [] => [⟨n, v, []⟩]
  | b :: bs =>
    if b.name = n then { b with more := b.more ++ [v] } :: bs else b :: appendTo n v bs

def append (h : Headers) (n : HeaderName) (v : Bytes) : Headers := ⟨appendTo n v h.buckets⟩

/-- The list with its last element in place of the first of class `p`, which is taken out. -/
def swapRemove {α : Type} (p : α → Bool) : List α → List α
  | [] => []
  | x :: xs =>
    if p x then
      match xs.getLast? with
      | some l => l :: xs.dropLast
      | none => []
    else x :: swapRemove p xs

def erase (h : Headers) (n : HeaderName) : Headers := ⟨swapRemove (·.name = n) h.buckets⟩

/-- The bucket of the name gets `v` as its only value, in place if there is one. -/
def setIn (n : HeaderName) (v : Bytes) : List HeaderBucket → List HeaderBucket
  | [] => [⟨n, v, []⟩]
  | b :: bs => if b.name = n then ⟨n, v, []⟩ :: bs else b :: setIn n v bs

def set (h : Headers) (n : HeaderName) (v : Bytes) : Headers := ⟨setIn n v h.buckets⟩

def overlayBucket (h : Headers) (b : HeaderBucket) : Headers :=
  b.values.foldl (fun acc v => acc.append b.name v) (h.erase b.name)

/-- The fields of `upper` in place of those of the same names in `base`. -/
def overlay (base upper : Headers) : Headers := upper.buckets.foldl overlayBucket base

inductive Fault
  | name
  | value
deriving DecidableEq, Repr

def append? (h : Headers) (name value : Bytes) : Except Fault Headers :=
  match HeaderName.ofBytes? name with
  | none => .error .name
  | some n => if value.all isValueByte then .ok (h.append n value) else .error .value

def ofPairs (fields : List (Bytes × Bytes)) : Except Fault Headers :=
  fields.foldlM (fun h f => h.append? f.1 f.2) empty

end Headers

end TunnelDial
