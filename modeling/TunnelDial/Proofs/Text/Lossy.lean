import Mathlib.Data.List.Basic
import TunnelDial.Text.Bytes

/-! Lossy decoding of the bytes of a line. A line feed ends whatever ill-formed piece stands before
it, so it decodes to itself; and the text has nothing but characters of a line's end exactly if the
bytes have nothing else, as all longer and all ill-formed pieces decode to other characters. -/
namespace TunnelDial
namespace Utf8

namespace Piece

/-- The character that stands for a piece. -/
def shown : Piece → Char
  | char c _ => c
  | _ => '\uFFFD'

/-- The bytes behind a piece. -/
def left : Piece → Bytes
  | char _ rest => rest
  | bad _ rest => rest
  | short => []

end Piece

/-- What a first byte asks for begins a character beyond ASCII. -/
structure Lead.Proper (l : Lead) : Prop where
  low : 0x80 ≤ l.low.toNat
  value : 2 ≤ l.payload * 64 + (l.low.toNat - 0x80)
  tail : l.tail = 1 ∧ 2 ≤ l.payload ∨ 2 ≤ l.tail

theorem lead?_proper {b : UInt8} {l : Lead} (h : lead? b = some l) : l.Proper := by
  simp only [lead?, UInt8.le_iff_toNat_le] at h
  split at h
  · cases h
    rename_i hb
    simp only [UInt8.reduceToNat] at hb
    exact ⟨Nat.le_refl 128, by simp; omega, .inl ⟨rfl, by simp; omega⟩⟩
  split at h
  · cases h
    exact ⟨by decide, by decide, .inr (by decide)⟩
  split at h
  · cases h
    exact ⟨by decide, by decide, .inr (by decide)⟩
  split at h
  · cases h
    rename_i hb
    simp only [UInt8.reduceToNat] at hb
    exact ⟨Nat.le_refl 128, by simp; omega, .inr (by simp)⟩
  split at h
  · cases h
    exact ⟨by decide, by decide, .inr (by decide)⟩
  split at h
  · cases h
    rename_i hb
    simp only [UInt8.reduceToNat] at hb
    exact ⟨Nat.le_refl 128, by simp; omega, .inr (by simp)⟩
  split at h
  · cases h
    exact ⟨by decide, by decide, .inr (by decide)⟩
  · cases h

theorem continueChar_concat (owed v seen : Nat) (bs : Bytes) :
    (continueChar owed v seen (bs ++ [10])).shown = (continueChar owed v seen bs).shown ∧
      (continueChar owed v seen (bs ++ [10])).left =
        (continueChar owed v seen bs).left ++ [10] := by
  induction owed generalizing v seen bs with
  | zero => exact ⟨rfl, rfl⟩
  | succ n ih =>
    cases bs with
    | nil => exact ⟨rfl, rfl⟩
    | cons b bs =>
      simp only [List.cons_append, continueChar]
      by_cases hb : 0x80 ≤ b ∧ b ≤ 0xBF
      · rw [if_pos hb, if_pos hb]
        exact ih _ _ bs
      · rw [if_neg hb, if_neg hb]
        exact ⟨rfl, rfl⟩

/-- A line feed behind some bytes changes no piece of them. -/
theorem nextChar_concat (b : UInt8) (bs : Bytes) :
    (nextChar b (bs ++ [10])).shown = (nextChar b bs).shown ∧
      (nextChar b (bs ++ [10])).left = (nextChar b bs).left ++ [10] := by
  unfold nextChar
  by_cases hb : b < 0x80
  · rw [if_pos hb, if_pos hb]
    exact ⟨rfl, rfl⟩
  · rw [if_neg hb, if_neg hb]
    cases hl : lead? b with
    | none => exact ⟨rfl, rfl⟩
    | some l =>
      cases bs with
      | nil =>
        have hno : ¬(l.low ≤ 10 ∧ 10 ≤ l.high) := by
          intro h
          have h1 := UInt8.le_iff_toNat_le.mp h.1
          have h2 := (lead?_proper hl).low
          simp only [UInt8.reduceToNat] at h1
          omega
        simp only [List.nil_append, if_neg hno]
        exact ⟨rfl, rfl⟩
      | cons b2 bs =>
        simp only [List.cons_append]
        by_cases h2 : l.low ≤ b2 ∧ b2 ≤ l.high
        · rw [if_pos h2, if_pos h2]
          exact continueChar_concat ..
        · rw [if_neg h2, if_neg h2]
          exact ⟨rfl, rfl⟩

theorem length_left_continueChar (owed v seen : Nat) (bs : Bytes) :
    (continueChar owed v seen bs).left.length ≤ bs.length := by
  induction owed generalizing v seen bs with
  | zero => exact Nat.le_refl _
  | succ n ih =>
    cases bs with
    | nil => exact Nat.le_refl _
    | cons b bs =>
      simp only [continueChar]
      split
      · exact Nat.le_succ_of_le (ih ..)
      · exact Nat.le_refl _

theorem length_left_nextChar (b : UInt8) (bs : Bytes) :
    (nextChar b bs).left.length ≤ bs.length := by
  unfold nextChar
  split
  · exact Nat.le_refl _
  · cases lead? b with
    | none => exact Nat.le_refl _
    | some l =>
      cases bs with
      | nil => exact Nat.le_refl _
      | cons b2 bs =>
        dsimp only
        split
        · exact Nat.le_succ_of_le (length_left_continueChar ..)
        · exact Nat.le_refl _

/-- The characters read before stay in front. -/
theorem decodeLossyFrom_eq (fuel : Nat) (done : List Char) (bs : Bytes) :
    decodeLossyFrom fuel done bs = done.reverse ++ decodeLossyFrom fuel [] bs := by
  induction fuel generalizing done bs with
  | zero => cases bs <;> simp [decodeLossyFrom]
  | succ n ih =>
    cases bs with
    | nil => simp [decodeLossyFrom]
    | cons b bs =>
      rw [decodeLossyFrom, decodeLossyFrom]
      cases nextChar b bs with
      | char c rest =>
        dsimp only
        rw [ih (c :: done), ih [c]]
        simp
      | bad k rest =>
        dsimp only
        rw [ih ('\uFFFD' :: done), ih ['\uFFFD']]
        simp
      | short => simp

/-- One piece after the other. -/
theorem decodeLossyFrom_cons (fuel : Nat) (b : UInt8) (bs : Bytes) :
    decodeLossyFrom (fuel + 1) [] (b :: bs) =
      (nextChar b bs).shown :: decodeLossyFrom fuel [] (nextChar b bs).left := by
  rw [decodeLossyFrom]
  cases nextChar b bs with
  | char c rest => exact decodeLossyFrom_eq fuel [c] rest
  | bad k rest => exact decodeLossyFrom_eq fuel ['\uFFFD'] rest
  | short => cases fuel <;> rfl

theorem decodeLossyFrom_concat {fuel : Nat} {bs : Bytes} (hle : bs.length ≤ fuel) :
    decodeLossyFrom (fuel + 1) [] (bs ++ [10]) = decodeLossyFrom fuel [] bs ++ ['\n'] := by
  induction fuel generalizing bs with
  | zero =>
    obtain rfl : bs = [] := List.length_eq_zero_iff.mp (by omega)
    rfl
  | succ n ih =>
    cases bs with
    | nil => rfl
    | cons b bs =>
      obtain ⟨hshown, hleft⟩ := nextChar_concat b bs
      have hlen := length_left_nextChar b bs
      rw [List.length_cons] at hle
      rw [List.cons_append, decodeLossyFrom_cons, decodeLossyFrom_cons, hshown, hleft,
        ih (by omega), List.cons_append]

/-- A line feed decodes to itself, whatever stands before it. -/
theorem decodeLossy_concat (bs : Bytes) : decodeLossy (bs ++ [10]) = decodeLossy bs ++ ['\n'] := by
  rw [decodeLossy, List.length_append]
  exact decodeLossyFrom_concat (Nat.le_refl _)

/-- The byte ends lines. -/
def endsLine (b : UInt8) : Bool := b == 13 || b == 10

/-- The character ends lines. -/
def showsEnd (c : Char) : Bool := c == '\r' || c == '\n'

/-- A number stands for a character of a line's end only as that of the byte. -/
theorem showsEnd_ofNat (v : Nat) : showsEnd (Char.ofNat v) = (v == 13 || v == 10) := by
  by_cases hval : v.isValidChar
  · have hn : (Char.ofNat v).toNat = v := by
      rw [Char.ofNat, dif_pos hval]
      rfl
    have heq (c : Char) : Char.ofNat v = c ↔ v = c.toNat := by
      rw [← hn, Char.toNat_inj, Char.ofNat_toNat]
    rw [Bool.eq_iff_iff]
    simp only [showsEnd, Bool.or_eq_true, beq_iff_eq, heq]
    rfl
  · have hzero : Char.ofNat v = '\x00' := dif_neg hval
    have h13 : v ≠ 13 := fun h => hval (by rw [h]; decide)
    have h10 : v ≠ 10 := fun h => hval (by rw [h]; decide)
    simp [hzero, showsEnd, h13, h10]

theorem showsEnd_continueChar {owed v : Nat} (hv : 128 ≤ v ∨ 2 ≤ v ∧ 0 < owed) (seen : Nat)
    (bs : Bytes) : showsEnd (continueChar owed v seen bs).shown = false := by
  induction owed generalizing v seen bs with
  | zero =>
    have h13 : v ≠ 13 := by omega
    have h10 : v ≠ 10 := by omega
    simp [continueChar, Piece.shown, showsEnd_ofNat, h13, h10]
  | succ n ih =>
    cases bs with
    | nil => rfl
    | cons b bs =>
      simp only [continueChar]
      split
      · exact ih (by omega) _ bs
      · rfl

/-- A piece shows the end of a line only as the one byte. -/
theorem showsEnd_nextChar (b : UInt8) (bs : Bytes) :
    showsEnd (nextChar b bs).shown = endsLine b ∧
      (endsLine b = true → (nextChar b bs).left = bs) := by
  unfold nextChar
  by_cases hb : b < 0x80
  · have h13 : b.toNat = 13 ↔ b = 13 := UInt8.toNat_inj (b := 13)
    have h10 : b.toNat = 10 ↔ b = 10 := UInt8.toNat_inj (b := 10)
    rw [if_pos hb]
    refine ⟨?_, fun _ => rfl⟩
    rw [Piece.shown, showsEnd_ofNat, Bool.eq_iff_iff]
    simp only [endsLine, Bool.or_eq_true, beq_iff_eq, h13, h10]
  · have hno : endsLine b = false := by
      simp only [endsLine, Bool.or_eq_false_iff, beq_eq_false_iff_ne]
      constructor <;> (rintro rfl; exact hb (by decide))
    rw [if_neg hb, hno]
    refine ⟨?_, nofun⟩
    cases hl : lead? b with
    | none => rfl
    | some l =>
      have hp := lead?_proper hl
      cases bs with
      | nil => rfl
      | cons b2 bs =>
        dsimp only
        split
        · rename_i h2
          have hlow := UInt8.le_iff_toNat_le.mp h2.1
          have hvalue := hp.value
          have htail := hp.tail
          exact showsEnd_continueChar (by omega) 2 bs
        · rfl

theorem all_decodeLossyFrom {fuel : Nat} {bs : Bytes} (hle : bs.length ≤ fuel) :
    (decodeLossyFrom fuel [] bs).all showsEnd = bs.all endsLine := by
  induction fuel generalizing bs with
  | zero =>
    obtain rfl : bs = [] := List.length_eq_zero_iff.mp (by omega)
    rfl
  | succ n ih =>
    cases bs with
    | nil => rfl
    | cons b bs =>
      obtain ⟨hshows, hleft⟩ := showsEnd_nextChar b bs
      rw [List.length_cons] at hle
      rw [decodeLossyFrom_cons, List.all_cons, List.all_cons, hshows]
      cases hb : endsLine b with
      | false => rfl
      | true => rw [hleft hb, ih (by omega)]

/-- The text has nothing but ends of lines exactly if the bytes have nothing else. -/
theorem all_decodeLossy (bs : Bytes) : (decodeLossy bs).all showsEnd = bs.all endsLine :=
  all_decodeLossyFrom (Nat.le_refl _)

end Utf8
end TunnelDial
