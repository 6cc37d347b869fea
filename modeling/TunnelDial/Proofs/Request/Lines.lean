import TunnelDial.Request.Head

/-! The lines of a head. A reader that takes CR LF for the end of a line, and neither byte anywhere
else, finds in some bytes exactly the lines of which they are made. -/
namespace TunnelDial

open ConnectRequest (lineEnd)

/-- The lines of some bytes, without their ends. `line` holds what was read of the first one, the
last byte first. -/
def linesFrom (line : Bytes) : Bytes → Option (List Bytes)
  | [] => if line = [] then some [] else none
  | 13 :: 10 :: bs => (linesFrom [] bs).map (line.reverse :: ·)
  | b :: bs => if b = 13 ∨ b = 10 then none else linesFrom (b :: line) bs

/-- The lines of some bytes; none if a line does not end, or a byte of the end stands alone. -/
def lines? (bs : Bytes) : Option (List Bytes) := linesFrom [] bs

/-- No byte of a line's end is in the line. -/
def Unbroken (line : Bytes) : Prop := 13 ∉ line ∧ 10 ∉ line

instance : DecidablePred Unbroken := fun _ => inferInstanceAs (Decidable (_ ∧ _))

theorem unbroken_append {xs ys : Bytes} : Unbroken (xs ++ ys) ↔ Unbroken xs ∧ Unbroken ys := by
  simp only [Unbroken, List.mem_append, not_or]
  exact and_and_and_comm

/-- What is read as lines is made of them. -/
theorem eq_of_linesFrom {line bs : Bytes} {ls : List Bytes} (hline : Unbroken line)
    (h : linesFrom line bs = some ls) :
    line.reverse ++ bs = ls.flatMap (· ++ lineEnd) ∧ ∀ l ∈ ls, Unbroken l := by
  induction line, bs using linesFrom.induct generalizing ls with
  | case1 =>
    rw [linesFrom, if_pos rfl] at h
    cases h
    simp
  | case2 line hne =>
    rw [linesFrom, if_neg hne] at h
    cases h
  | case3 line bs ih =>
    rw [linesFrom] at h
    obtain ⟨ls', hls', rfl⟩ := Option.map_eq_some_iff.mp h
    obtain ⟨heq, hall⟩ := ih (by simp [Unbroken]) hls'
    refine ⟨?_, List.forall_mem_cons.mpr ⟨?_, hall⟩⟩
    · rw [List.flatMap_cons, ← heq]
      simp [lineEnd]
    · simpa [Unbroken] using hline
  | case4 line b bs hnot hb =>
    rw [linesFrom, if_pos hb] at h
    · cases h
    · exact hnot
  | case5 line b bs hnot hb ih =>
    rw [linesFrom, if_neg hb] at h
    · have hlonger : Unbroken (b :: line) := by
        have hb' := not_or.mp hb
        simpa [Unbroken, Ne.symm hb'.1, Ne.symm hb'.2] using hline
      obtain ⟨heq, hall⟩ := ih hlonger h
      exact ⟨by simpa using heq, hall⟩
    · exact hnot

theorem linesFrom_cons {line bs : Bytes} {b : UInt8} (h13 : b ≠ 13) (h10 : b ≠ 10) :
    linesFrom line (b :: bs) = linesFrom (b :: line) bs := by
  rw [linesFrom, if_neg (by simp [h13, h10])]
  intro _ h _
  exact h13 h

/-- A line is read up to its end. -/
theorem linesFrom_append {line l bs : Bytes} (hl : Unbroken l) :
    linesFrom line (l ++ (lineEnd ++ bs)) = (lines? bs).map ((line.reverse ++ l) :: ·) := by
  induction l generalizing line with
  | nil => simp [lineEnd, linesFrom, lines?]
  | cons b l ih =>
    simp only [Unbroken, List.mem_cons, not_or] at hl
    obtain ⟨⟨h13, hl13⟩, h10, hl10⟩ := hl
    rw [List.cons_append, linesFrom_cons (Ne.symm h13) (Ne.symm h10), ih ⟨hl13, hl10⟩]
    simp

theorem lines?_eq_some {bs : Bytes} {ls : List Bytes} :
    lines? bs = some ls ↔ bs = ls.flatMap (· ++ lineEnd) ∧ ∀ l ∈ ls, Unbroken l := by
  constructor
  · exact eq_of_linesFrom (by simp [Unbroken])
  · rintro ⟨rfl, hall⟩
    induction ls with
    | nil => rfl
    | cons l ls ih =>
      obtain ⟨hl, hls⟩ := List.forall_mem_cons.mp hall
      rw [List.flatMap_cons, List.append_assoc, lines?, linesFrom_append hl, ih hls]
      rfl

end TunnelDial
