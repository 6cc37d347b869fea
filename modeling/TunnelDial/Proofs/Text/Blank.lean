import TunnelDial.Text.Blank

/-! Cutting texts. White space is cut from the ends alone, and a text is cut at the first or the
last of the places where it may be. -/
namespace TunnelDial.Text

variable {p : Char → Bool} {c : Char} {cs xs ys : List Char}

theorem dropWhile_of_head? (h : ∀ c ∈ cs.head?, p c = false) : cs.dropWhile p = cs := by
  cases cs with
  | nil => rfl
  | cons c cs => simp [h c rfl]

theorem dropTrailing_of_getLast? (h : ∀ c ∈ cs.getLast?, p c = false) :
    dropTrailing p cs = cs := by
  rw [dropTrailing, dropWhile_of_head? (by simpa using h), List.reverse_reverse]

/-- Nothing is cut before a character that stays. -/
theorem dropTrailing_append (h : ∀ c ∈ xs.getLast?, p c = false) (ys : List Char) :
    dropTrailing p (xs ++ ys) = xs ++ dropTrailing p ys := by
  rw [dropTrailing, dropTrailing, List.reverse_append, List.dropWhile_append]
  split
  · next hempty =>
    rw [dropWhile_of_head? (by simpa using h), List.isEmpty_iff.mp hempty]
    simp
  · simp

theorem dropTrailing_isPrefixOf (p : Char → Bool) (cs : List Char) : dropTrailing p cs <+: cs := by
  rw [dropTrailing, ← List.reverse_suffix, List.reverse_reverse]
  exact List.dropWhile_suffix p

theorem isBlank_of_isDigit (h : c.isDigit = true) : isBlank c = false := by
  have hbounds : 48 ≤ c.toNat ∧ c.toNat ≤ 57 := by
    simpa [Char.isDigit, UInt32.le_iff_toNat_le] using h
  simp [isBlank]
  omega

/-- A text with characters of other kinds at its two ends stays. -/
theorem trim_of_ends (hfirst : ∀ c ∈ cs.head?, isBlank c = false)
    (hlast : ∀ c ∈ cs.getLast?, isBlank c = false) : trim cs = cs := by
  rw [trim, dropWhile_of_head? hfirst, dropTrailing_of_getLast? hlast]

theorem head?_trim (cs : List Char) : ∀ c ∈ (trim cs).head?, isBlank c = false := by
  intro c hc
  have hprefix := dropTrailing_isPrefixOf isBlank (cs.dropWhile isBlank)
  have hfirst := List.head?_dropWhile_not isBlank cs
  obtain ⟨rest, hrest⟩ := hprefix
  obtain ⟨tail, htail⟩ := List.head?_eq_some_iff.mp hc
  rw [← hrest, ← trim, htail] at hfirst
  simpa using hfirst

theorem cutLast?_of_not_mem (h : c ∉ cs) : cutLast? c cs = none := by
  induction cs with
  | nil => rfl
  | cons x xs ih =>
    obtain ⟨hx, hxs⟩ := not_or.mp (mt List.mem_cons.mpr h)
    rw [cutLast?, ih hxs]
    exact if_neg (Ne.symm hx)

theorem cutLast?_append (h : c ∉ ys) (xs : List Char) :
    cutLast? c (xs ++ c :: ys) = some (xs, ys) := by
  induction xs with
  | nil => simp [cutLast?, cutLast?_of_not_mem h]
  | cons x xs ih => simp [cutLast?, ih]

theorem cut?_of_not_mem (h : c ∉ cs) : cut? c cs = none := by
  induction cs with
  | nil => rfl
  | cons x xs ih =>
    obtain ⟨hx, hxs⟩ := not_or.mp (mt List.mem_cons.mpr h)
    rw [cut?, if_neg (Ne.symm hx), ih hxs]
    rfl

theorem cut?_append (h : c ∉ xs) (ys : List Char) : cut? c (xs ++ c :: ys) = some (xs, ys) := by
  induction xs with
  | nil => simp [cut?]
  | cons x xs ih =>
    obtain ⟨hx, hxs⟩ := not_or.mp (mt List.mem_cons.mpr h)
    rw [List.cons_append, cut?, if_neg (Ne.symm hx), ih hxs]
    rfl

/-- A text is cut at the first place where it may be. -/
theorem cut?_eq_some_iff : cut? c cs = some (xs, ys) ↔ c ∉ xs ∧ cs = xs ++ c :: ys := by
  refine ⟨fun h => ?_, fun ⟨hxs, hcs⟩ => hcs ▸ cut?_append hxs ys⟩
  by_cases hc : c ∈ cs
  · obtain ⟨as, bs, rfl, has⟩ := List.eq_append_cons_of_mem hc
    obtain ⟨rfl, rfl⟩ := Prod.mk.inj (Option.some.inj ((cut?_append has bs).symm.trans h))
    exact ⟨has, rfl⟩
  · rw [cut?_of_not_mem hc] at h
    cases h

/-- What holds of every ASCII character holds of one. -/
theorem of_forall_ascii {P : Char → Prop} (h : ∀ n < 128, P (Char.ofNat n)) (hc : c.toNat < 128) :
    P c := by
  have hn := h c.toNat hc
  rwa [Char.ofNat_toNat] at hn

/-- What holds of every character of a text by evaluation holds of one. -/
theorem of_all {P : Char → Prop} [DecidablePred P] (h : (cs.all fun c => decide (P c)) = true)
    (hc : c ∈ cs) : P c := of_decide_eq_true (List.all_eq_true.mp h c hc)

end TunnelDial.Text
