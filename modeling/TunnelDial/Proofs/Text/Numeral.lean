import Mathlib.Algebra.Group.Nat.Defs
import Mathlib.Data.List.Induction
import TunnelDial.Text.Numeral

/-! Numerals read back. The written form of a number is read as that number, whatever stands behind
it but a further digit; and no decimal form without needless zeros is read as a number but its
own. -/
namespace TunnelDial.Text

variable {radix bound width n : Nat} {cs t : List Char}

/-- No digit stands at the front of the text. -/
def NoDigit (radix : Nat) (cs : List Char) : Prop := ∀ c ∈ cs.head?, digitValue? radix c = none

@[simp] theorem noDigit_nil : NoDigit radix [] := nofun

@[simp] theorem noDigit_cons {c : Char} : NoDigit radix (c :: cs) ↔ digitValue? radix c = none := by
  simp [NoDigit]

theorem digitValue?_digitChar (hr : radix ≤ 16) (hn : n < radix) :
    digitValue? radix n.digitChar = some n := by
  have small : ∀ r < 17, ∀ d < r, digitValue? r d.digitChar = some d := by decide
  exact small radix (by omega) n hn

theorem NoDigit.mono {r : Nat} (hr : r ≤ radix) (h : NoDigit radix cs) : NoDigit r cs := by
  intro c hc
  have hnone := Option.filter_eq_none_iff.mp (h c hc)
  refine Option.filter_eq_none_iff.mpr fun v hv hlt => hnone v hv ?_
  simp only [decide_eq_true_eq] at hlt ⊢
  omega

theorem spanDigits_of_noDigit (h : NoDigit radix cs) : spanDigits radix cs = ([], cs) := by
  cases cs with
  | nil => rfl
  | cons c cs => rw [spanDigits, noDigit_cons.mp h]

/-- What begins with no digit is not read with the digits before it. -/
theorem spanDigits_append (cs : List Char) (ht : NoDigit radix t) :
    spanDigits radix (cs ++ t) = ((spanDigits radix cs).1, (spanDigits radix cs).2 ++ t) := by
  induction cs with
  | nil => simp [spanDigits, spanDigits_of_noDigit ht]
  | cons c cs ih =>
    rw [List.cons_append, spanDigits, spanDigits]
    cases digitValue? radix c with
    | none => rfl
    | some d => simp [ih]

/-- Digits alone are read with those behind them. -/
theorem spanDigits_append_digits (h : (spanDigits radix cs).2 = []) (t : List Char) :
    spanDigits radix (cs ++ t) =
      ((spanDigits radix cs).1 ++ (spanDigits radix t).1, (spanDigits radix t).2) := by
  induction cs with
  | nil => simp [spanDigits]
  | cons c cs ih =>
    rw [spanDigits] at h
    rw [List.cons_append, spanDigits, spanDigits]
    cases hc : digitValue? radix c with
    | none => simp [hc] at h
    | some d =>
      rw [hc] at h
      simp [ih h]

/-- A written number has nothing but digits. -/
theorem digitValue?_of_mem_toDigits (hb : 1 < radix) (hr : radix ≤ 16) {c : Char}
    (hc : c ∈ Nat.toDigits radix n) : digitValue? radix c ≠ none := by
  induction n using Nat.strongRecOn with
  | _ n ih =>
    by_cases hn : n < radix
    · rw [Nat.toDigits_of_lt_base hn, List.mem_singleton] at hc
      simp [hc, digitValue?_digitChar hr hn]
    · rw [Nat.toDigits_of_base_le hb (by omega), List.mem_append, List.mem_singleton] at hc
      rcases hc with hc | rfl
      · exact ih (n / radix) (Nat.div_lt_self (by omega) hb) hc
      · simp [digitValue?_digitChar hr (Nat.mod_lt n (by omega : 0 < radix))]

theorem spanDigits_suffix (radix : Nat) (cs : List Char) : (spanDigits radix cs).2 <:+ cs := by
  induction cs with
  | nil => exact List.suffix_rfl
  | cons c cs ih =>
    rw [spanDigits]
    cases digitValue? radix c with
    | none => exact List.suffix_rfl
    | some d => exact ih.trans (List.suffix_cons c cs)

theorem valueOf_concat (ds : List Nat) (d : Nat) :
    valueOf radix (ds ++ [d]) = valueOf radix ds * radix + d := by
  simp [valueOf]

/-- The digits of a written number: they have its value, and begin with a zero only as the one
digit of zero. -/
theorem exists_spanDigits_toDigits (hb : 1 < radix) (hr : radix ≤ 16) (n : Nat) :
    ∃ ds, spanDigits radix (Nat.toDigits radix n) = (ds, []) ∧ valueOf radix ds = n ∧
      ds.length = (Nat.toDigits radix n).length ∧ ∀ ds', ds = 0 :: ds' → ds = [0] ∧ n = 0 := by
  induction n using Nat.strongRecOn with
  | _ n ih =>
    have hone {d : Nat} (hd : d < radix) : spanDigits radix [d.digitChar] = ([d], []) := by
      simp [spanDigits, digitValue?_digitChar hr hd]
    by_cases hn : n < radix
    · refine ⟨[n], ?_, by simp [valueOf], ?_, ?_⟩
      · rw [Nat.toDigits_of_lt_base hn, hone hn]
      · rw [Nat.toDigits_of_lt_base hn]
        rfl
      · rintro ds' h
        cases h
        exact ⟨rfl, rfl⟩
    · obtain ⟨ds, hspan, hvalue, hlen, hzero⟩ := ih (n / radix) (Nat.div_lt_self (by omega) hb)
      have hlast := hone (Nat.mod_lt n (by omega : 0 < radix))
      have hpos : 0 < n / radix := Nat.div_pos (by omega) (by omega)
      rw [Nat.toDigits_of_base_le hb (by omega)]
      refine ⟨ds ++ [n % radix], ?_, ?_, by simp [hlen], ?_⟩
      · rw [spanDigits_append_digits (by rw [hspan]), hspan, hlast]
      · rw [valueOf_concat, hvalue, Nat.mul_comm]
        exact Nat.div_add_mod n radix
      · rintro ds' h
        cases ds with
        | nil =>
          simp [valueOf] at hvalue
          omega
        | cons d ds =>
          obtain ⟨rfl, -⟩ := List.cons.inj h
          have := (hzero ds rfl).2
          omega

theorem readNumber?_append (cs : List Char) (ht : NoDigit radix t) :
    readNumber? radix bound (cs ++ t) =
      (readNumber? radix bound cs).map fun r => (r.1, r.2 ++ t) := by
  rw [readNumber?, readNumber?, spanDigits_append cs ht]
  cases spanDigits radix cs with
  | mk ds rest =>
    cases ds with
    | nil => rfl
    | cons d ds =>
      dsimp only
      split <;> rfl

theorem suffix_of_readNumber? (h : readNumber? radix bound cs = some (n, t)) : t <:+ cs := by
  rw [readNumber?] at h
  have hsuffix := spanDigits_suffix radix cs
  cases hspan : spanDigits radix cs with
  | mk ds rest =>
    rw [hspan] at h hsuffix
    cases ds with
    | nil => cases h
    | cons d ds =>
      dsimp only at h
      split at h
      · cases h
        exact hsuffix
      · cases h

theorem suffix_of_readShort? (h : readShort? radix bound width cs = some (n, t)) : t <:+ cs := by
  rw [readShort?] at h
  split at h
  · exact suffix_of_readNumber? h
  · cases h

theorem readShort?_append (cs : List Char) (ht : NoDigit radix t) :
    readShort? radix bound width (cs ++ t) =
      (readShort? radix bound width cs).map fun r => (r.1, r.2 ++ t) := by
  rw [readShort?, readShort?, spanDigits_append cs ht, readNumber?_append cs ht]
  split <;> rfl

theorem readShort?_of_noDigit (h : NoDigit radix cs) : readShort? radix bound width cs = none := by
  rw [readShort?, readNumber?, spanDigits_of_noDigit h]
  split <;> rfl

/-- A written number is read back. -/
theorem readNumber?_toDigits (hb : 1 < radix) (hr : radix ≤ 16) (hn : n < bound)
    (ht : NoDigit radix t) :
    readNumber? radix bound (Nat.toDigits radix n ++ t) = some (n, t) := by
  obtain ⟨ds, hspan, hvalue, hlen, -⟩ := exists_spanDigits_toDigits hb hr n
  rw [readNumber?, spanDigits_append _ ht, hspan]
  cases ds with
  | nil => exact absurd (List.length_eq_zero_iff.mp hlen.symm) Nat.toDigits_ne_nil
  | cons d ds => simp [hvalue, hn]

/-- A written number with few enough digits is read back. -/
theorem readShort?_toDigits (hb : 1 < radix) (hr : radix ≤ 16) (hw : 0 < width)
    (hn : n < bound) (hle : n < radix ^ width) (ht : NoDigit radix t) :
    readShort? radix bound width (Nat.toDigits radix n ++ t) = some (n, t) := by
  obtain ⟨ds, hspan, -, hlen, -⟩ := exists_spanDigits_toDigits hb hr n
  have hshort : ds.length ≤ width := hlen ▸ (Nat.length_toDigits_le_iff hb hw).mpr hle
  rw [readShort?, readNumber?_toDigits hb hr hn ht, spanDigits_append _ ht, hspan]
  exact if_pos hshort

/-- Without a sign the text is read as digits alone. -/
theorem decimal?_of_unsigned (h : cs.head? ≠ some '+') :
    decimal? bound cs =
      match readNumber? 10 bound cs with
      | some (n, []) => some n
      | _ => none := by
  unfold decimal?
  split
  · exact absurd rfl h
  · rfl

theorem decimal_ne_nil (n : Nat) : decimal n ≠ [] := Nat.toDigits_ne_nil

theorem isDigit_of_mem_decimal {c : Char} (h : c ∈ decimal n) : c.isDigit = true :=
  Nat.isDigit_of_mem_toDigits (by decide) (by decide) h

theorem colon_not_mem_decimal (n : Nat) : ':' ∉ decimal n := fun h =>
  absurd (isDigit_of_mem_decimal h) (by decide)

/-- A port is read back from its decimal form. -/
theorem port?_decimal (p : UInt16) : port? (decimal p.toNat) = some p := by
  have hread : readNumber? 10 65536 (decimal p.toNat) = some (p.toNat, []) := by
    have h := readNumber?_toDigits (t := []) (by decide : 1 < 10) (by decide) p.toNat_lt
      noDigit_nil
    rwa [List.append_nil] at h
  have hunsigned : (decimal p.toNat).head? ≠ some '+' := fun h =>
    absurd (isDigit_of_mem_decimal (List.mem_of_mem_head? h)) (by decide)
  rw [port?, decimal?_of_unsigned hunsigned, hread]
  simp

theorem eq_digitChar_of_digitValue? {c : Char} {d : Nat} (h : digitValue? 10 c = some d) :
    c = d.digitChar ∧ d < 10 := by
  obtain ⟨hv, hd⟩ := Option.filter_eq_some_iff.mp h
  have hd : d < 10 := of_decide_eq_true hd
  refine ⟨?_, hd⟩
  rw [← Char.toNat_inj, Nat.toNat_digitChar_of_lt_ten hd]
  split at hv
  · next hc =>
    have hlow : '0'.toNat ≤ c.toNat := hc.1
    cases hv
    simp at hlow
    omega
  split at hv
  · next hc =>
    have hlow : 'a'.toNat ≤ c.toNat := hc.1
    cases hv
    simp at hlow
    omega
  split at hv
  · next hc =>
    have hlow : 'A'.toNat ≤ c.toNat := hc.1
    cases hv
    simp at hlow
    omega
  · cases hv

theorem eq_of_spanDigits {ds : List Nat} (h : spanDigits 10 cs = (ds, t)) :
    cs = ds.map Nat.digitChar ++ t ∧ ∀ d ∈ ds, d < 10 := by
  induction cs generalizing ds with
  | nil =>
    cases h
    simp
  | cons c cs ih =>
    rw [spanDigits] at h
    cases hc : digitValue? 10 c with
    | none =>
      rw [hc] at h
      cases h
      simp
    | some d =>
      rw [hc] at h
      obtain ⟨rfl, hd⟩ := eq_digitChar_of_digitValue? hc
      obtain ⟨rfl, rfl⟩ := Prod.mk.inj h
      obtain ⟨hcs, hall⟩ := ih rfl
      exact ⟨congrArg (d.digitChar :: ·) hcs, List.forall_mem_cons.mpr ⟨hd, hall⟩⟩

/-- A text that is a number as a whole has nothing but digits. -/
theorem isDigit_of_readNumber? (h : readNumber? 10 bound cs = some (n, [])) :
    ∀ c ∈ cs, c.isDigit = true := by
  rw [readNumber?] at h
  cases hspan : spanDigits 10 cs with
  | mk ds rest =>
    rw [hspan] at h
    cases ds with
    | nil => cases h
    | cons d ds =>
      dsimp only at h
      split at h
      · cases h
        obtain ⟨hcs, hall⟩ := eq_of_spanDigits hspan
        intro c hc
        rw [hcs, List.append_nil] at hc
        obtain ⟨e, he, rfl⟩ := List.mem_map.mp hc
        simpa [Nat.isDigit_digitChar] using hall e he
      · cases h

theorem valueOf_pos {d : Nat} (hd : d ≠ 0) (ds : List Nat) : 0 < valueOf 10 (d :: ds) := by
  induction ds using List.reverseRecOn with
  | nil =>
    simp [valueOf]
    omega
  | append_singleton ds e ih =>
    rw [← List.cons_append, valueOf_concat]
    omega

/-- Digits without a needless zero in front are the decimal form of their value. -/
theorem eq_decimal_of_spanDigits {d : Nat} {ds : List Nat}
    (h : spanDigits 10 cs = (d :: ds, t)) (hz : d = 0 → ds = []) :
    cs = decimal (valueOf 10 (d :: ds)) ++ t := by
  obtain ⟨hcs, hall⟩ := eq_of_spanDigits h
  rw [hcs]
  congr 1
  clear h hcs
  induction ds using List.reverseRecOn with
  | nil =>
    have hd : d < 10 := hall d List.mem_cons_self
    simp [valueOf, decimal, Nat.toDigits_of_lt_base hd]
  | append_singleton ds e ih =>
    have he : e < 10 := hall e (by simp)
    have hne : d ≠ 0 := fun h => by simpa using hz h
    have hpre := ih (fun h => absurd h hne) fun x hx => hall x (by simp at hx ⊢; tauto)
    have hjoin := Nat.toDigits_append_toDigits (b := 10) (by decide) (valueOf_pos hne ds) he
    rw [← List.cons_append, List.map_append, hpre, valueOf_concat, Nat.mul_comm, decimal, decimal,
      ← hjoin, Nat.toDigits_of_lt_base he]
    rfl

/-- Digits are the decimal form of their value behind needless zeros. -/
theorem eq_zeros_of_spanDigits {d : Nat} {ds : List Nat} (h : spanDigits 10 cs = (d :: ds, t)) :
    ∃ k, cs = List.replicate k '0' ++ (decimal (valueOf 10 (d :: ds)) ++ t) := by
  induction ds generalizing cs d with
  | nil => exact ⟨0, eq_decimal_of_spanDigits h fun _ => rfl⟩
  | cons e ds ih =>
    by_cases hd : d = 0
    · subst hd
      cases cs with
      | nil => cases h
      | cons c cs =>
        rw [spanDigits] at h
        cases hc : digitValue? 10 c with
        | none => simp [hc] at h
        | some v =>
          rw [hc] at h
          simp only [Prod.mk.injEq, List.cons.injEq] at h
          obtain ⟨⟨rfl, hds⟩, ht⟩ := h
          obtain ⟨k, hk⟩ := ih (Prod.ext hds ht)
          obtain ⟨rfl, -⟩ := eq_digitChar_of_digitValue? hc
          refine ⟨k + 1, ?_⟩
          rw [hk]
          simp [List.replicate_succ, valueOf]
    · exact ⟨0, eq_decimal_of_spanDigits h fun h0 => absurd h0 hd⟩

theorem spanDigits_replicate_zero (k : Nat) :
    spanDigits 10 (List.replicate k '0') = (List.replicate k 0, []) := by
  induction k with
  | zero => rfl
  | succ k ih =>
    have hzero : digitValue? 10 '0' = some 0 := by decide
    rw [List.replicate_succ, spanDigits, hzero, ih]
    rfl

theorem valueOf_replicate_append (k : Nat) (ds : List Nat) :
    valueOf radix (List.replicate k 0 ++ ds) = valueOf radix ds := by
  induction k with
  | zero => rfl
  | succ k ih =>
    rw [List.replicate_succ, List.cons_append, ← ih]
    simp [valueOf]

/-- The decimal form of a number is read back, also behind zeros. -/
theorem readNumber?_zeros (k : Nat) (hn : n < bound) :
    readNumber? 10 bound (List.replicate k '0' ++ decimal n) = some (n, []) := by
  obtain ⟨ds, hspan, hvalue, hlen, -⟩ :=
    exists_spanDigits_toDigits (by decide : 1 < 10) (by decide) n
  have hds : ds ≠ [] := fun h =>
    decimal_ne_nil n (List.length_eq_zero_iff.mp (by rw [decimal, ← hlen, h]; rfl))
  have hall : spanDigits 10 (List.replicate k '0' ++ decimal n) = (List.replicate k 0 ++ ds, []) := by
    rw [spanDigits_append_digits (by rw [spanDigits_replicate_zero]), spanDigits_replicate_zero,
      decimal, hspan]
  have hvalue : valueOf 10 (List.replicate k 0 ++ ds) = n := by
    rw [valueOf_replicate_append, hvalue]
  rw [readNumber?, hall]
  split
  · next h => simp_all
  · next ds' rest _ h =>
    cases h
    rw [hvalue, if_pos hn]

/-- Digits and nothing else are read as a number exactly if they are its decimal form behind
zeros. -/
theorem readNumber?_eq_some_iff : readNumber? 10 bound cs = some (n, []) ↔
    n < bound ∧ ∃ k, cs = List.replicate k '0' ++ decimal n := by
  constructor
  · intro h
    rw [readNumber?] at h
    cases hspan : spanDigits 10 cs with
    | mk ds rest =>
      rw [hspan] at h
      cases ds with
      | nil => cases h
      | cons d ds =>
        dsimp only at h
        split at h
        · next hlt =>
          obtain ⟨rfl, rfl⟩ := Prod.mk.inj (Option.some.inj h)
          obtain ⟨k, hk⟩ := eq_zeros_of_spanDigits hspan
          exact ⟨hlt, k, by simpa using hk⟩
        · cases h
  · rintro ⟨hn, k, rfl⟩
    exact readNumber?_zeros k hn

theorem head?_zeros_ne (k n : Nat) :
    (List.replicate k '0' ++ decimal n).head? ≠ some '+' := by
  intro h
  rcases List.mem_append.mp (List.mem_of_mem_head? h) with h | h
  · exact absurd (List.eq_of_mem_replicate h) (by decide)
  · exact absurd (isDigit_of_mem_decimal h) (by decide)

/-- A whole text is read as a number exactly if it is the decimal form of that behind zeros, with
one plus sign or none before them. -/
theorem decimal?_eq_some_iff : decimal? bound cs = some n ↔ n < bound ∧
    ∃ sign k, (sign = [] ∨ sign = ['+']) ∧ cs = sign ++ (List.replicate k '0' ++ decimal n) := by
  have hwhole (body : List Char) : (match readNumber? 10 bound body with
      | some (n, []) => some n
      | _ => none) = some n ↔ readNumber? 10 bound body = some (n, []) := by
    split
    · next m h => simp [h]
    · next h => exact ⟨nofun, fun hn => absurd hn (h n)⟩
  by_cases hplus : ∃ r, cs = '+' :: r
  · obtain ⟨r, rfl⟩ := hplus
    refine ((hwhole r).trans readNumber?_eq_some_iff).trans (and_congr_right fun _ => ?_)
    refine ⟨fun ⟨k, hk⟩ => ⟨['+'], k, .inr rfl, hk ▸ rfl⟩, ?_⟩
    rintro ⟨sign, k, rfl | rfl, hr⟩
    · exact absurd (congrArg List.head? hr).symm (head?_zeros_ne k n)
    · exact ⟨k, List.tail_eq_of_cons_eq hr⟩
  · have hunsigned : cs.head? ≠ some '+' := fun h => hplus (List.head?_eq_some_iff.mp h)
    rw [decimal?_of_unsigned hunsigned]
    refine ((hwhole cs).trans readNumber?_eq_some_iff).trans (and_congr_right fun _ => ?_)
    refine ⟨fun ⟨k, hk⟩ => ⟨[], k, .inl rfl, hk⟩, ?_⟩
    rintro ⟨sign, k, rfl | rfl, hr⟩
    · exact ⟨k, hr⟩
    · exact absurd ⟨_, hr⟩ hplus

end TunnelDial.Text
