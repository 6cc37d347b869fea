import Mathlib.Data.Option.Basic
import TunnelDial.Address.Ip
import TunnelDial.Proofs.Text.Numeral

/-! IP addresses and their text. Every address is read back from the text that it is written as: the
shortened run is one of zeros, and no group is mistaken for the dotted form. An IPv4 address has no
other text. -/
namespace TunnelDial

open Text

variable {c : Char} {cs t : List Char}

@[simp] theorem expect?_cons_self (c : Char) (cs : List Char) : expect? c (c :: cs) = some cs := by
  simp [expect?]

theorem expect?_of_head?_ne (h : cs.head? ≠ some c) : expect? c cs = none := by
  cases cs with
  | nil => rfl
  | cons x xs => simpa [expect?] using h

theorem expect?_append (h : t.head? ≠ some c) (cs : List Char) :
    expect? c (cs ++ t) = (expect? c cs).map (· ++ t) := by
  cases cs with
  | nil => exact expect?_of_head?_ne h
  | cons x xs =>
    rw [List.cons_append, expect?, expect?]
    split <;> rfl

theorem eq_of_expect? (h : expect? c cs = some t) : cs = c :: t := by
  cases cs with
  | nil => cases h
  | cons x xs =>
    rw [expect?] at h
    split at h
    · next hx =>
      cases h
      rw [hx]
    · cases h

namespace Ipv4

theorem readOctet?_append (ht : NoDigit 10 t) (cs : List Char) :
    readOctet? (cs ++ t) = (readOctet? cs).map fun r => (r.1, r.2 ++ t) := by
  rw [readOctet?, readOctet?, spanDigits_append cs ht, readShort?_append cs ht]
  cases spanDigits 10 cs with
  | mk ds rest =>
    rcases ds with _ | ⟨d, _ | ⟨e, ds⟩⟩
    · simp [Function.comp_def]
    · cases d <;> simp [Function.comp_def]
    · cases d <;> simp [Function.comp_def]

theorem readOctet?_decimal (a : UInt8) (ht : NoDigit 10 t) :
    readOctet? (decimal a.toNat ++ t) = some (a, t) := by
  obtain ⟨ds, hspan, -, -, hzero⟩ :=
    exists_spanDigits_toDigits (by decide : 1 < 10) (by decide) a.toNat
  have hlt : a.toNat < 256 := a.toNat_lt
  have hread : readShort? 10 256 3 (decimal a.toNat ++ t) = some (a.toNat, t) :=
    readShort?_toDigits (by decide) (by decide) (by decide) hlt (by omega) ht
  rw [readOctet?, hread, decimal, spanDigits_append _ ht, hspan]
  split
  · next heq =>
    have hds := (hzero _ (Prod.mk.inj heq).1).1
    rw [hds] at heq
    cases heq
  · simp

/-- An octet has one text. -/
theorem eq_of_readOctet? {a : UInt8} (h : readOctet? cs = some (a, t)) :
    cs = decimal a.toNat ++ t := by
  rw [readOctet?] at h
  split at h
  · cases h
  · next hzero =>
    obtain ⟨⟨n, rest⟩, hread, heq⟩ := Option.map_eq_some_iff.mp h
    obtain ⟨rfl, rfl⟩ := Prod.mk.inj heq
    rw [readShort?] at hread
    split at hread
    · rw [readNumber?] at hread
      cases hspan : spanDigits 10 cs with
      | mk ds t =>
        rw [hspan] at hread hzero
        cases ds with
        | nil => cases hread
        | cons d ds =>
          dsimp only at hread
          split at hread
          · next hlt =>
            obtain ⟨rfl, rfl⟩ := Prod.mk.inj (Option.some.inj hread)
            rw [UInt8.toNat_ofNat_of_lt' hlt]
            refine eq_decimal_of_spanDigits hspan fun hd => ?_
            cases ds with
            | nil => rfl
            | cons e ds => exact (hzero e ds t (hd ▸ rfl)).elim
          · cases hread
    · cases hread

/-- What stands behind an address is no part of it. -/
theorem read?_append (ht : NoDigit 10 t) (hdot : t.head? ≠ some '.') (cs : List Char) :
    read? (cs ++ t) = (read? cs).map fun r => (r.1, r.2 ++ t) := by
  simp [read?, readOctet?_append ht, expect?_append hdot, Option.bind_map, Option.map_bind]

theorem read?_toList (ip : Ipv4) (ht : NoDigit 10 t) : read? (ip.toList ++ t) = some (ip, t) := by
  have dot (t : List Char) : NoDigit 10 ('.' :: t) := noDigit_cons.mpr rfl
  simp [read?, toList, readOctet?_decimal, dot, ht]

/-- An address has one text. -/
theorem eq_of_read? {ip : Ipv4} (h : read? cs = some (ip, t)) : cs = ip.toList ++ t := by
  simp only [read?, Option.bind_eq_bind, Option.bind_eq_some_iff, Prod.exists, Option.pure_def,
    Option.some.injEq, Prod.mk.injEq] at h
  obtain ⟨a, _, ha, _, hdot₁, b, _, hb, _, hdot₂, c, _, hc, _, hdot₃, d, _, hd, rfl, rfl⟩ := h
  rw [eq_of_readOctet? ha, eq_of_expect? hdot₁, eq_of_readOctet? hb, eq_of_expect? hdot₂,
    eq_of_readOctet? hc, eq_of_expect? hdot₃, eq_of_readOctet? hd]
  simp [toList]

theorem read?_of_noDigit (h : NoDigit 10 cs) : read? cs = none := by
  rw [read?, readOctet?, spanDigits_of_noDigit h, readShort?_of_noDigit h]
  rfl

/-- Characters among which is no dot are no address, whatever stands behind them but a digit or a
dot. -/
theorem read?_of_no_dot {front : List Char} (hf : '.' ∉ front) (ht : NoDigit 10 t)
    (hdot : t.head? ≠ some '.') : read? (front ++ t) = none := by
  cases hread : read? (front ++ t) with
  | none => rfl
  | some r =>
    obtain ⟨rest, heq⟩ : ∃ rest, front ++ t = decimal r.1.a.toNat ++ '.' :: rest := by
      rw [eq_of_read? hread, toList, List.append_assoc, List.cons_append]
      exact ⟨_, rfl⟩
    rcases List.append_eq_append_iff.mp heq with ⟨y, hy, hyt⟩ | ⟨y, hy, hyt⟩
    · -- the first number ends behind `front`
      cases y with
      | nil => exact absurd (by rw [hyt]; rfl) hdot
      | cons d y =>
        have hmem : d ∈ Nat.toDigits 10 r.1.a.toNat := by
          rw [← decimal, hy]
          simp
        rw [hyt] at ht
        exact absurd (noDigit_cons.mp ht) (digitValue?_of_mem_toDigits (by decide) (by decide) hmem)
    · cases y with
      | nil => exact absurd (by rw [← List.nil_append t, ← hyt]; rfl) hdot
      | cons d y =>
        obtain ⟨rfl, -⟩ := List.cons.inj hyt
        exact absurd (by simp [hy]) hf

theorem eq_of_ofList? {ip : Ipv4} (h : ofList? cs = some ip) : cs = ip.toList := by
  rw [ofList?] at h
  split at h
  · next ip' hread =>
    cases h
    simpa using eq_of_read? hread
  · cases h

theorem ofList?_toList (ip : Ipv4) : ofList? ip.toList = some ip := by
  have hread := read?_toList ip (t := []) noDigit_nil
  rw [List.append_nil] at hread
  rw [ofList?, hread]

theorem colon_not_mem_toList (ip : Ipv4) : ':' ∉ ip.toList := by
  simp [toList, colon_not_mem_decimal]

theorem isDigit_head?_toList (ip : Ipv4) : ∀ c ∈ ip.toList.head?, c.isDigit = true := by
  have hne : decimal ip.a.toNat ≠ [] := decimal_ne_nil _
  intro c hc
  rw [toList, List.head?_append, List.head?_eq_some_head hne] at hc
  cases hc
  exact isDigit_of_mem_decimal (List.head_mem hne)

theorem toList_ne_nil (ip : Ipv4) : ip.toList ≠ [] := by simp [toList]

theorem head?_toList_ne (ip : Ipv4) (hc : c.isDigit = false) : ip.toList.head? ≠ some c := by
  intro h
  rw [ip.isDigit_head?_toList c h] at hc
  cases hc

end Ipv4

namespace Ipv6

/-- What stands at the front of the text goes on with no address. -/
structure Stops (t : List Char) : Prop where
  digit : NoDigit 16 t
  dot : t.head? ≠ some '.'
  colon : ∀ r, t = ':' :: r → NoDigit 16 r

theorem stops_nil : Stops [] := ⟨noDigit_nil, nofun, nofun⟩

theorem stops_colon (h : NoDigit 16 t) : Stops (':' :: t) :=
  ⟨noDigit_cons.mpr rfl, by simp, fun r hr => (List.cons.inj hr).2 ▸ h⟩

theorem readGroups_of_stops (h : Stops t) (room : Nat) :
    readGroups room false t = ⟨[], false, t⟩ := by
  cases room with
  | zero => rfl
  | succ room =>
    by_cases hc : t.head? = some ':'
    · obtain ⟨r, rfl⟩ : ∃ r, t = ':' :: r := List.head?_eq_some_iff.mp hc
      have hdigit := h.colon r rfl
      have hdotted := Ipv4.read?_of_noDigit (hdigit.mono (by decide))
      simp [readGroups, hdotted, readShort?_of_noDigit hdigit]
    · simp [readGroups, expect?_of_head?_ne hc]

theorem readGroups_of_noDigit (h : NoDigit 16 t) (room : Nat) :
    readGroups room true t = ⟨[], false, t⟩ := by
  cases room with
  | zero => rfl
  | succ room =>
    have hdotted := Ipv4.read?_of_noDigit (h.mono (by decide))
    simp [readGroups, hdotted, readShort?_of_noDigit h]

/-- One written group is read, and then what is behind it. -/
theorem readGroups_group (first : Bool) (g : UInt16) (ht : NoDigit 16 t)
    (hdot : t.head? ≠ some '.') (room : Nat) :
    readGroups (room + 1) first ((if first then [] else [':']) ++ (hexadecimal g.toNat ++ t)) =
      ⟨g :: (readGroups room false t).values, (readGroups room false t).dotted,
        (readGroups room false t).rest⟩ := by
  have hmark : '.' ∉ hexadecimal g.toNat := fun hmem =>
    digitValue?_of_mem_toDigits (by decide) (by decide) hmem rfl
  have hdotted : Ipv4.read? (hexadecimal g.toNat ++ t) = none :=
    Ipv4.read?_of_no_dot hmark (ht.mono (by decide)) hdot
  have hlt : g.toNat < 65536 := g.toNat_lt
  have hgroup : readShort? 16 65536 4 (hexadecimal g.toNat ++ t) = some (g.toNat, t) :=
    readShort?_toDigits (by decide) (by decide) (by decide) hlt hlt ht
  cases first <;> simp [readGroups, hdotted, hgroup]

theorem readGroups_dotted {v4 : Ipv4} (h : Ipv4.read? cs = some (v4, t)) (room : Nat) :
    readGroups (room + 2) false (':' :: cs) = ⟨v4.halves, true, t⟩ := by
  rw [readGroups]
  simp [h]

theorem writeGroups_cons (g : UInt16) (gs : List UInt16) :
    writeGroups (g :: gs) =
      hexadecimal g.toNat ++ gs.flatMap fun g => ':' :: hexadecimal g.toNat := by
  induction gs generalizing g with
  | nil => simp [writeGroups]
  | cons g' gs ih => simp [writeGroups, ih]

/-- Written groups are read back, up to a text that goes on with no address. -/
theorem readGroups_writeGroups {gs : List UInt16} {room : Nat} (hlen : gs.length ≤ room)
    (ht : Stops t) : readGroups room true (writeGroups gs ++ t) = ⟨gs, false, t⟩ := by
  have behind (gs : List UInt16) :
      NoDigit 16 (gs.flatMap (fun g => ':' :: hexadecimal g.toNat) ++ t) ∧
        (gs.flatMap (fun g => ':' :: hexadecimal g.toNat) ++ t).head? ≠ some '.' := by
    cases gs with
    | nil => exact ⟨ht.digit, ht.dot⟩
    | cons g gs => exact ⟨noDigit_cons.mpr rfl, by simp⟩
  have more (gs : List UInt16) {room : Nat} (hlen : gs.length ≤ room) :
      readGroups room false (gs.flatMap (fun g => ':' :: hexadecimal g.toNat) ++ t) =
        ⟨gs, false, t⟩ := by
    induction gs generalizing room with
    | nil => exact readGroups_of_stops ht room
    | cons g gs ih =>
      obtain ⟨room, rfl⟩ := Nat.exists_eq_add_one_of_ne_zero (n := room) (by
        rintro rfl
        cases hlen)
      have hstep := readGroups_group false g (behind gs).1 (behind gs).2 room
      rw [ih (Nat.le_of_succ_le_succ hlen)] at hstep
      simpa using hstep
  cases gs with
  | nil => exact readGroups_of_noDigit ht.digit room
  | cons g gs =>
    obtain ⟨room, rfl⟩ := Nat.exists_eq_add_one_of_ne_zero (n := room) (by
      rintro rfl
      cases hlen)
    have hstep := readGroups_group true g (behind gs).1 (behind gs).2 room
    rw [more gs (Nat.le_of_succ_le_succ hlen)] at hstep
    rw [writeGroups_cons, List.append_assoc]
    simpa using hstep

theorem eq_replicate_append (gs : List UInt16) :
    gs = List.replicate (leadingZeros gs) 0 ++ gs.drop (leadingZeros gs) := by
  induction gs with
  | nil => rfl
  | cons g gs ih =>
    rw [leadingZeros.eq_def]
    split
    · next gs' heq =>
      obtain ⟨rfl, rfl⟩ := List.cons.inj heq
      simpa [List.replicate_succ] using ih
    · rfl

/-- The run that is shortened is one of zeros. -/
theorem eq_longestRun (gs : List UInt16) :
    gs = gs.take (longestRun gs).1 ++ List.replicate (longestRun gs).2 0 ++
      gs.drop ((longestRun gs).1 + (longestRun gs).2) := by
  induction gs with
  | nil => rfl
  | cons g gs ih =>
    rw [longestRun]
    split
    · simpa using eq_replicate_append (g :: gs)
    · rw [Nat.add_right_comm, List.take_succ_cons, List.drop_succ_cons, List.cons_append,
        List.cons_append, ← ih]

theorem length_ends {front back : List UInt16} {n : Nat} {ip : Ipv6}
    (h : ip.groups = front ++ List.replicate n 0 ++ back) :
    front.length + n + back.length = 8 := by
  rw [← ip.eight, h, List.length_append, List.length_append, List.length_replicate]

/-- The zeros between two ends are as many as are missing. -/
theorem ofEnds?_of_eq {front back : List UInt16} {n : Nat} {ip : Ipv6}
    (h : ip.groups = front ++ List.replicate n 0 ++ back) : ofEnds? front back = some ip := by
  have hlen := length_ends h
  have hn : 8 - front.length - back.length = n := by omega
  obtain ⟨groups, eight⟩ := ip
  simp only at h
  subst h
  simp only [ofEnds?, hn]
  exact dif_pos eight

theorem read?_of_parts {front back : List UInt16} {dotted : Bool} {rest : List Char} {ip : Ipv6}
    (hfront : readGroups 8 true cs = ⟨front, false, ':' :: ':' :: rest⟩) (hne : front.length ≠ 8)
    (hback : readGroups (7 - front.length) true rest = ⟨back, dotted, t⟩)
    (hends : ofEnds? front back = some ip) : read? cs = some (ip, t) := by
  simp [read?, hfront, hne, hback, hends]

/-- An address begins with a digit or a colon. -/
theorem read?_of_head? (hdigit : NoDigit 16 cs) (hcolon : cs.head? ≠ some ':') :
    read? cs = none := by
  simp [read?, readGroups_of_noDigit hdigit, expect?_of_head?_ne hcolon]

/-- Two ends with at least two zeros between them are read back. -/
theorem read?_of_ends {front back : List UInt16} {n : Nat} {ip : Ipv6}
    (h : ip.groups = front ++ List.replicate n 0 ++ back) (hn : 2 ≤ n) :
    read? (writeGroups front ++ ':' :: ':' :: writeGroups back) = some (ip, []) := by
  have hlen := length_ends h
  have hfront := readGroups_writeGroups (t := ':' :: ':' :: writeGroups back)
    (by omega : front.length ≤ 8) (stops_colon (noDigit_cons.mpr rfl))
  have hback := readGroups_writeGroups (by omega : back.length ≤ 7 - front.length) stops_nil
  rw [List.append_nil] at hback
  exact read?_of_parts hfront (by omega) hback (ofEnds?_of_eq h)

theorem read?_toShort (ip : Ipv6) : read? (toShort ip.groups) = some (ip, []) := by
  rw [toShort]
  split
  · next hrun => exact read?_of_ends (eq_longestRun ip.groups) hrun
  · have hfront := readGroups_writeGroups (Nat.le_of_eq ip.eight) stops_nil
    rw [List.append_nil] at hfront
    simp [read?, hfront, ip.eight]

theorem halves_ofHalves (hi lo : UInt16) : (Ipv4.ofHalves hi lo).halves = [hi, lo] := by
  have join (g : UInt16) :
      UInt16.ofNat ((UInt8.ofNat (g.toNat / 256)).toNat * 256 +
        (UInt8.ofNat (g.toNat % 256)).toNat) = g := by
    have hlt : g.toNat < 65536 := g.toNat_lt
    rw [UInt8.toNat_ofNat_of_lt' (by omega : g.toNat / 256 < 256),
      UInt8.toNat_ofNat_of_lt' (by omega : g.toNat % 256 < 256), Nat.div_add_mod']
    simp
  rw [Ipv4.halves, Ipv4.ofHalves]
  exact congrArg₂ (fun hi lo => [hi, lo]) (join hi) (join lo)

theorem read?_mapped {ip : Ipv6} {v4 : Ipv4} (h : ip.mapped? = some v4) :
    read? ("::ffff:".toList ++ v4.toList) = some (ip, []) := by
  obtain ⟨groups, eight⟩ := ip
  rw [mapped?] at h
  split at h
  · next hi lo hgroups =>
    simp only at hgroups
    subst hgroups
    cases h
    generalize hv : Ipv4.ofHalves hi lo = v4
    have hdotted := Ipv4.read?_toList v4 (t := []) noDigit_nil
    rw [List.append_nil] at hdotted
    have hlast := readGroups_dotted hdotted 4
    have hback := readGroups_group true 0xFFFF (t := ':' :: v4.toList) (noDigit_cons.mpr rfl)
      (by simp) 6
    rw [hlast] at hback
    have hfront := readGroups_writeGroups
      (t := ':' :: ':' :: (hexadecimal (0xFFFF : UInt16).toNat ++ ':' :: v4.toList))
      (by decide : ([] : List UInt16).length ≤ 8) (stops_colon (noDigit_cons.mpr rfl))
    have htext : "::ffff:".toList ++ v4.toList =
        ':' :: ':' :: (hexadecimal (0xFFFF : UInt16).toNat ++ ':' :: v4.toList) := rfl
    rw [htext]
    rw [← hv, halves_ofHalves, hv] at hback
    exact read?_of_parts hfront (by decide) hback (ofEnds?_of_eq (n := 5) rfl)
  · cases h

/-- Every address is read back from its text. -/
theorem read?_toList (ip : Ipv6) : read? ip.toList = some (ip, []) := by
  rw [toList]
  cases h : ip.mapped? with
  | some v4 => exact read?_mapped h
  | none => exact read?_toShort ip

/-- What begins as no part of an address does is left where it stands. -/
structure Bars (t : List Char) : Prop where
  digit : NoDigit 16 t
  dot : t.head? ≠ some '.'
  colon : t.head? ≠ some ':'

theorem readGroups_append (ht : Bars t) (room : Nat) (first : Bool) (cs : List Char) :
    readGroups room first (cs ++ t) =
      ⟨(readGroups room first cs).values, (readGroups room first cs).dotted,
        (readGroups room first cs).rest ++ t⟩ := by
  induction room generalizing first cs with
  | zero => rfl
  | succ room ih =>
    have hbody : (if first then some (cs ++ t) else expect? ':' (cs ++ t)) =
        (if first then some cs else expect? ':' cs).map (· ++ t) := by
      rw [expect?_append ht.colon]
      split <;> rfl
    rw [readGroups, readGroups, hbody]
    cases (if first then some cs else expect? ':' cs) with
    | none => rfl
    | some body =>
      have hdotted : (if room = 0 then none else Ipv4.read? (body ++ t)) =
          (if room = 0 then none else Ipv4.read? body).map fun r => (r.1, r.2 ++ t) := by
        rw [Ipv4.read?_append (ht.digit.mono (by decide)) ht.dot]
        split <;> rfl
      simp only [Option.map_some, hdotted]
      cases (if room = 0 then none else Ipv4.read? body) with
      | some r => rfl
      | none =>
        rw [readShort?_append body ht.digit]
        cases readShort? 16 65536 4 body with
        | none => rfl
        | some r => simp [ih]

/-- What stands behind an address is no part of it. -/
theorem read?_append (ht : Bars t) (cs : List Char) :
    read? (cs ++ t) = (read? cs).map fun r => (r.1, r.2 ++ t) := by
  have hfront := readGroups_append ht 8 true cs
  by_cases hfull : (readGroups 8 true cs).values.length = 8
  · simp [read?, hfront, hfull]
  · by_cases hdotted : (readGroups 8 true cs).dotted = true
    · simp [read?, hfront, hfull, hdotted]
    · simp [read?, hfront, hfull, hdotted, expect?_append ht.colon, readGroups_append ht,
        Option.bind_map, Option.map_bind]

theorem readGroups_suffix (room : Nat) (first : Bool) (cs : List Char) :
    (readGroups room first cs).rest <:+ cs := by
  induction room generalizing first cs with
  | zero => exact List.suffix_rfl
  | succ room ih =>
    have hbody : ∀ body, (if first then some cs else expect? ':' cs) = some body → body <:+ cs := by
      intro body h
      split at h
      · cases h
        exact List.suffix_rfl
      · rw [eq_of_expect? h]
        exact List.suffix_cons ..
    rw [readGroups]
    split
    · exact List.suffix_rfl
    · next body hb =>
      have hsuffix := hbody body hb
      split
      · next ip rest hd =>
        split at hd
        · cases hd
        · rw [Ipv4.eq_of_read? hd] at hsuffix
          exact (List.suffix_append ..).trans hsuffix
      · split
        · exact List.suffix_rfl
        · next g rest hg => exact (ih ..).trans ((suffix_of_readShort? hg).trans hsuffix)

theorem count_expect? (h : expect? ':' cs = some t) : cs.count ':' = t.count ':' + 1 := by
  rw [eq_of_expect? h, List.count_cons_self]

/-- Groups behind a colon are read as if it were not there. -/
theorem readGroups_colon {room : Nat} (h : (readGroups room false (':' :: cs)).values ≠ []) :
    readGroups room false (':' :: cs) = readGroups room true cs := by
  cases room with
  | zero => exact absurd rfl h
  | succ room =>
    rw [readGroups] at h ⊢
    rw [readGroups]
    simp only [Bool.false_eq_true, if_false, expect?_cons_self, if_true] at h ⊢
    split
    · rfl
    · next hd =>
      cases hg : readShort? 16 65536 4 cs with
      | none => simp [hd, hg] at h
      | some r => rfl

theorem count_readGroups {room : Nat} (h : (readGroups room false cs).values ≠ []) :
    (readGroups room false cs).rest.count ':' < cs.count ':' := by
  cases hc : expect? ':' cs with
  | none => cases room <;> simp [readGroups, hc] at h
  | some body =>
    obtain rfl := eq_of_expect? hc
    rw [readGroups_colon h, List.count_cons_self]
    exact Nat.lt_succ_of_le ((readGroups_suffix room true body).sublist.count_le ':')

/-- Three groups have a colon between them. -/
theorem count_readGroups_first {room : Nat} (h : 3 ≤ (readGroups room true cs).values.length) :
    (readGroups room true cs).rest.count ':' < cs.count ':' := by
  cases room with
  | zero => simp [readGroups] at h
  | succ room =>
    rw [readGroups] at h ⊢
    simp only [if_true] at h ⊢
    split at h
    · simp [Ipv4.halves] at h
    · split at h
      · simp at h
      · next g rest hg =>
        have hmore : (readGroups room false rest).values ≠ [] := by
          intro hnil
          simp [hnil] at h
        exact Nat.lt_of_lt_of_le (count_readGroups hmore)
          ((suffix_of_readShort? hg).sublist.count_le ':')

/-- An address takes a colon from the text. -/
theorem count_read? {ip : Ipv6} (h : read? cs = some (ip, t)) : t.count ':' < cs.count ':' := by
  by_cases hfull : (readGroups 8 true cs).values.length = 8
  · have hrest : (readGroups 8 true cs).rest = t := by
      simp [read?, hfull] at h
      exact h.2
    exact hrest ▸ count_readGroups_first (by omega)
  · by_cases hdotted : (readGroups 8 true cs).dotted = true
    · simp [read?, hfull, hdotted] at h
    · simp [read?, hfull, hdotted, Option.bind_eq_some_iff] at h
      obtain ⟨x, hx, y, hy, -, ht⟩ := h
      have hfront := (readGroups_suffix 8 true cs).sublist.count_le ':'
      have hback := (readGroups_suffix (7 - (readGroups 8 true cs).values.length) true
        y).sublist.count_le ':'
      rw [ht] at hback
      have hfirst := count_expect? hx
      have hsecond := count_expect? hy
      omega

theorem colon_mem_toList (ip : Ipv6) : ':' ∈ ip.toList := by
  have h := count_read? (read?_toList ip)
  exact List.count_pos_iff.mp (by simpa using h)

/-- The address in a whole text, with an optional zone number behind it that is not kept. -/
def zoned? (cs : List Char) : Option Ipv6 :=
  (read? cs).bind fun r => if Socket.skipZone? r.2 = some [] then some r.1 else none

theorem zoned?_toList (ip : Ipv6) : zoned? ip.toList = some ip := by
  simp [zoned?, read?_toList, Socket.skipZone?]

end Ipv6

/-- Every IP address is read back from its text. -/
theorem Ip.ofList?_toList (ip : Ip) : ofList? ip.toList = some ip := by
  cases ip with
  | v4 ip => rw [ofList?, toList, Ipv4.ofList?_toList]
  | v6 ip =>
    have hv4 : Ipv4.ofList? ip.toList = none := by
      cases h : Ipv4.ofList? ip.toList with
      | none => rfl
      | some v4 =>
        have hcolon := ip.colon_mem_toList
        rw [Ipv4.eq_of_ofList? h] at hcolon
        exact absurd hcolon v4.colon_not_mem_toList
    rw [ofList?, toList, hv4, Ipv6.ofList?, ip.read?_toList]
    rfl

end TunnelDial
