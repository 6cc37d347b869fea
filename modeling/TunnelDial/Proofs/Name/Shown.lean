import Mathlib.Data.List.InsertIdx
import TunnelDial.Name.International
import TunnelDial.Proofs.Text.Blank

/-! The ASCII form of a name shows itself: it is ASCII, and has no character that a domain name may
not hold, whether it was made of small letters or of packed labels. -/
namespace TunnelDial

namespace Punycode

variable {c : Char}

/-- Unpacking adds only characters beyond ASCII. -/
theorem mem_insertAll {bias n i : Nat} {out input label : List Char} (hn : 128 ≤ n)
    (h : insertAll bias n i out input = some label) (hc : c ∈ label) :
    c ∈ out ∨ 128 ≤ c.toNat := by
  induction bias, n, i, out, input using insertAll.induct with
  | case1 bias n i out =>
    rw [insertAll] at h
    cases h
    exact .inl hc
  | case2 bias n i out x rest hnone =>
    rw [insertAll, hnone] at h
    cases h
  | case3 bias n i out x rest j more hnumber points code hcode ih =>
    rw [insertAll, hnumber] at h
    have hplaced : (Char.ofNat code).toNat = code := by
      rw [Char.ofNat, dif_pos hcode]
      rfl
    have hle : 128 ≤ code := Nat.le_add_right_of_le hn
    rcases ih hle ((if_pos hcode).symm.trans h) with hmem | hbig
    · rcases List.eq_or_mem_of_mem_insertIdx hmem with rfl | hmem
      · exact .inr (hplaced.symm ▸ hle)
      · exact .inl hmem
    · exact .inr hbig
  | case4 bias n i out x rest j more hnumber points code hcode =>
    rw [insertAll, hnumber] at h
    cases (if_neg hcode).symm.trans h

theorem mem_decode? {input label : List Char} (h : decode? input = some label) (hc : c ∈ label) :
    c ∈ input ∨ 128 ≤ c.toNat := by
  rw [decode?] at h
  split at h
  · rcases mem_insertAll (Nat.le_refl 128) h hc with hmem | hbig
    · cases hmem
    · exact .inr hbig
  · rcases mem_insertAll (Nat.le_refl 128) h hc with hmem | hbig
    · exact .inl (List.mem_of_mem_take (List.dropLast_subset _ hmem))
    · exact .inr hbig

/-- A symbol of the written differences. -/
def IsSymbol (c : Char) : Prop := ∃ d < 36, c = symbol d

theorem isSymbol_of_mem_digits {bias k q : Nat} (hc : c ∈ digits bias k q) : IsSymbol c := by
  induction k, q using digits.induct bias with
  | case1 k q t hq =>
    rw [digits, if_pos hq, List.mem_singleton] at hc
    have hle : t ≤ 26 := threshold_le k bias
    exact ⟨q, by omega, hc⟩
  | case2 k q t hq ih =>
    rw [digits, if_neg hq, List.mem_cons] at hc
    have hle : t ≤ 26 := threshold_le k bias
    have hmod : (q - t) % (36 - t) < 36 - t := Nat.mod_lt _ (by omega)
    rcases hc with rfl | hc
    · exact ⟨t + (q - t) % (36 - t), by omega, rfl⟩
    · exact ih hc

namespace Writer

theorem mem_visit {basic m : Nat} {w : Writer} {x : Char} (hc : c ∈ (w.visit basic m x).out) :
    c ∈ w.out ∨ IsSymbol c := by
  unfold visit at hc
  split at hc
  · exact .inl hc
  · split at hc
    · exact (List.mem_append.mp hc).imp id isSymbol_of_mem_digits
    · exact .inl hc

theorem mem_foldl_visit {basic m : Nat} {w : Writer} {input : List Char}
    (hc : c ∈ (input.foldl (visit basic m) w).out) : c ∈ w.out ∨ IsSymbol c := by
  induction input generalizing w with
  | nil => exact .inl hc
  | cons x input ih => exact (ih hc).elim mem_visit .inr

theorem mem_place {input : List Char} {basic : Nat} {codes : List Nat} {next : Nat} {w : Writer}
    (hc : c ∈ (place input basic codes next w).out) : c ∈ w.out ∨ IsSymbol c := by
  induction codes generalizing next w with
  | nil => exact .inl hc
  | cons m codes ih => exact (ih hc).elim mem_foldl_visit .inr

end Writer

/-- A packed label has the ASCII characters of the label, a hyphen and symbols. -/
theorem mem_encode {label : List Char} (hc : c ∈ encode label) :
    c ∈ label ∧ c.toNat < 128 ∨ c = '-' ∨ IsSymbol c := by
  rw [encode] at hc
  simp only [List.mem_append] at hc
  rcases hc with (hc | hc) | hc
  · obtain ⟨hmem, hlt⟩ := List.mem_filter.mp hc
    exact .inl ⟨hmem, of_decide_eq_true hlt⟩
  · split at hc
    · cases hc
    · exact .inr (.inl (List.mem_singleton.mp hc))
  · rcases Writer.mem_place hc with hnone | hsymbol
    · cases hnone
    · exact .inr (.inr hsymbol)

end Punycode

namespace DomainName

open Text

variable {c : Char} {cs name label : List Char}

/-- An ASCII character that a domain name may hold. -/
def Shown (c : Char) : Prop := c.toNat < 128 ∧ isForbidden c = false

theorem Shown.of_symbol (h : Punycode.IsSymbol c) : Shown c := by
  have hall : ∀ d < 36, (Punycode.symbol d).toNat < 128 ∧
      isForbidden (Punycode.symbol d) = false := by decide
  obtain ⟨d, hd, rfl⟩ := h
  exact hall d hd

theorem mem_labels (hl : label ∈ labels cs) (hc : c ∈ label) : c ∈ cs := by
  induction cs generalizing label with
  | nil =>
    rw [labels, List.mem_singleton] at hl
    rw [hl] at hc
    exact hc
  | cons x cs ih =>
    rw [labels] at hl
    split at hl
    · rcases List.mem_cons.mp hl with rfl | hl
      · cases hc
      · exact List.mem_cons_of_mem x (ih hl hc)
    · split at hl
      · next first more hlabels =>
        rcases List.mem_cons.mp hl with rfl | hl
        · rcases List.mem_cons.mp hc with rfl | hc
          · exact List.mem_cons_self
          · exact List.mem_cons_of_mem x (ih (by rw [hlabels]; exact List.mem_cons_self) hc)
        · exact List.mem_cons_of_mem x (ih (by rw [hlabels]; exact List.mem_cons_of_mem _ hl) hc)
      · next hnone => exact absurd hnone (labels_ne_nil cs)

theorem mem_joinLabels {ls : List (List Char)} (hc : c ∈ joinLabels ls) :
    c = '.' ∨ ∃ l ∈ ls, c ∈ l := by
  rw [joinLabels] at hc
  induction ls with
  | nil => cases hc
  | cons l ls ih =>
    cases ls with
    | nil =>
      rw [List.intercalate_singleton] at hc
      exact .inr ⟨l, List.mem_singleton_self l, hc⟩
    | cons l' ls =>
      rw [List.intercalate_cons_cons, List.mem_append, List.mem_append, List.mem_singleton] at hc
      rcases hc with (hc | hc) | hc
      · exact .inr ⟨l, List.mem_cons_self, hc⟩
      · exact .inl hc
      · rcases ih hc with h | ⟨k, hk, hck⟩
        · exact .inl h
        · exact .inr ⟨k, List.mem_cons_of_mem l hk, hck⟩

theorem mem_unpack? {ready : List Char} (h : unpack? ready = some label) (hc : c ∈ label) :
    c ∈ ready ∨ 128 ≤ c.toNat := by
  unfold unpack? at h
  split at h
  · dsimp only at h
    split at h
    · split at h
      · next u hu =>
        split at h
        · cases h
          exact (Punycode.mem_decode? hu hc).imp List.mem_of_mem_drop id
        · cases h
      · cases h
    · cases h
  · split at h
    · cases h
      exact .inl hc
    · cases h

theorem shown_pack (hlabel : ∀ c ∈ label, c.toNat < 128 → isForbidden c = false)
    (hc : c ∈ pack label) : Shown c := by
  unfold pack at hc
  split at hc
  · next hall =>
    have hlt : c.toNat < 128 := by simpa [isAscii] using List.all_eq_true.mp hall c hc
    exact ⟨hlt, hlabel c hc hlt⟩
  · rcases List.mem_append.mp hc with hc | hc
    · exact of_all (P := fun c => c.toNat < 128 ∧ isForbidden c = false) (by decide) hc
    · rcases Punycode.mem_encode hc with ⟨hmem, hlt⟩ | rfl | hsymbol
      · exact ⟨hlt, hlabel c hmem hlt⟩
      · exact ⟨by decide, by decide⟩
      · exact .of_symbol hsymbol

theorem asciiOf?_eq_some (h : asciiOf? cs = some name) :
    ∃ ready ls, prepare? cs = some ready ∧ ready.any isForbidden = false ∧
      (labels ready).mapM unpack? = some ls ∧ name = joinLabels (ls.map pack) := by
  simp only [asciiOf?, Option.bind_eq_bind, Option.bind_eq_some_iff] at h
  obtain ⟨ready, hready, h⟩ := h
  by_cases hforbidden : ready.any isForbidden = true
  · rw [if_pos hforbidden] at h
    cases h
  rw [if_neg hforbidden] at h
  obtain ⟨ls, hls, h⟩ := Option.bind_eq_some_iff.mp h
  by_cases hsuit : suit ls = true
  · rw [if_pos hsuit] at h
    cases h
    exact ⟨ready, ls, hready, by simpa using hforbidden, hls, rfl⟩
  · rw [if_neg hsuit] at h
    cases h

theorem exists_of_mem_mapM {xs ys : List (List Char)} {f : List Char → Option (List Char)}
    (h : xs.mapM f = some ys) {y : List Char} (hy : y ∈ ys) : ∃ x ∈ xs, f x = some y := by
  induction xs generalizing ys with
  | nil =>
    cases h
    cases hy
  | cons x xs ih =>
    rw [List.mapM_cons] at h
    obtain ⟨z, hz, h⟩ := Option.bind_eq_some_iff.mp h
    obtain ⟨zs, hzs, h⟩ := Option.bind_eq_some_iff.mp h
    cases h
    rcases List.mem_cons.mp hy with rfl | hy
    · exact ⟨x, List.mem_cons_self, hz⟩
    · obtain ⟨x', hx', hfx⟩ := ih hzs hy
      exact ⟨x', List.mem_cons_of_mem x hx', hfx⟩

theorem toSmall_lt (hc : c.toNat < 128) : (toSmall c).toNat < 128 :=
  of_forall_ascii (P := fun c => (toSmall c).toNat < 128) (by decide) hc

/-- The ASCII form of a name shows itself. -/
theorem shown_toAscii? {bs : Bytes} (h : toAscii? bs = some name) : ∀ c ∈ name, Shown c := by
  unfold toAscii? at h
  split at h
  · cases h
  next cs hdecode =>
  split at h
  · next hplain =>
    dsimp only at h
    split at h
    · cases h
    next hforbidden =>
    cases h
    intro c hc
    have hascii := List.all_eq_true.mp (Bool.and_eq_true_iff.mp hplain).1
    have hallowed : isForbidden c = false := by
      simpa using List.any_eq_false.mp (eq_false_of_ne_true hforbidden) c hc
    obtain ⟨x, hx, rfl⟩ := List.mem_map.mp hc
    exact ⟨toSmall_lt (of_decide_eq_true (hascii x hx)), hallowed⟩
  · obtain ⟨ready, ls, -, hforbidden, hls, rfl⟩ := asciiOf?_eq_some h
    intro c hc
    rcases mem_joinLabels hc with rfl | ⟨l, hl, hcl⟩
    · exact ⟨by decide, by decide⟩
    · obtain ⟨u, hu, rfl⟩ := List.mem_map.mp hl
      obtain ⟨label, hlabel, hunpack⟩ := exists_of_mem_mapM hls hu
      refine shown_pack (fun x hx hlt => ?_) hcl
      rcases mem_unpack? hunpack hx with hmem | hbig
      · simpa using List.any_eq_false.mp hforbidden x (mem_labels hlabel hmem)
      · omega

end DomainName

end TunnelDial
