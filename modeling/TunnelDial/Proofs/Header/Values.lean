import Mathlib.Data.List.Nodup
import Mathlib.Data.List.Perm.Basic
import TunnelDial.Proofs.Header.Valid

/-! The values of each name in header fields that are made of others. A map of fields has one bucket
for a name; then an overlay has, for every name, the values of the upper fields if they have the
name, and else those of the lower ones. -/
namespace TunnelDial
namespace Headers

variable {h base upper : Headers} {n m : HeaderName} {v : Bytes}

@[simp] theorem valuesOf_nil (n : HeaderName) : valuesOf ⟨[]⟩ n = [] := rfl

theorem valuesOf_cons (b : HeaderBucket) (bs : List HeaderBucket) (n : HeaderName) :
    valuesOf ⟨b :: bs⟩ n = if b.name = n then b.values else valuesOf ⟨bs⟩ n := by
  by_cases hb : b.name = n <;> simp [valuesOf, hb]

@[simp] theorem names_cons (b : HeaderBucket) (bs : List HeaderBucket) :
    names ⟨b :: bs⟩ = b.name :: names ⟨bs⟩ := rfl

theorem valuesOf_eq_nil (hn : n ∉ h.names) : h.valuesOf n = [] := by
  obtain ⟨bs⟩ := h
  induction bs with
  | nil => rfl
  | cons b bs ih =>
    obtain ⟨hb, hbs⟩ := not_or.mp (mt List.mem_cons.mpr hn)
    rw [valuesOf_cons, if_neg (Ne.symm hb), ih hbs]

/-- Where names are distinct, a bucket has the values of its name. -/
theorem valuesOf_of_mem (hn : h.names.Nodup) {b : HeaderBucket} (hb : b ∈ h.buckets) :
    h.valuesOf b.name = b.values := by
  obtain ⟨bs⟩ := h
  induction bs with
  | nil => cases hb
  | cons a bs ih =>
    obtain ⟨ha, hbs⟩ := List.nodup_cons.mp hn
    rw [valuesOf_cons]
    rcases List.mem_cons.mp hb with rfl | hb
    · rw [if_pos rfl]
    · have hne : a.name ≠ b.name := fun he => ha (List.mem_map.mpr ⟨b, hb, he.symm⟩)
      rw [if_neg hne]
      exact ih hbs hb

/-- The fields of a name, among all fields in their order, have the values of the name. -/
theorem map_snd_filter_toList (hn : h.names.Nodup) (n : HeaderName) :
    (h.toList.filter fun f => f.1 = n).map Prod.snd = h.valuesOf n := by
  obtain ⟨bs⟩ := h
  induction bs with
  | nil => rfl
  | cons b bs ih =>
    obtain ⟨hb, hbs⟩ := List.nodup_cons.mp hn
    have hsplit : toList ⟨b :: bs⟩ = b.values.map (fun v => (b.name, v)) ++ toList ⟨bs⟩ := rfl
    rw [hsplit, List.filter_append, List.map_append, ih hbs, valuesOf_cons, List.filter_map]
    by_cases hbn : b.name = n
    · have hrest : valuesOf ⟨bs⟩ n = [] := valuesOf_eq_nil (hbn ▸ hb)
      simp [hbn, hrest, Function.comp_def]
    · simp [hbn, Function.comp_def]

theorem names_append (h : Headers) (n : HeaderName) (v : Bytes) :
    (h.append n v).names = if n ∈ h.names then h.names else h.names ++ [n] := by
  obtain ⟨bs⟩ := h
  rw [append]
  induction bs with
  | nil => rfl
  | cons b bs ih =>
    rw [appendTo]
    by_cases hb : b.name = n
    · rw [if_pos hb, names_cons, if_pos (by simp [hb])]
      rfl
    · rw [if_neg hb, names_cons, ih, names_cons]
      by_cases hn : n ∈ names ⟨bs⟩
      · rw [if_pos hn, if_pos (List.mem_cons_of_mem _ hn)]
      · rw [if_neg hn, if_neg (by simpa [Ne.symm hb] using hn)]
        rfl

theorem nodup_append (hn : h.names.Nodup) (n : HeaderName) (v : Bytes) :
    (h.append n v).names.Nodup := by
  rw [names_append]
  split
  · exact hn
  · rename_i hnew
    exact List.nodup_append.mpr ⟨hn, List.nodup_singleton n, fun a ha b hb he =>
      hnew (List.mem_singleton.mp hb ▸ he ▸ ha)⟩

theorem valuesOf_append (h : Headers) (n : HeaderName) (v : Bytes) (m : HeaderName) :
    (h.append n v).valuesOf m = if m = n then h.valuesOf n ++ [v] else h.valuesOf m := by
  obtain ⟨bs⟩ := h
  rw [append]
  induction bs with
  | nil =>
    rw [appendTo, valuesOf_cons]
    by_cases hm : m = n
    · rw [if_pos hm, if_pos hm.symm]
      rfl
    · rw [if_neg hm, if_neg (Ne.symm hm)]
  | cons b bs ih =>
    rw [appendTo]
    by_cases hb : b.name = n
    · rw [if_pos hb, valuesOf_cons, valuesOf_cons, valuesOf_cons, if_pos hb]
      by_cases hm : m = n
      · rw [if_pos hm, if_pos (hb.trans hm.symm)]
        rfl
      · have hbm : b.name ≠ m := fun he => hm (he ▸ hb)
        rw [if_neg hm, if_neg hbm, if_neg hbm]
    · rw [if_neg hb, valuesOf_cons, ih, valuesOf_cons, valuesOf_cons, if_neg hb]
      by_cases hm : m = n
      · rw [if_pos hm, if_neg (hm ▸ hb), if_pos hm]
      · rw [if_neg hm, if_neg hm]

/-- Several values under one name, in their order. -/
theorem valuesOf_foldl_append (vs : List Bytes) (h : Headers) (n m : HeaderName) :
    (vs.foldl (fun acc v => acc.append n v) h).valuesOf m =
      if m = n then h.valuesOf n ++ vs else h.valuesOf m := by
  induction vs generalizing h with
  | nil =>
    by_cases hm : m = n
    · rw [if_pos hm, hm]
      exact (List.append_nil _).symm
    · rw [if_neg hm]
      rfl
  | cons v vs ih =>
    rw [List.foldl_cons, ih, valuesOf_append, valuesOf_append, if_pos rfl, List.append_assoc,
      List.singleton_append]
    by_cases hm : m = n
    · rw [if_pos hm, if_pos hm]
    · rw [if_neg hm, if_neg hm, if_neg hm]

theorem nodup_foldl_append (vs : List Bytes) (hn : h.names.Nodup) (n : HeaderName) :
    (vs.foldl (fun acc v => acc.append n v) h).names.Nodup :=
  List.foldlRecOn (motive := fun h : Headers => h.names.Nodup) vs _ hn
    fun _ hacc v _ => nodup_append hacc n v

/-- Fields that a caller gives have one bucket for each name. -/
theorem nodup_ofPairs {fields : List (Bytes × Bytes)} (he : ofPairs fields = .ok h) :
    h.names.Nodup :=
  ofPairs_rec (P := fun h => h.names.Nodup) List.nodup_nil (fun _ n v hn _ _ => nodup_append hn n v)
    he

theorem names_set (h : Headers) (n : HeaderName) (v : Bytes) :
    (h.set n v).names = (h.append n v).names := by
  obtain ⟨bs⟩ := h
  rw [set, append]
  induction bs with
  | nil => rfl
  | cons b bs ih =>
    rw [setIn, appendTo]
    by_cases hb : b.name = n
    · rw [if_pos hb, if_pos hb, names_cons, names_cons, hb]
    · rw [if_neg hb, if_neg hb, names_cons, names_cons, ih]

theorem nodup_set (hn : h.names.Nodup) (n : HeaderName) (v : Bytes) :
    (h.set n v).names.Nodup := names_set h n v ▸ nodup_append hn n v

theorem valuesOf_set (h : Headers) (n : HeaderName) (v : Bytes) (m : HeaderName) :
    (h.set n v).valuesOf m = if m = n then [v] else h.valuesOf m := by
  obtain ⟨bs⟩ := h
  rw [set]
  induction bs with
  | nil =>
    rw [setIn, valuesOf_cons]
    by_cases hm : m = n
    · rw [if_pos hm, if_pos hm.symm]
      rfl
    · rw [if_neg hm, if_neg (Ne.symm hm)]
  | cons b bs ih =>
    rw [setIn]
    by_cases hb : b.name = n
    · rw [if_pos hb, valuesOf_cons, valuesOf_cons, hb]
      by_cases hm : m = n
      · rw [if_pos hm.symm, if_pos hm]
        rfl
      · rw [if_neg (Ne.symm hm), if_neg hm, if_neg (Ne.symm hm)]
    · rw [if_neg hb, valuesOf_cons, valuesOf_cons, ih]
      by_cases hm : m = n
      · rw [if_pos hm, if_neg (hm ▸ hb), if_pos hm]
      · rw [if_neg hm, if_neg hm]

/-- Taking an element out this way changes the order of the others at most. -/
theorem swapRemove_perm {α : Type} (p : α → Bool) (xs : List α) :
    (swapRemove p xs).Perm (xs.eraseP p) := by
  induction xs with
  | nil => exact .refl _
  | cons x xs ih =>
    rw [swapRemove, List.eraseP_cons]
    cases hx : p x with
    | false => exact ih.cons x
    | true =>
      cases hl : xs.getLast? with
      | none =>
        rw [List.getLast?_eq_none_iff.mp hl]
        exact .refl _
      | some l =>
        have hxs : xs.dropLast ++ [l] = xs := List.dropLast_append_getLast? l hl
        simp only [if_true, cond_true]
        calc (l :: xs.dropLast).Perm (xs.dropLast ++ [l]) := (List.perm_append_singleton l _).symm
          _ = xs := hxs

theorem mem_erase (hn : h.names.Nodup) {b : HeaderBucket} :
    b ∈ (h.erase n).buckets ↔ b ∈ h.buckets ∧ b.name ≠ n := by
  have hp : ∀ a, decide (HeaderBucket.name a = n) = true ↔ a.name = n := fun a => decide_eq_true_iff
  rw [erase, (swapRemove_perm _ _).mem_iff]
  constructor
  · intro hb
    refine ⟨List.mem_of_mem_eraseP hb, ?_⟩
    rintro rfl
    obtain ⟨bs⟩ := h
    induction bs with
    | nil => cases hb
    | cons a bs ih =>
      obtain ⟨ha, hbs⟩ := List.nodup_cons.mp hn
      rw [List.eraseP_cons] at hb
      by_cases hab : a.name = b.name
      · rw [(hp a).mpr hab] at hb
        exact ha (List.mem_map.mpr ⟨b, hb, hab.symm⟩)
      · rw [decide_eq_false hab] at hb
        rcases List.mem_cons.mp hb with rfl | hb
        · exact hab rfl
        · exact ih hbs hb
  · rintro ⟨hb, hne⟩
    exact (List.mem_eraseP_of_neg (by simpa using hne)).mpr hb

theorem nodup_erase (hn : h.names.Nodup) (n : HeaderName) : (h.erase n).names.Nodup := by
  have hperm : (h.erase n).names.Perm ((h.buckets.eraseP (·.name = n)).map (·.name)) :=
    (swapRemove_perm _ _).map _
  exact hperm.nodup_iff.mpr (hn.sublist ((List.eraseP_sublist).map _))

theorem valuesOf_erase (hn : h.names.Nodup) (n m : HeaderName) :
    (h.erase n).valuesOf m = if m = n then [] else h.valuesOf m := by
  by_cases hm : m ∈ (h.erase n).names
  · obtain ⟨b, hb, rfl⟩ := List.mem_map.mp hm
    obtain ⟨hold, hne⟩ := (mem_erase hn).mp hb
    rw [if_neg hne, valuesOf_of_mem (nodup_erase hn n) hb, valuesOf_of_mem hn hold]
  · rw [valuesOf_eq_nil hm]
    split
    · rfl
    · rename_i hne
      refine (valuesOf_eq_nil fun hold => hm ?_).symm
      obtain ⟨b, hb, rfl⟩ := List.mem_map.mp hold
      exact List.mem_map_of_mem ((mem_erase hn).mpr ⟨hb, hne⟩)

theorem valuesOf_overlayBucket (hn : h.names.Nodup) (b : HeaderBucket) (m : HeaderName) :
    (h.overlayBucket b).valuesOf m = if m = b.name then b.values else h.valuesOf m := by
  rw [overlayBucket, valuesOf_foldl_append, valuesOf_erase hn, valuesOf_erase hn, if_pos rfl,
    List.nil_append]
  by_cases hm : m = b.name
  · rw [if_pos hm, if_pos hm]
  · rw [if_neg hm, if_neg hm, if_neg hm]

theorem nodup_overlayBucket (hn : h.names.Nodup) (b : HeaderBucket) :
    (h.overlayBucket b).names.Nodup := nodup_foldl_append b.values (nodup_erase hn b.name) b.name

theorem nodup_overlay (hb : base.names.Nodup) (upper : Headers) :
    (base.overlay upper).names.Nodup :=
  List.foldlRecOn (motive := fun h : Headers => h.names.Nodup) upper.buckets _ hb
    fun _ hacc b _ => nodup_overlayBucket hacc b

/-- The upper fields hide those of the same names, and no others. -/
theorem valuesOf_overlay (hb : base.names.Nodup) (hu : upper.names.Nodup) (m : HeaderName) :
    (base.overlay upper).valuesOf m =
      if m ∈ upper.names then upper.valuesOf m else base.valuesOf m := by
  obtain ⟨bs⟩ := upper
  rw [overlay]
  dsimp only
  induction bs generalizing base with
  | nil => exact (if_neg List.not_mem_nil).symm
  | cons b bs ih =>
    obtain ⟨hnew, hbs⟩ := List.nodup_cons.mp hu
    rw [List.foldl_cons, ih (nodup_overlayBucket hb b) hbs, valuesOf_overlayBucket hb,
      valuesOf_cons, names_cons]
    by_cases hm : m = b.name
    · have hnot : m ∉ names ⟨bs⟩ := hm ▸ hnew
      rw [if_neg hnot, if_pos hm, if_pos (by simp [hm]), if_pos hm.symm]
    · by_cases hmem : m ∈ names ⟨bs⟩
      · rw [if_pos hmem, if_pos (List.mem_cons_of_mem _ hmem), if_neg (Ne.symm hm)]
      · rw [if_neg hmem, if_neg hm, if_neg (by simpa [hm] using hmem)]

end Headers

theorem Proxy.nodup_requestHeaders (p : Proxy) {extra : Headers} (he : extra.names.Nodup) :
    (p.requestHeaders extra).names.Nodup := by
  unfold requestHeaders
  split
  · exact Headers.nodup_set he _ _
  · exact he

/-- The credentials of a proxy take the place of any other authorization. -/
theorem Proxy.valuesOf_requestHeaders (p : Proxy) (extra : Headers) (n : HeaderName) :
    (p.requestHeaders extra).valuesOf n =
      match p.credentials with
      | some c =>
        if n = .proxyAuthorization then [Bytes.ofText c.basic] else extra.valuesOf n
      | none => extra.valuesOf n := by
  unfold requestHeaders
  cases p.credentials with
  | some c => exact Headers.valuesOf_set ..
  | none => rfl

end TunnelDial
