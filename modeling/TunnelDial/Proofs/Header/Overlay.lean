import Mathlib.Data.List.Induction
import TunnelDial.Proofs.Header.Values

/-! Overlays as sets of buckets. Every name that is laid over moves buckets, by the gap that it
leaves and by the bucket that comes behind all others; what buckets there are in the end does not
depend on that. So an overlay has the upper buckets, and those lower ones whose names are free; and
to lay two maps over a third is to lay over it the one that they make. -/
namespace TunnelDial
namespace Headers

variable {h base upper top : Headers} {n : HeaderName}

theorem appendTo_of_new {bs : List HeaderBucket} (hn : n ∉ names ⟨bs⟩) (v : Bytes) :
    appendTo n v bs = bs ++ [⟨n, v, []⟩] := by
  induction bs with
  | nil => rfl
  | cons b bs ih =>
    obtain ⟨hb, hbs⟩ := not_or.mp (mt List.mem_cons.mpr hn)
    rw [appendTo, if_neg (Ne.symm hb), ih hbs, List.cons_append]

theorem appendTo_last {bs : List HeaderBucket} (hn : n ∉ names ⟨bs⟩) (v w : Bytes)
    (more : List Bytes) :
    appendTo n w (bs ++ [⟨n, v, more⟩]) = bs ++ [⟨n, v, more ++ [w]⟩] := by
  induction bs with
  | nil => simp [appendTo]
  | cons b bs ih =>
    obtain ⟨hb, hbs⟩ := not_or.mp (mt List.mem_cons.mpr hn)
    rw [List.cons_append, appendTo, if_neg (Ne.symm hb), ih hbs, List.cons_append]

/-- The values of a bucket with a new name become that bucket, behind all others. -/
theorem foldl_append_of_new (hn : n ∉ h.names) (v : Bytes) (more : List Bytes) :
    (v :: more).foldl (fun acc v => acc.append n v) h = ⟨h.buckets ++ [⟨n, v, more⟩]⟩ := by
  induction more using List.reverseRecOn with
  | nil => exact congrArg Headers.mk (appendTo_of_new hn v)
  | append_singleton more w ih =>
    rw [← List.cons_append, List.foldl_append, ih]
    exact congrArg Headers.mk (appendTo_last hn v w more)

theorem not_mem_names_erase (hn : h.names.Nodup) (n : HeaderName) : n ∉ (h.erase n).names := by
  intro hmem
  obtain ⟨b, hb, hname⟩ := List.mem_map.mp hmem
  exact ((mem_erase hn).mp hb).2 hname

/-- Up to their order, the buckets without a name are those that have another one. -/
theorem erase_perm (hn : h.names.Nodup) (n : HeaderName) :
    (h.erase n).buckets.Perm (h.buckets.filter fun b => b.name ≠ n) := by
  have hold : h.buckets.Nodup := hn.of_map _
  have hnew : (h.erase n).buckets.Nodup := (nodup_erase hn n).of_map _
  refine (List.perm_ext_iff_of_nodup hnew (hold.filter _)).mpr fun b => ?_
  rw [mem_erase hn, List.mem_filter, decide_eq_true_iff]

theorem overlayBucket_perm (hn : h.names.Nodup) (b : HeaderBucket) :
    (h.overlayBucket b).buckets.Perm ((h.buckets.filter fun a => a.name ≠ b.name) ++ [b]) := by
  rw [overlayBucket, HeaderBucket.values, foldl_append_of_new (not_mem_names_erase hn b.name)]
  exact (erase_perm hn b.name).append_right [b]

/-- The buckets of `base` whose names `upper` leaves free. -/
def uncovered (base upper : Headers) : List HeaderBucket :=
  base.buckets.filter fun b => b.name ∉ upper.names

theorem mem_uncovered {b : HeaderBucket} :
    b ∈ base.uncovered upper ↔ b ∈ base.buckets ∧ b.name ∉ upper.names := by
  rw [uncovered, List.mem_filter, decide_eq_true_iff]

/-- However the buckets move, the overlay has those of the upper fields and the lower ones that are
left free. -/
theorem overlay_perm (hb : base.names.Nodup) (hu : upper.names.Nodup) :
    (base.overlay upper).buckets.Perm (base.uncovered upper ++ upper.buckets) := by
  obtain ⟨bs⟩ := upper
  rw [overlay]
  dsimp only
  induction bs generalizing base with
  | nil => simp [uncovered, names]
  | cons b bs ih =>
    obtain ⟨hnew, hbs⟩ := List.nodup_cons.mp hu
    -- the bucket that comes now stays: no later one has its name
    have hstay : ([b].filter fun a => a.name ∉ names ⟨bs⟩) = [b] :=
      List.filter_eq_self.mpr fun a ha => by
        rw [List.mem_singleton.mp ha]
        exact decide_eq_true hnew
    have hfree : ((base.buckets.filter fun a => a.name ≠ b.name).filter
        fun a => a.name ∉ names ⟨bs⟩) = base.uncovered ⟨b :: bs⟩ := by
      rw [uncovered, List.filter_filter]
      refine List.filter_congr fun a _ => ?_
      simp [Bool.and_comm]
    have hstep : ((base.overlayBucket b).uncovered ⟨bs⟩).Perm
        (base.uncovered ⟨b :: bs⟩ ++ [b]) := by
      have hperm := (overlayBucket_perm hb b).filter fun a => a.name ∉ names ⟨bs⟩
      rwa [List.filter_append, hstay, hfree] at hperm
    have hrest := (ih (nodup_overlayBucket hb b) hbs).trans (hstep.append_right bs)
    rwa [List.append_assoc, List.singleton_append] at hrest

theorem mem_overlay (hb : base.names.Nodup) (hu : upper.names.Nodup) {b : HeaderBucket} :
    b ∈ (base.overlay upper).buckets ↔
      b ∈ upper.buckets ∨ b ∈ base.buckets ∧ b.name ∉ upper.names := by
  rw [(overlay_perm hb hu).mem_iff, List.mem_append, mem_uncovered, or_comm]

theorem mem_names_overlay (hb : base.names.Nodup) (hu : upper.names.Nodup) (n : HeaderName) :
    n ∈ (base.overlay upper).names ↔ n ∈ base.names ∨ n ∈ upper.names := by
  constructor
  · intro hn
    obtain ⟨b, hmem, rfl⟩ := List.mem_map.mp hn
    rcases (mem_overlay hb hu).mp hmem with hupper | ⟨hbase, _⟩
    · exact .inr (List.mem_map_of_mem hupper)
    · exact .inl (List.mem_map_of_mem hbase)
  · intro hn
    by_cases hover : n ∈ upper.names
    · obtain ⟨b, hmem, rfl⟩ := List.mem_map.mp hover
      exact List.mem_map_of_mem ((mem_overlay hb hu).mpr (.inl hmem))
    · obtain ⟨b, hmem, rfl⟩ := List.mem_map.mp (hn.resolve_right hover)
      exact List.mem_map_of_mem ((mem_overlay hb hu).mpr (.inr ⟨hmem, hover⟩))

/-- What is laid over what makes no difference to the values of a name. -/
theorem valuesOf_overlay_assoc (hb : base.names.Nodup) (hu : upper.names.Nodup)
    (ht : top.names.Nodup) (n : HeaderName) :
    ((base.overlay upper).overlay top).valuesOf n =
      (base.overlay (upper.overlay top)).valuesOf n := by
  rw [valuesOf_overlay (nodup_overlay hb upper) ht, valuesOf_overlay hb hu,
    valuesOf_overlay hb (nodup_overlay hu top), valuesOf_overlay hu ht]
  by_cases htop : n ∈ top.names
  · have hboth : n ∈ (upper.overlay top).names := (mem_names_overlay hu ht n).mpr (.inr htop)
    rw [if_pos htop, if_pos hboth, if_pos htop]
  · have hiff : n ∈ (upper.overlay top).names ↔ n ∈ upper.names := by
      rw [mem_names_overlay hu ht, or_iff_left htop]
    rw [if_neg htop, if_neg htop]
    exact if_congr hiff.symm rfl rfl

/-- The upper of two maps wins, name by name. The overlay has one bucket for a name, and a name if
one of the two has it. Its buckets are those of the upper map and the lower ones whose names are
free, with the values of each in their order, wherever the moves on the way put them. Layers may be
put together in any order: every name has the same values. -/
theorem overlay_upper_wins (hb : base.names.Nodup) (hu : upper.names.Nodup)
    (ht : top.names.Nodup) :
    (base.overlay upper).names.Nodup ∧
    (∀ n, n ∈ (base.overlay upper).names ↔ n ∈ base.names ∨ n ∈ upper.names) ∧
    (base.overlay upper).buckets.Perm
      ((base.buckets.filter fun b => b.name ∉ upper.names) ++ upper.buckets) ∧
    (∀ n ∈ upper.names, (base.overlay upper).valuesOf n = upper.valuesOf n) ∧
    (∀ n, n ∉ upper.names → (base.overlay upper).valuesOf n = base.valuesOf n) ∧
    ∀ n, ((base.overlay upper).overlay top).valuesOf n =
      (base.overlay (upper.overlay top)).valuesOf n :=
  ⟨nodup_overlay hb upper, mem_names_overlay hb hu, overlay_perm hb hu,
    fun n hn => (valuesOf_overlay hb hu n).trans (if_pos hn),
    fun n hn => (valuesOf_overlay hb hu n).trans (if_neg hn),
    valuesOf_overlay_assoc hb hu ht⟩

/-- Fields of three names, the first with two values. -/
def lowest : Headers :=
  ⟨[⟨⟨['a']⟩, [1], [[2]]⟩, ⟨⟨['b']⟩, [3], []⟩, ⟨⟨['c']⟩, [4], []⟩]⟩

/-- Two of these names, and one more between them. -/
def middle : Headers :=
  ⟨[⟨⟨['b']⟩, [5], [[6]]⟩, ⟨⟨['d']⟩, [7], []⟩, ⟨⟨['a']⟩, [8], []⟩]⟩

def highest : Headers := ⟨[⟨⟨['d']⟩, [9], []⟩, ⟨⟨['c']⟩, [10], []⟩]⟩

theorem overlay_upper_wins_moved :
    (lowest.overlay middle).names = [⟨['d']⟩, ⟨['c']⟩, ⟨['b']⟩, ⟨['a']⟩] ∧
      (lowest.overlay middle).valuesOf ⟨['b']⟩ = [[5], [6]] ∧
      (lowest.overlay middle).valuesOf ⟨['c']⟩ = [[4]] ∧
      ((lowest.overlay middle).overlay highest).valuesOf ⟨['d']⟩ =
        (lowest.overlay (middle.overlay highest)).valuesOf ⟨['d']⟩ := by
  have hlowest : lowest.names.Nodup := by decide
  have hmiddle : middle.names.Nodup := by decide
  have hhighest : highest.names.Nodup := by decide
  obtain ⟨_, _, _, hupper, hlower, hassoc⟩ := overlay_upper_wins hlowest hmiddle hhighest
  exact ⟨by decide, hupper _ (by decide), hlower _ (by decide), hassoc _⟩

end Headers
end TunnelDial
