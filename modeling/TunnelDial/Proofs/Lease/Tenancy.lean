import Mathlib.Data.List.Induction
import TunnelDial.Proofs.Lease.Ledger
import TunnelDial.Tunnel.Tenancy

/-! Leases in the hands of callers, in every run: the ledger counts the slot, the leases of callers
and those in tunnels, so the transport of a group is closed by the event that lets the last of them
go, and by no other. What is looked up is what is kept, what leaves the slot is what was named, and
nobody closes a transport that another one holds. -/
namespace TunnelDial

namespace Tenancy

variable {c c' : Tenancy} {g : Nat}

/-- How many leases of a group there are: in the slot, with callers, and in tunnels. -/
def holdersOf (c : Tenancy) (g : Nat) : Nat :=
  c.pool.slot.toList.count g + c.leases.count g
    + c.tunnels.countP fun x => x.mux.lease == some g

/-- The ledger counts every lease, and is tidy. -/
structure Accounted (c : Tenancy) : Prop where
  tidy : c.ledger.Tidy
  holders_eq : ∀ g, c.ledger.holders g = c.holdersOf g

/-- What an event does to the ledger and who gains by it. -/
structure Fair (c c' : Tenancy) : Prop where
  change : c.ledger.Change (fun g => 0 < c.holdersOf g) c'.ledger
  balance : ∀ g, c'.ledger.holders g + c.holdersOf g = c.ledger.holders g + c'.holdersOf g

theorem accounted_start : start.Accounted := ⟨Ledger.tidy_empty, fun _ => rfl⟩

theorem Fair.refl (c : Tenancy) : Fair c c := ⟨.none, fun _ => rfl⟩

theorem holdersOf_pos_of_slot (hs : c.pool.slot = some g) : 0 < c.holdersOf g := by
  have h1 : (some g).toList.count g = 1 := List.count_singleton_self
  rw [holdersOf, hs, h1]
  omega

theorem holdersOf_pos_of_lease (hg : g ∈ c.leases) : 0 < c.holdersOf g := by
  have h1 := List.count_pos_iff.mpr hg
  rw [holdersOf]
  omega

theorem holdersOf_pos_of_tunnel {x : HeldTunnel} (hx : x ∈ c.tunnels)
    (hg : x.mux.lease = some g) : 0 < c.holdersOf g := by
  have h1 : 0 < c.tunnels.countP (fun x => x.mux.lease == some g) :=
    List.countP_pos_iff.mpr ⟨x, hx, by simp [hg]⟩
  rw [holdersOf]
  omega

theorem holdersOf_pos_of_reaches (hg : c.reaches g = true) : 0 < c.holdersOf g := by
  simp only [reaches, Bool.or_eq_true, List.contains_iff_mem, List.any_eq_true, beq_iff_eq] at hg
  rcases hg with hg | ⟨x, hx, hg⟩
  · exact holdersOf_pos_of_lease hg
  · exact holdersOf_pos_of_tunnel hx hg

theorem fair_issue (t : Nat) : Fair c (c.step (.issue t)) := by
  refine ⟨.started t, fun g => ?_⟩
  have h1 := Ledger.holders_issue c.pool.ledger t g
  have h2 : (c.pool.ledger.groups.length :: c.leases).count g =
      c.leases.count g + if c.pool.ledger.groups.length = g then 1 else 0 := by
    simp only [List.count_cons, beq_iff_eq]
  simp only [step, Pool.issue, Ledger.issue_number, holdersOf, ledger, h2]
  omega

theorem fair_wrap (g : Nat) : Fair c (c.step (.wrap g)) := by
  simp only [step]
  split
  · rename_i hg
    have hmem : g ∈ c.leases := by simpa using hg
    refine ⟨.none, fun g' => ?_⟩
    have h2 := count_erase_add hmem g'
    simp only [holdersOf, ledger, List.countP_append, List.countP_singleton, MuxTunnel.ofLease,
      beq_iff_eq, Option.some.injEq]
    omega
  · exact .refl c

namespace Accounted

variable (ha : c.Accounted)

include ha

theorem pos (hg : 0 < c.holdersOf g) : 0 < c.ledger.holders g := by
  rw [ha.holders_eq]
  exact hg

theorem fair (hf : Fair c c') : c'.Accounted where
  tidy := ha.tidy.change (fun _ => ha.pos) hf.change
  holders_eq g := by
    have h1 := hf.balance g
    have h2 := ha.holders_eq g
    omega

/-- One more lease of a group comes into the hands of a caller. -/
theorem fair_retain (hg : 0 < c.holdersOf g) :
    Fair c { c with pool := c.pool.retain g, leases := g :: c.leases } := by
  refine ⟨.taken hg, fun g' => ?_⟩
  have h1 := Ledger.holders_retain (ha.pos hg) g'
  simp only [holdersOf, ledger, Pool.retain, List.count_cons, beq_iff_eq] at h1 ⊢
  omega

theorem fair_giveBack (g : Nat) : Fair c (c.step (.giveBack g)) := by
  simp only [step]
  split
  · rename_i hg
    have hmem : g ∈ c.leases := by simpa using hg
    have hpos := holdersOf_pos_of_lease hmem
    refine ⟨.returned hpos, fun g' => ?_⟩
    have h1 := Ledger.holders_release (ha.pos hpos) g'
    have h2 := count_erase_add hmem g'
    simp only [holdersOf, ledger, Pool.release] at h1 ⊢
    omega
  · exact .refl c

theorem fair_clear : Fair c { c with pool := c.pool.clear } := by
  unfold Pool.clear
  cases hs : c.pool.slot with
  | none => exact ⟨.none, fun _ => rfl⟩
  | some g =>
    have hpos := holdersOf_pos_of_slot hs
    refine ⟨.returned hpos, fun g' => ?_⟩
    have h1 := Ledger.holders_release (ha.pos hpos) g'
    simp only [holdersOf, ledger, Pool.release, Pool.vacate, hs, Option.toList_some,
      Option.toList_none, List.count_cons, List.count_nil, beq_iff_eq] at h1 ⊢
    omega

theorem fair_install (g : Nat) : Fair c (c.step (.install g)) := by
  simp only [step]
  split
  · rename_i hg
    have hmem : g ∈ c.leases := by simpa using hg
    unfold Pool.install
    cases hs : c.pool.slot with
    | none =>
      refine ⟨.none, fun g' => ?_⟩
      have h2 := count_erase_add hmem g'
      simp only [holdersOf, ledger, Pool.fill, hs, Option.toList_some, Option.toList_none,
        List.count_cons, List.count_nil, beq_iff_eq]
      omega
    | some old =>
      have hpos := holdersOf_pos_of_slot hs
      refine ⟨.returned hpos, fun g' => ?_⟩
      have h1 := Ledger.holders_release (ha.pos hpos) g'
      have h2 := count_erase_add hmem g'
      simp only [holdersOf, ledger, Pool.fill, Pool.release, hs, Option.toList_some,
        List.count_cons, List.count_nil, beq_iff_eq] at h1 ⊢
      omega
  · exact .refl c

theorem fair_lookup (accepts : Nat → Bool) : Fair c (c.step (.lookup accepts)) := by
  simp only [step, Pool.lookup]
  cases hs : c.pool.slot with
  | none => exact .refl c
  | some g =>
    by_cases hu : c.pool.usable accepts g = true
    · have hf := ha.fair_retain (holdersOf_pos_of_slot hs)
      simp only [Pool.retain, hs] at hf
      simp only [hu, if_true]
      exact hf
    · simp only [hu, if_false, Bool.false_eq_true]
      exact .refl c

/-- A tunnel closes, and lets its lease go if it has one. -/
theorem fair_close {t : Nat} {x : HeldTunnel} (hx : c.tunnels[t]? = some x) :
    Fair c (c.put t (x.mux.close x.channel c.pool).1 (x.mux.close x.channel c.pool).2.1
      (x.mux.close x.channel c.pool).2.2) := by
  unfold MuxTunnel.close
  cases hg : x.mux.lease with
  | none =>
    refine ⟨.none, fun g' => ?_⟩
    have h1 := countP_set hx ⟨⟨none, true, true⟩, (x.mux.closeWrite x.channel).2⟩
      fun y => y.mux.lease == some g'
    simp only [hg] at h1
    simp only [put, holdersOf, ledger]
    omega
  | some g =>
    have hpos := holdersOf_pos_of_tunnel (List.mem_of_getElem? hx) hg
    refine ⟨.returned hpos, fun g' => ?_⟩
    have h1 := Ledger.holders_release (ha.pos hpos) g'
    have h2 := countP_set hx ⟨⟨none, true, true⟩, (x.mux.closeWrite x.channel).2⟩
      fun y => y.mux.lease == some g'
    simp only [hg, beq_iff_eq, Option.some.injEq, reduceCtorEq, if_false] at h2
    simp only [put, holdersOf, ledger, Pool.release] at h1 ⊢
    omega

end Accounted

/-- A tunnel that stays as it is, with the leases. -/
theorem put_self {t : Nat} {x : HeldTunnel} (hx : c.tunnels[t]? = some x) :
    c.put t x.mux x.channel c.pool = c := by
  have hset : c.tunnels.set t ⟨x.mux, x.channel⟩ = c.tunnels := set_of_getElem? hx
  simp only [put, hset]

theorem step_close {t : Nat} {x : HeldTunnel} (hx : c.tunnels[t]? = some x) :
    c.step (.close t) =
      c.put t (x.mux.close x.channel c.pool).1 (x.mux.close x.channel c.pool).2.1
        (x.mux.close x.channel c.pool).2.2 := by
  simp only [step, hx]

/-- Where a tunnel may not close its transport, nothing changes; where it may, the tunnel closes. -/
theorem Accounted.step_closeTransport (ha : c.Accounted) {t : Nat} {x : HeldTunnel}
    (hx : c.tunnels[t]? = some x) :
    (∃ g, x.mux.lease = some g ∧ c.holdersOf g = 1 ∧
      (x.mux.closeTransport x.channel c.pool).1 = .ok () ∧
      c.step (.closeTransport t) = c.step (.close t)) ∨
    (∃ g, x.mux.lease = some g ∧ c.holdersOf g ≠ 1 ∧
      (x.mux.closeTransport x.channel c.pool).1 = .error MuxTunnel.sharedTransport ∧
      c.step (.closeTransport t) = c) ∨
    x.mux.lease = none ∧
      (x.mux.closeTransport x.channel c.pool).1 = .error MuxTunnel.alreadyClosed ∧
      c.step (.closeTransport t) = c := by
  cases hg : x.mux.lease with
  | none =>
    have hr := MuxTunnel.closeTransport_of_none hg x.channel c.pool
    refine .inr (.inr ⟨rfl, by rw [hr], ?_⟩)
    simp only [step, hx, hr, put_self hx]
  | some g =>
    by_cases h1 : c.ledger.holders g = 1
    · have hr := MuxTunnel.closeTransport_of_sole hg x.channel ha.tidy h1
      refine .inl ⟨g, rfl, by rw [← ha.holders_eq, h1], by rw [hr], ?_⟩
      simp only [step, hx, hr]
    · have hr := MuxTunnel.closeTransport_of_shared hg x.channel h1
      refine .inr (.inl ⟨g, rfl, by rwa [← ha.holders_eq], by rw [hr], ?_⟩)
      simp only [step, hx, hr, put_self hx]

/-- Every event keeps the books. -/
theorem Accounted.fair_step (ha : c.Accounted) (e : TenancyEvent) : Fair c (c.step e) := by
  have close (t : Nat) : Fair c (c.step (.close t)) := by
    cases hx : c.tunnels[t]? with
    | none =>
      simp only [step, hx]
      exact .refl c
    | some x =>
      rw [step_close hx]
      exact ha.fair_close hx
  cases e with
  | issue t => exact fair_issue t
  | clone g =>
    simp only [step]
    split
    · exact ha.fair_retain (holdersOf_pos_of_reaches ‹_›)
    · exact .refl c
  | giveBack g => exact ha.fair_giveBack g
  | install g => exact ha.fair_install g
  | lookup accepts => exact ha.fair_lookup accepts
  | evict g =>
    simp only [step, Pool.evictIf]
    split
    · split
      · exact ha.fair_clear
      · exact .refl c
    · exact .refl c
  | clear => exact ha.fair_clear
  | wrap g => exact fair_wrap g
  | close t => exact close t
  | closeTransport t =>
    cases hx : c.tunnels[t]? with
    | none =>
      simp only [step, hx]
      exact .refl c
    | some x =>
      rcases ha.step_closeTransport hx with ⟨_, _, _, _, he⟩ | ⟨_, _, _, _, he⟩ | ⟨_, _, he⟩
      · rw [he]
        exact close t
      · rw [he]
        exact .refl c
      · rw [he]
        exact .refl c

theorem run_concat (es : List TenancyEvent) (e : TenancyEvent) :
    run (es ++ [e]) = (run es).step e := by simp [run, after]

theorem accounted_run (es : List TenancyEvent) : (run es).Accounted := by
  induction es using List.reverseRecOn with
  | nil => exact accounted_start
  | append_singleton es e ih =>
    rw [run_concat]
    exact ih.fair (ih.fair_step e)

namespace Accounted

variable (ha : c.Accounted)

include ha

/-- An event closes the transport of a group exactly when it lets the last lease of that go. -/
theorem closings_step (e : TenancyEvent) (g : Nat) :
    g ∉ c.ledger.closings ∧ g ∈ (c.step e).ledger.closings ↔
      0 < c.holdersOf g ∧ (c.step e).holdersOf g = 0 := by
  have hf := ha.fair_step e
  have hb := ha.fair hf
  have hle := hf.change.length_le
  rw [ha.tidy.mem_closings, hb.tidy.mem_closings, ha.holders_eq, hb.holders_eq]
  constructor
  · rintro ⟨hnot, hlt, h0⟩
    refine ⟨Nat.pos_of_ne_zero fun hz => ?_, h0⟩
    have hge : ¬g < c.ledger.groups.length := fun hg => hnot ⟨hg, hz⟩
    -- a group that starts is held, so it was there before
    have hstart := hf.change.started_pos (by omega) hlt
    rw [hb.holders_eq] at hstart
    omega
  · rintro ⟨hpos, h0⟩
    have hlt := Ledger.lt_of_holders_pos (ha.pos hpos)
    exact ⟨fun hz => by omega, by omega, h0⟩

/-- What was closed stays so, and an event closes one transport at most. -/
theorem closings_grow (e : TenancyEvent) :
    (c.step e).ledger.closings = c.ledger.closings ∨
      ∃ g, (c.step e).ledger.closings = g :: c.ledger.closings := by
  rcases ha.tidy.closings_change (fun _ => ha.pos) (ha.fair_step e).change with hc | ⟨g, hc, _⟩
  · exact .inl hc
  · exact .inr ⟨g, hc⟩

/-- A transport was closed once for each of its groups that nobody holds any more. -/
theorem closesOf_eq (t : Nat) :
    c.ledger.closesOf t = (List.range c.ledger.groups.length).countP fun g =>
      c.ledger.transport g == t && c.holdersOf g == 0 := by
  let gone := (List.range c.ledger.groups.length).filter fun g => c.holdersOf g == 0
  have hperm : c.ledger.closings.Perm gone := by
    refine (List.perm_ext_iff_of_nodup ha.tidy.nodup (List.nodup_range.filter _)).mpr fun g => ?_
    rw [ha.tidy.mem_closings, ha.holders_eq, List.mem_filter, List.mem_range, beq_iff_eq]
  rw [Ledger.closesOf, hperm.countP_eq, List.countP_filter]

theorem isClosed_eq_false (hg : 0 < c.holdersOf g) : c.ledger.isClosed g = false :=
  ha.tidy.not_closed (ha.pos hg)

/-- What is found is what is kept, if its transport takes another stream. -/
theorem lookup_eq_some (accepts : Nat → Bool) :
    (c.pool.lookup accepts).2 = some g ↔
      c.pool.slot = some g ∧ accepts (c.ledger.transport g) = true := by
  unfold Pool.lookup
  cases hs : c.pool.slot with
  | none => simp
  | some g' =>
    have hopen : c.pool.ledger.isClosed g' = false :=
      ha.isClosed_eq_false (holdersOf_pos_of_slot hs)
    have hu : c.pool.usable accepts g' = accepts (c.ledger.transport g') := by
      simp [Pool.usable, hopen, ledger]
    by_cases hacc : accepts (c.ledger.transport g') = true
    · simp only [hu, hacc, if_true, Option.some.injEq]
      constructor
      · rintro rfl
        exact ⟨rfl, hacc⟩
      · exact And.left
    · simp only [hu, hacc, if_false, Bool.false_eq_true, reduceCtorEq, Option.some.injEq, false_iff]
      rintro ⟨rfl, h⟩
      exact hacc h

end Accounted

theorem lookup_eq_none {accepts : Nat → Bool} (hn : (c.pool.lookup accepts).2 = none) :
    c.step (.lookup accepts) = c := by
  unfold Pool.lookup at hn
  simp only [step, Pool.lookup]
  cases hs : c.pool.slot with
  | none => rfl
  | some g =>
    by_cases hu : c.pool.usable accepts g = true
    · simp [hs, hu] at hn
    · simp only [hu, if_false, Bool.false_eq_true]
      rfl

/-- What is looked up stays in the slot, and the caller has one more lease of it. -/
theorem step_lookup {accepts : Nat → Bool} (hg : (c.pool.lookup accepts).2 = some g) :
    c.step (.lookup accepts) = { c with pool := c.pool.retain g, leases := g :: c.leases } := by
  unfold Pool.lookup at hg
  simp only [step, Pool.lookup]
  cases hs : c.pool.slot with
  | none => simp [hs] at hg
  | some g' =>
    by_cases hu : c.pool.usable accepts g' = true
    · simp only [hs, hu, if_true, Option.some.injEq] at hg
      subst hg
      simp only [hu, if_true, Pool.retain, hs]
      rfl
    · simp [hs, hu] at hg

end Tenancy

namespace Pool

variable {p : Pool} {g : Nat}

theorem slot_clear (p : Pool) : p.clear.slot = none := by
  unfold clear
  cases hs : p.slot with
  | none => exact hs
  | some g => rfl

theorem evictIf_eq (p : Pool) (g : Nat) :
    p.evictIf g = if p.slot = some g then (p.clear, true) else (p, false) := rfl

end Pool

namespace Tenancy

/-- In every run: the ledger counts all leases of a group, that in the slot too. The transport of a
group is closed by the event that lets the last lease go, once, and none that is held is closed; so
a transport was closed once for each of its groups that nobody holds. A lookup finds what is kept,
if its transport takes another stream then, and else changes nothing. A lease takes out of the slot
just its own group, whatever transport that is on. A tunnel closes its transport only for its sole
holder, and else changes nothing. -/
theorem run_accounts (es : List TenancyEvent) :
    let c := run es
    (∀ g, c.ledger.holders g = c.holdersOf g) ∧
    (c.ledger.closings.Nodup ∧
      (∀ e, (c.step e).ledger.closings = c.ledger.closings ∨
        ∃ g, (c.step e).ledger.closings = g :: c.ledger.closings) ∧
      (∀ e g, g ∉ c.ledger.closings ∧ g ∈ (c.step e).ledger.closings ↔
        0 < c.holdersOf g ∧ (c.step e).holdersOf g = 0) ∧
      ∀ t, c.ledger.closesOf t = (List.range c.ledger.groups.length).countP fun g =>
        c.ledger.transport g == t && c.holdersOf g == 0) ∧
    (∀ g, 0 < c.holdersOf g → c.ledger.isClosed g = false) ∧
    (∀ accepts, (∀ g, (c.pool.lookup accepts).2 = some g ↔
        c.pool.slot = some g ∧ accepts (c.ledger.transport g) = true) ∧
      (∀ g, (c.pool.lookup accepts).2 = some g → c.step (.lookup accepts) =
        { c with pool := c.pool.retain g, leases := g :: c.leases }) ∧
      ((c.pool.lookup accepts).2 = none → c.step (.lookup accepts) = c)) ∧
    (∀ g, ((c.pool.evictIf g).2 = true ↔ c.pool.slot = some g) ∧
      (c.pool.slot = some g → (c.pool.evictIf g).1.slot = none) ∧
      (c.pool.slot ≠ some g → c.step (.evict g) = c)) ∧
    ∀ t x, c.tunnels[t]? = some x →
      (∃ g, x.mux.lease = some g ∧ c.holdersOf g = 1 ∧
        (x.mux.closeTransport x.channel c.pool).1 = .ok () ∧
        c.step (.closeTransport t) = c.step (.close t) ∧
        (c.step (.closeTransport t)).ledger.closings = g :: c.ledger.closings) ∨
      (∃ g, x.mux.lease = some g ∧ c.holdersOf g ≠ 1 ∧
        (x.mux.closeTransport x.channel c.pool).1 = .error MuxTunnel.sharedTransport ∧
        c.step (.closeTransport t) = c) ∨
      x.mux.lease = none ∧
        (x.mux.closeTransport x.channel c.pool).1 = .error MuxTunnel.alreadyClosed ∧
        c.step (.closeTransport t) = c := by
  intro c
  have ha : c.Accounted := accounted_run es
  refine ⟨ha.holders_eq, ⟨ha.tidy.nodup, ha.closings_grow, ha.closings_step, ha.closesOf_eq⟩,
    fun g => ha.isClosed_eq_false, fun accepts => ⟨fun g => ha.lookup_eq_some accepts,
      fun g => step_lookup, lookup_eq_none⟩, ?_, ?_⟩
  · intro g
    rw [Pool.evictIf_eq]
    refine ⟨?_, fun hs => ?_, fun hs => ?_⟩
    · split <;> simp [*]
    · rw [if_pos hs]
      exact Pool.slot_clear c.pool
    · simp only [step, Pool.evictIf, if_neg hs]
      split <;> rfl
  · intro t x hx
    rcases ha.step_closeTransport hx with ⟨g, hg, h1, hok, hsame⟩ | hshared | hnone
    · refine .inl ⟨g, hg, h1, hok, hsame, ?_⟩
      have hone : c.pool.ledger.holders g = 1 := (ha.holders_eq g).trans h1
      have ht : c.pool.ledger.Tidy := ha.tidy
      rw [hsame, step_close hx]
      simp only [MuxTunnel.close, hg, put, ledger, Pool.release]
      rw [ht.closings_release (by omega), if_pos hone]
    · exact .inr (.inl hshared)
    · exact .inr (.inr hnone)

/-- Two groups on one transport: the first is kept, a tunnel and its caller hold the second. -/
def aliasedRun : List TenancyEvent :=
  [.issue 7, .issue 7, .clone 1, .install 0, .wrap 1]

theorem run_accounts_aliased :
    (run aliasedRun).step (.evict 1) = run aliasedRun ∧
      (run aliasedRun).step (.closeTransport 0) = run aliasedRun ∧
      (run (aliasedRun ++ [.giveBack 1, .closeTransport 0])).ledger.closesOf 7 = 1 := by
  obtain ⟨_, _, _, _, hevict, htunnel⟩ := run_accounts aliasedRun
  refine ⟨(hevict 1).2.2 (by decide), ?_, ?_⟩
  · rcases htunnel 0 ⟨.ofLease 1, .fresh⟩ (by decide) with
      ⟨g, hg, h1, _⟩ | ⟨_, _, _, _, hsame⟩ | ⟨hnone, _⟩
    · cases hg
      exact absurd h1 (by decide)
    · exact hsame
    · cases hnone
  · rw [(run_accounts _).2.1.2.2.2 7]
    decide

end Tenancy
end TunnelDial
