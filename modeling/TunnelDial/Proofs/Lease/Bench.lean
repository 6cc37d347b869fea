import TunnelDial.Proofs.Lease.Tenancy
import TunnelDial.Rehearsal.LeaseBench

/-! Leases under names are leases in the hands of callers: every step of the bench is a run of what
callers do. So the books of the bench balance too, whatever steps it makes. -/
namespace TunnelDial.Rehearsal

namespace LeaseBench

variable {b : LeaseBench} {c : Tenancy} {name : String} {g : Nat} {extra : List Nat}

/-- The callers have what the bench has under names, and some leases more; no tunnel has any. -/
structure Follows (b : LeaseBench) (extra : List Nat) (c : Tenancy) : Prop where
  pool : c.pool = b.pool
  leases : c.leases.Perm (extra ++ b.held.map (·.2))
  tunnels : ∀ x ∈ c.tunnels, x.mux.lease = none
  names : (b.held.map (·.1)).Nodup

/-- Some run of the callers leads to what the bench has. -/
def Matched (b : LeaseBench) (c : Tenancy) : Prop :=
  ∃ es, b.Follows [] (c.after es)

theorem Matched.of_after {es : List TenancyEvent} (h : b.Matched (c.after es)) : b.Matched c := by
  obtain ⟨fs, hf⟩ := h
  exact ⟨es ++ fs, by simpa [Tenancy.after] using hf⟩

theorem mem_of_lease? (hl : b.lease? name = some g) : (name, g) ∈ b.held := by
  simp only [lease?, Option.map_eq_some_iff] at hl
  obtain ⟨⟨name', g'⟩, hfind, rfl⟩ := hl
  have hname : name' = name := by simpa using List.find?_some hfind
  rw [← hname]
  exact List.mem_of_find?_eq_some hfind

theorem perm_forget (hn : (b.held.map (·.1)).Nodup) (hl : b.lease? name = some g) :
    (b.held.map (·.2)).Perm (g :: (b.forget name).held.map (·.2)) := by
  obtain ⟨before, after, hsplit⟩ := List.append_of_mem (mem_of_lease? hl)
  rw [hsplit] at hn
  simp only [List.map_append, List.map_cons, List.nodup_append, List.nodup_cons] at hn
  obtain ⟨_, ⟨hafter, _⟩, hbefore⟩ := hn
  have keep {xs : List (String × Nat)} (hxs : name ∉ xs.map (·.1)) :
      xs.filter (·.1 != name) = xs := by
    refine List.filter_eq_self.mpr fun x hx => bne_iff_ne.mpr fun he => hxs ?_
    exact he ▸ List.mem_map_of_mem hx
  have hb : name ∉ before.map (·.1) := fun h => hbefore _ h _ (List.mem_cons_self ..) rfl
  simp only [forget, hsplit, List.filter_append, List.filter_cons, keep hafter, keep hb,
    bne_self_eq_false, Bool.false_eq_true, if_false, List.map_append, List.map_cons]
  exact List.perm_middle

theorem nodup_forget (hn : (b.held.map (·.1)).Nodup) (name : String) :
    ((b.forget name).held.map (·.1)).Nodup :=
  hn.sublist (List.filter_sublist.map _)

theorem not_mem_forget (b : LeaseBench) (name : String) :
    name ∉ (b.forget name).held.map (·.1) := by
  simp [forget]

/-- A name that holds nothing is not among the names. -/
theorem not_mem_of_lease? (hl : b.lease? name = none) : name ∉ b.held.map (·.1) := by
  intro hmem
  obtain ⟨x, hx, rfl⟩ := List.mem_map.mp hmem
  simp only [lease?, Option.map_eq_none_iff, List.find?_eq_none, decide_eq_true_eq] at hl
  exact hl x hx rfl

namespace Follows

theorem mem_leases (hf : b.Follows extra c) (hl : b.lease? name = some g) : g ∈ c.leases := by
  rw [hf.leases.mem_iff]
  exact List.mem_append_right _ (List.mem_map.mpr ⟨_, mem_of_lease? hl, rfl⟩)

/-- One lease under a name goes out of the hands of its caller. -/
theorem perm_erase (hf : b.Follows extra c) (hl : b.lease? name = some g) :
    (c.leases.erase g).Perm (extra ++ (b.forget name).held.map (·.2)) := by
  have hp : c.leases.Perm (g :: (extra ++ (b.forget name).held.map (·.2))) :=
    hf.leases.trans (((perm_forget hf.names hl).append_left extra).trans List.perm_middle)
  simpa using hp.erase g

theorem drop (hf : b.Follows extra c) (name : String) :
    ∃ es, (b.drop name).Follows extra (c.after es) ∧ name ∉ (b.drop name).held.map (·.1) := by
  unfold LeaseBench.drop
  cases hl : b.lease? name with
  | none => exact ⟨[], hf, not_mem_of_lease? hl⟩
  | some g =>
    refine ⟨[.giveBack g], ?_, not_mem_forget b name⟩
    have hg : c.leases.contains g = true := by simpa using hf.mem_leases hl
    simp only [Tenancy.after, List.foldl_cons, List.foldl_nil, Tenancy.step, hg, if_true]
    exact ⟨by rw [hf.pool], hf.perm_erase hl, hf.tunnels, nodup_forget hf.names name⟩

/-- A lease that nobody named yet gets a name. -/
theorem keep (hf : b.Follows [g] c) (name : String) : (b.keep name g).Matched c := by
  obtain ⟨es, hd, hname⟩ := hf.drop name
  refine ⟨es, hd.pool, ?_, hd.tunnels, ?_⟩
  · have hp : ([g] ++ (b.drop name).held.map (·.2)).Perm ((b.drop name).held.map (·.2) ++ [g]) :=
      List.perm_append_comm
    simpa [LeaseBench.keep] using hd.leases.trans hp
  · simp only [LeaseBench.keep, List.map_append, List.map_cons, List.map_nil]
    refine List.nodup_append.mpr ⟨hd.names, by simp, ?_⟩
    intro x hx y hy hxy
    rw [List.mem_singleton.mp hy] at hxy
    exact hname (hxy ▸ hx)

/-- A lease that nobody named is given back. -/
theorem giveBack (hf : b.Follows [g] c) : ({ b with pool := b.pool.release g }).Matched c := by
  refine ⟨[.giveBack g], ?_⟩
  have hg : c.leases.contains g = true := by simp [hf.leases.mem_iff]
  have hp : (c.leases.erase g).Perm (b.held.map (·.2)) := by simpa using hf.leases.erase g
  simp only [Tenancy.after, List.foldl_cons, List.foldl_nil, Tenancy.step, hg, if_true, hf.pool]
  exact ⟨rfl, hp, hf.tunnels, hf.names⟩

theorem withLease {f : Nat → LeaseReply × LeaseBench} (hf : b.Follows [] c)
    (h : ∀ g, b.lease? name = some g → (f g).2.Matched c) : (b.withLease name f).2.Matched c := by
  unfold LeaseBench.withLease
  cases hl : b.lease? name with
  | none => exact ⟨[], hf⟩
  | some g => exact h g hl

/-- What a caller looks up it may give a name, or give back. -/
theorem lookup (hf : b.Follows [] c) (hg : (b.pool.lookup b.takes).2 = some g) :
    ({ b with pool := (b.pool.lookup b.takes).1 }).Follows [g] (c.after [.lookup b.takes]) := by
  simp only [Tenancy.after, List.foldl_cons, List.foldl_nil, Tenancy.step, hf.pool, hg,
    Option.toList_some, List.singleton_append]
  exact ⟨rfl, hf.leases.cons g, hf.tunnels, hf.names⟩

theorem force (hf : b.Follows [] c) (hl : b.lease? name = some g) :
    (b.force name g).2.Matched c := by
  have hg : c.leases.contains g = true := by simpa using hf.mem_leases hl
  let x : HeldTunnel := ⟨.ofLease g, .fresh⟩
  have hwrap : c.step (.wrap g) =
      { c with leases := c.leases.erase g, tunnels := c.tunnels ++ [x] } := by
    simp only [Tenancy.step, hg, if_true, x]
  have hset (y z : HeldTunnel) : (c.tunnels ++ [y]).set c.tunnels.length z = c.tunnels ++ [z] := by
    simp
  have hget (y : HeldTunnel) : (c.tunnels ++ [y])[c.tunnels.length]? = some y := by simp
  refine ⟨[.wrap g, .closeTransport c.tunnels.length, .close c.tunnels.length], ?_⟩
  simp only [Tenancy.after, List.foldl_cons, List.foldl_nil, hwrap]
  simp only [Tenancy.step, Tenancy.put, hget, hset]
  refine ⟨by rw [hf.pool]; rfl, hf.perm_erase hl, fun y hy => ?_, nodup_forget hf.names name⟩
  rcases List.mem_append.mp hy with hy | hy
  · exact hf.tunnels y hy
  · rw [List.mem_singleton.mp hy]
    exact MuxTunnel.lease_close ..

end Follows

/-- Every step under names is a run of what callers do. -/
theorem Follows.step (hf : b.Follows [] c) (s : LeaseStep) : (b.step s).2.Matched c := by
  have stay : b.Matched c := ⟨[], hf⟩
  cases s with
  | issue name transport =>
    simp only [LeaseBench.step]
    split
    · have hnew : ({ b with pool := (b.pool.issue transport).1 }).Follows
          [(b.pool.issue transport).2] (c.after [.issue transport]) := by
        simp only [Tenancy.after, List.foldl_cons, List.foldl_nil, Tenancy.step, hf.pool]
        exact ⟨rfl, hf.leases.cons _, hf.tunnels, hf.names⟩
      exact (hnew.keep name).of_after
    · exact stay
  | clone name other =>
    refine hf.withLease fun g hl => ?_
    have hg : c.reaches g = true := by simp [Tenancy.reaches, hf.mem_leases hl]
    have hnew : ({ b with pool := b.pool.retain g }).Follows [g] (c.after [.clone g]) := by
      simp only [Tenancy.after, List.foldl_cons, List.foldl_nil, Tenancy.step, hg, if_true, hf.pool]
      exact ⟨rfl, hf.leases.cons g, hf.tunnels, hf.names⟩
    exact (hnew.keep other).of_after
  | drop name =>
    obtain ⟨es, hd, _⟩ := hf.drop name
    exact ⟨es, hd⟩
  | install name =>
    refine hf.withLease fun g hl => ⟨[.install g], ?_⟩
    have hg : c.leases.contains g = true := by simpa using hf.mem_leases hl
    simp only [Tenancy.after, List.foldl_cons, List.foldl_nil, Tenancy.step, hg, if_true, hf.pool]
    exact ⟨rfl, hf.perm_erase hl, hf.tunnels, nodup_forget hf.names name⟩
  | lookup name =>
    simp only [LeaseBench.step]
    split
    · rename_i pool g hr
      have hnew := hf.lookup (show (b.pool.lookup b.takes).2 = some g by rw [hr])
      rw [hr] at hnew
      exact (hnew.keep name).of_after
    · exact stay
  | lookupDrop =>
    simp only [LeaseBench.step]
    split
    · rename_i pool g hr
      have hnew := hf.lookup (show (b.pool.lookup b.takes).2 = some g by rw [hr])
      rw [hr] at hnew
      exact hnew.giveBack.of_after
    · exact stay
  | evict name =>
    refine hf.withLease fun g hl => ⟨[.evict g], ?_⟩
    have hg : c.reaches g = true := by simp [Tenancy.reaches, hf.mem_leases hl]
    simp only [Tenancy.after, List.foldl_cons, List.foldl_nil, Tenancy.step, hg, if_true, hf.pool]
    exact ⟨rfl, hf.leases, hf.tunnels, hf.names⟩
  | clear =>
    refine ⟨[.clear], ?_⟩
    simp only [Tenancy.after, List.foldl_cons, List.foldl_nil, Tenancy.step, hf.pool]
    exact ⟨rfl, hf.leases, hf.tunnels, hf.names⟩
  | setAccepts transport accepts =>
    simp only [LeaseBench.step]
    split
    · exact ⟨[], hf.pool, hf.leases, hf.tunnels, hf.names⟩
    · exact stay
  | same name other => exact hf.withLease fun g _ => hf.withLease fun h _ => stay
  | closeDirect name =>
    exact hf.withLease fun g _ => ⟨[], hf.pool, hf.leases, hf.tunnels, hf.names⟩
  | force name => exact hf.withLease fun g hl => hf.force hl

/-- Whatever steps the bench makes, callers can do the same. -/
theorem matched_run (accepts : List Bool) (ss : List LeaseStep) :
    (ss.foldl (fun b s => (b.step s).2) (start accepts)).Matched Tenancy.start := by
  induction ss using List.reverseRecOn with
  | nil => exact ⟨[], rfl, .refl _, nofun, List.nodup_nil⟩
  | append_singleton ss s ih =>
    obtain ⟨es, hf⟩ := ih
    rw [List.foldl_append]
    exact (hf.step s).of_after

/-- Whatever steps the bench makes, a group has as many holders as names have a lease of it, and the
slot; no lease that is held is closed; and every transport was closed as often as a caller closed it
itself, and once for each of its groups that nobody holds. -/
theorem run_balance (accepts : List Bool) (ss : List LeaseStep) :
    let b := ss.foldl (fun b s => (b.step s).2) (start accepts)
    (∀ g, b.pool.ledger.holders g = b.pool.slot.toList.count g + (b.held.map (·.2)).count g) ∧
    (∀ x ∈ b.held, b.pool.ledger.isClosed x.2 = false) ∧
    b.closes = (List.range b.accepts.length).map fun t =>
      ((List.range b.pool.ledger.groups.length).countP fun g =>
        b.pool.ledger.transport g == t && b.pool.ledger.holders g == 0) + b.direct.count t := by
  intro b
  obtain ⟨es, hf⟩ := matched_run accepts ss
  have ha : (Tenancy.run es).Accounted := Tenancy.accounted_run es
  have hpool : (Tenancy.run es).pool = b.pool := hf.pool
  have hleases : (Tenancy.run es).leases.Perm (b.held.map (·.2)) := hf.leases
  have hcount (g : Nat) : (Tenancy.run es).holdersOf g =
      b.pool.slot.toList.count g + (b.held.map (·.2)).count g := by
    have h0 : (Tenancy.run es).tunnels.countP (fun x => x.mux.lease == some g) = 0 :=
      List.countP_eq_zero.mpr fun x hx => by simp [hf.tunnels x hx]
    rw [Tenancy.holdersOf, h0, hpool, hleases.count_eq, Nat.add_zero]
  have hholders (g : Nat) : b.pool.ledger.holders g = (Tenancy.run es).holdersOf g := by
    rw [← hpool]
    exact ha.holders_eq g
  refine ⟨fun g => by rw [hholders, hcount], fun x hx => ?_, ?_⟩
  · have hmem : x.2 ∈ (Tenancy.run es).leases :=
      hleases.mem_iff.mpr (List.mem_map_of_mem hx)
    rw [← hpool]
    exact ha.isClosed_eq_false (Tenancy.holdersOf_pos_of_lease hmem)
  · refine List.map_congr_left fun t _ => ?_
    have hcloses := ha.closesOf_eq t
    simp only [Tenancy.ledger, hpool, ← hholders] at hcloses
    rw [hcloses]

end LeaseBench

end TunnelDial.Rehearsal
