import Mathlib.Data.List.Nodup
import TunnelDial.Proofs.Dial.Own

/-! When transports are closed. In every run each dial's own transport is accounted for until the
dial has ended, so the transports closed are exactly those that nobody holds. -/
namespace TunnelDial
namespace Custody

variable {c : Custody} {e : CustodyEvent}

/-- What each dial owns: the transport that it opened, the dial's alone until it is kept, and the
connection that it did not build a transport on. -/
structure Owning (c : Custody) : Prop where
  placed : ∀ (d : Nat) (x : Dial), c.hub.dials[d]? = some x → x.Placed
  linked : ∀ (d : Nat) (x : Dial), c.hub.dials[d]? = some x → x.Linked
  /-- A dial opened a transport that was there, -/
  own_lt : ∀ (d : Nat) (x : Dial) (g : Nat), c.hub.dials[d]? = some x → x.own = some g →
    g < c.ledger.groups.length
  /-- each transport was opened by one dial, -/
  own_unique : ∀ (d i : Nat) (x y : Dial) (g : Nat), c.hub.dials[d]? = some x →
    c.hub.dials[i]? = some y → x.own = some g → y.own = some g → d = i
  /-- and by one at least. -/
  covered : ∀ g < c.ledger.groups.length, ∃ (d : Nat) (x : Dial), c.hub.dials[d]? = some x ∧
    x.own = some g
  sealed : ∀ (d : Nat) (x : Dial) (g : Nat), c.hub.dials[d]? = some x → x.Sealed g →
    c.ledger.holders g = x.phase.leases.count g
  dropped : ∀ k, c.hub.dropped.count k = (c.hub.dials.map fun x => x.letGo?.toList.count k).sum

theorem owning_start (timeout : Nat) (reuse : Bool) : (start timeout reuse).Owning where
  placed _ _ hx := by simp [start, Hub.start] at hx
  linked _ _ hx := by simp [start, Hub.start] at hx
  own_lt _ _ _ hx := by simp [start, Hub.start] at hx
  own_unique _ _ _ _ _ hx := by simp [start, Hub.start] at hx
  covered _ hg := by simp [start, Hub.start, ledger, Pool.empty, Ledger.empty] at hg
  sealed _ _ _ hx := by simp [start, Hub.start] at hx
  dropped _ := rfl

/-- An event about anything else does not reach a transport that only one dial holds. -/
theorem Accounted.not_reach (ha : c.Accounted) {d g : Nat} {x : Dial}
    (hx : c.hub.dials[d]? = some x) (hh : c.ledger.holders g = x.phase.leases.count g)
    (hd : e.dial? ≠ some d) : ¬c.Reach e g := by
  have hle := Hub.count_le_held hx g
  rw [ha.holders_eq, holdersOf] at hh
  rintro (hs | ⟨i, y, he, hy, hg⟩ | ⟨y, hy, hg⟩ | hg)
  · rw [hs] at hh
    simp at hh
    omega
  · have h1 := Hub.count_add_count_le_held hx hy (fun hi => hd (hi ▸ he)) g
    have h2 := List.count_pos_iff.mpr hg
    omega
  · have h1 : 0 < c.tunnels.countP (fun x => x.mux.lease == some g) :=
      List.countP_pos_iff.mpr ⟨y, hy, by simp [hg]⟩
    omega
  · have h1 := List.count_pos_iff.mpr hg
    omega

/-- A transport that only one dial holds is not in the slot. -/
theorem Accounted.slot_count (ha : c.Accounted) {d g : Nat} {x : Dial}
    (hx : c.hub.dials[d]? = some x) (hh : c.ledger.holders g = x.phase.leases.count g) :
    c.hub.pool.slot.toList.count g = 0 := by
  have hle := Hub.count_le_held hx g
  rw [ha.holders_eq, holdersOf] at hh
  omega

theorem Owning.placed_step (ho : c.Owning) (d : Nat) (y : Dial)
    (hy : (c.step e).hub.dials[d]? = some y) : y.Placed := by
  rcases getElem?_step hy with
    ⟨_, _, cancelled, _, _, _, rfl⟩ | ⟨hy, _⟩ | ⟨_, _, _, x, _, _, _, hx, hm, _⟩
  · constructor
    · intro g hg
      have hp : (c.hub.entry cancelled).pending = none := by
        rcases Hub.entry_eq _ cancelled with he | he | he <;> rw [he] <;> rfl
      simp [Dial.start, hp] at hg
    · intro g hg
      simp [Dial.start] at hg
  · exact ho.placed d y hy
  · exact hm.placed (ho.placed d x hx)

theorem Owning.linked_step (ho : c.Owning) (d : Nat) (y : Dial)
    (hy : (c.step e).hub.dials[d]? = some y) : y.Linked := by
  rcases getElem?_step hy with
    ⟨_, _, cancelled, _, _, _, rfl⟩ | ⟨hy, _⟩ | ⟨_, _, _, x, _, _, _, hx, hm, _⟩
  · constructor
    · intro k hk
      have hp : (c.hub.entry cancelled).link? = none := by
        rcases Hub.entry_eq _ cancelled with he | he | he <;> rw [he] <;> rfl
      simp [Dial.start, hp] at hk
    · intro k hk
      simp [Dial.start, Dial.plainLink?] at hk
  · exact ho.linked d y hy
  · exact hm.linked (ho.linked d x hx)

/-- A transport that a dial opened is one that it had opened before, or one that it just built. -/
theorem Owning.own_step (ho : c.Owning) {d g : Nat} {y : Dial}
    (hy : (c.step e).hub.dials[d]? = some y) (hg : y.own = some g) :
    (∃ x, c.hub.dials[d]? = some x ∧ x.own = some g) ∨
      e.dial? = some d ∧ g = c.ledger.groups.length ∧
        (c.step e).ledger.groups.length = c.ledger.groups.length + 1 := by
  rcases getElem?_step hy with
    ⟨_, _, _, _, _, _, rfl⟩ | ⟨hy, _⟩ | ⟨_, _, e', x, s, rfl, hd, hx, hm, hs⟩
  · simp [Dial.start] at hg
  · exact .inl ⟨y, hy, hg⟩
  · rcases hm.own_eq (ho.placed d x hx) with ⟨hown, _⟩ | ⟨_, hown, hlen⟩
    · exact .inl ⟨x, hx, hown ▸ hg⟩
    · refine .inr ⟨hd, (Option.some.inj (hown.symm.trans hg)).symm, ?_⟩
      rw [ledger_move hs, hlen]
      rfl

theorem Owning.own_lt_step (ho : c.Owning) (ha : c.Accounted) (d : Nat) (y : Dial) (g : Nat)
    (hy : (c.step e).hub.dials[d]? = some y) (hg : y.own = some g) :
    g < (c.step e).ledger.groups.length := by
  have hle := (ha.fair_step e).change.length_le
  rcases ho.own_step hy hg with ⟨x, hx, hxg⟩ | ⟨_, rfl, hlen⟩
  · have := ho.own_lt d x g hx hxg
    omega
  · omega

theorem Owning.own_unique_step (ho : c.Owning) (d i : Nat) (x y : Dial) (g : Nat)
    (hx : (c.step e).hub.dials[d]? = some x) (hy : (c.step e).hub.dials[i]? = some y)
    (hxg : x.own = some g) (hyg : y.own = some g) : d = i := by
  rcases ho.own_step hx hxg with ⟨x', hx', hxg'⟩ | ⟨hd, hn, _⟩ <;>
    rcases ho.own_step hy hyg with ⟨y', hy', hyg'⟩ | ⟨hi, hn', _⟩
  · exact ho.own_unique d i x' y' g hx' hy' hxg' hyg'
  · have := ho.own_lt d x' g hx' hxg'
    omega
  · have := ho.own_lt i y' g hy' hyg'
    omega
  · exact Option.some.inj (hd.symm.trans hi)

theorem Owning.covered_step (ho : c.Owning) (g : Nat) (hg : g < (c.step e).ledger.groups.length) :
    ∃ (d : Nat) (x : Dial), (c.step e).hub.dials[d]? = some x ∧ x.own = some g := by
  rcases hub_step c e with ⟨now, accepts, e', rfl, hs⟩ | ⟨hd, hs, hlen, _⟩
  · rcases Hub.step_cases now accepts c.hub e' with
      ⟨hh, _⟩ | ⟨cancelled, request, rfl, hh⟩ | ⟨rfl, hh⟩ | ⟨i, y, y', s, hi, hy, hm, hh⟩
    · rw [ledger, hs, hh] at hg
      rw [hs, hh]
      exact ho.covered g hg
    · rw [ledger, hs, hh] at hg
      obtain ⟨d, x, hx, hxg⟩ := ho.covered g hg
      refine ⟨d, x, ?_, hxg⟩
      rw [hs, hh]
      exact List.getElem?_append_left (List.getElem?_eq_some_iff.mp hx).1 ▸ hx
    · have hlen : c.hub.pool.clear.ledger.groups.length = c.ledger.groups.length := by
        unfold Pool.clear
        cases c.hub.pool.slot with
        | none => rfl
        | some g => exact Ledger.length_release ..
      rw [ledger, hs, hh, hlen] at hg
      rw [hs, hh]
      exact ho.covered g hg
    · have hget := hm.getElem?_eq hy
      rw [ledger, hs, hh] at hg
      rw [hs, hh]
      rcases hm.own_eq (ho.placed i y hy) with ⟨hown, hlen⟩ | ⟨hnone, hown, hlen⟩
      · rw [Hub.setDial, hlen] at hg
        obtain ⟨d, x, hx, hxg⟩ := ho.covered g hg
        by_cases hid : i = d
        · subst hid
          cases hy.symm.trans hx
          exact ⟨i, y', by rw [hget, if_pos rfl], hown.trans hxg⟩
        · exact ⟨d, x, by rw [hget, if_neg hid, hx], hxg⟩
      · rw [Hub.setDial, hlen] at hg
        by_cases hnew : g = c.hub.pool.ledger.groups.length
        · exact ⟨i, y', by rw [hget, if_pos rfl], hnew ▸ hown⟩
        · obtain ⟨d, x, hx, hxg⟩ := ho.covered g (by rw [ledger]; omega)
          have hid : i ≠ d := by
            rintro rfl
            cases hy.symm.trans hx
            rw [hnone] at hxg
            cases hxg
          exact ⟨d, x, by rw [hget, if_neg hid, hx], hxg⟩
  · rw [hlen] at hg
    rw [hs]
    exact ho.covered g hg

theorem Owning.sealed_step (ho : c.Owning) (ha : c.Accounted) (d : Nat) (y : Dial) (g : Nat)
    (hy : (c.step e).hub.dials[d]? = some y) (hg : y.Sealed g) :
    (c.step e).ledger.holders g = y.phase.leases.count g := by
  rcases getElem?_step hy with
    ⟨_, _, _, _, _, _, rfl⟩ | ⟨hy, hsame⟩ | ⟨_, _, e', x, s, rfl, hd, hx, hm, hs⟩
  · have := hg.1
    simp [Dial.start] at this
  · have hh := ho.sealed d y g hy hg
    rcases hsame with hl | hd
    · rw [hl, hh]
    · have hlt := ho.own_lt d y g hy hg.1
      rw [(ha.fair_step e).change.holders_eq (fun _ => ha.pos_of_reach) hlt
        (ha.not_reach hy hh hd), hh]
  · rw [ledger_move hs]
    rcases hm.of_sealed (ho.placed d x hx) hg with hsealed | ⟨_, h2, h2'⟩
    · have hh := ho.sealed d x g hx hsealed
      have hb := hm.balance hx (fun g hg => ha.pos_of_reach (e := .dial 0 (fun _ => true) e')
        (hg.imp_right fun hg => .inl ⟨d, x, hd, hx, hg⟩)) g
      have hslot := ha.slot_count hx hh
      obtain ⟨hle, hhanded⟩ := hm.sealed_stays hx hg
      rw [ledger] at hh
      omega
    · rw [h2, h2']

theorem Owning.dropped_step (ho : c.Owning) (k : Nat) :
    (c.step e).hub.dropped.count k =
      ((c.step e).hub.dials.map fun x => x.letGo?.toList.count k).sum := by
  rcases hub_step c e with ⟨now, accepts, e', rfl, hs⟩ | ⟨_, hs, _⟩
  · rcases Hub.step_cases now accepts c.hub e' with
      ⟨hh, _⟩ | ⟨cancelled, request, rfl, hh⟩ | ⟨rfl, hh⟩ | ⟨d, x, x', s, _, hx, hm, hh⟩
    · rw [hs, hh]
      exact ho.dropped k
    · have hnone : (Dial.start request (c.hub.entry cancelled)).letGo? = none := by
        unfold Dial.letGo?
        split <;> rfl
      rw [hs, hh]
      simpa [hnone] using ho.dropped k
    · rw [hs, hh]
      exact ho.dropped k
    · obtain ⟨new, hnew, hgo⟩ := hm.letGo (ho.linked d x hx)
      have hsum := hm.sum_eq hx fun y => y.letGo?.toList.count k
      have hold := ho.dropped k
      rw [hs, hh]
      rw [hgo, List.count_append] at hsum
      rw [show (s.setDial d fun _ => x').dropped = new ++ c.hub.dropped from hnew,
        List.count_append]
      omega
  · rw [hs]
    exact ho.dropped k

theorem Owning.step (ho : c.Owning) (ha : c.Accounted) (e : CustodyEvent) :
    (c.step e).Owning where
  placed := ho.placed_step
  linked := ho.linked_step
  own_lt := ho.own_lt_step ha
  own_unique := ho.own_unique_step
  covered := ho.covered_step
  sealed := ho.sealed_step ha
  dropped := ho.dropped_step

theorem Owning.after (ho : c.Owning) (ha : c.Accounted) (es : List CustodyEvent) :
    (c.after es).Owning := by
  induction es generalizing c with
  | nil => exact ho
  | cons e es ih => exact ih (ho.step ha e) (ha.step e)

theorem owning_run (timeout : Nat) (reuse : Bool) (es : List CustodyEvent) :
    (run timeout reuse es).Owning :=
  (owning_start timeout reuse).after (accounted_start timeout reuse) es

/-- Whatever was done with a dialer and with what came of it: the transports that were closed are
those that nobody holds, each was closed once and by its last holder, and each belongs to one dial.
A dial that ended without a tunnel left its own transport closed, and let its connection go. -/
theorem run_closings (timeout : Nat) (reuse : Bool) (es : List CustodyEvent) :
    let c := run timeout reuse es
    c.ledger.closings.Nodup ∧
    (∀ g, g ∈ c.ledger.closings ↔ g < c.ledger.groups.length ∧ c.holdersOf g = 0) ∧
    (∀ e, (c.step e).ledger.closings = c.ledger.closings ∨
      ∃ g, (c.step e).ledger.closings = g :: c.ledger.closings ∧ c.holdersOf g = 1 ∧
        (c.step e).holdersOf g = 0) ∧
    (∀ g < c.ledger.groups.length,
      ∃! d : Nat, ∃ x : Dial, c.hub.dials[d]? = some x ∧ x.own = some g) ∧
    (∀ x ∈ c.hub.dials, ∀ o, x.phase = .ended o → o.isLoss = true →
      (∀ g, x.own = some g → c.ledger.closings.count g = 1 ∧ c.holdersOf g = 0) ∧
      ∀ k, x.plainLink? = some k → k ∈ c.hub.dropped) ∧
    c.hub.dropped.Perm (c.hub.dials.filterMap Dial.letGo?) := by
  intro c
  have ha : c.Accounted := accounted_run timeout reuse es
  have ho : c.Owning := owning_run timeout reuse es
  have hperm : c.hub.dropped.Perm (c.hub.dials.filterMap Dial.letGo?) := by
    apply List.perm_iff_count.mpr
    intro k
    rw [ho.dropped k, List.filterMap_eq_flatMap_toList, List.count_flatMap]
    rfl
  have hmem (g : Nat) : g ∈ c.ledger.closings ↔
      g < c.ledger.groups.length ∧ c.holdersOf g = 0 := by
    rw [ha.tidy.mem_closings, ← ha.holders_eq]
  refine ⟨ha.tidy.nodup, hmem, fun e => ?_, fun g hg => ?_, fun x hx o hp hl => ⟨?_, ?_⟩, hperm⟩
  · rcases ha.tidy.closings_change (fun _ => ha.pos_of_reach) (ha.fair_step e).change with
      hsame | ⟨g, hnew, h1, h0⟩
    · exact .inl hsame
    · exact .inr ⟨g, hnew, ha.holders_eq g ▸ h1, (ha.step e).holders_eq g ▸ h0⟩
  · obtain ⟨d, x, hx, hxg⟩ := ho.covered g hg
    refine ⟨d, ⟨x, hx, hxg⟩, ?_⟩
    rintro i ⟨y, hy, hyg⟩
    exact ho.own_unique i d y x g hy hx hyg hxg
  · intro g hg
    obtain ⟨d, hd⟩ := List.mem_iff_getElem?.mp hx
    have hlost : x.isLost = true := by simp [Dial.isLost, hp, Phase.outcome?, hl]
    have h0 : c.holdersOf g = 0 := by
      rw [← ha.holders_eq, ho.sealed d x g hd ⟨hg, .inr hlost⟩, hp]
      rfl
    have hg' : g ∈ c.ledger.closings := (hmem g).mpr ⟨ho.own_lt d x g hd hg, h0⟩
    exact ⟨List.count_eq_one_of_mem ha.tidy.nodup hg', h0⟩
  · intro k hk
    have hgo : x.letGo? = some k := by simp [Dial.letGo?, Dial.isLost, hp, Phase.outcome?, hl, hk]
    exact hperm.mem_iff.mpr (List.mem_filterMap.mpr ⟨x, hx, hgo⟩)

/-- A dial that has opened a transport of its own and waits for its answer. -/
def openingRun : List CustodyEvent :=
  let on (e : DialEvent) : CustodyEvent := .dial 0 (fun _ => true) e
  [on (.arrive false ⟨"example.org:443", .empty⟩), on (.turn 0), on (.turn 0), on (.turn 0),
    on (.turn 0), on (.turn 0), on (.established 0 (.ok ⟨5, "h2"⟩)), on (.connected 0 (.ok 3))]

/-- The dial is cancelled then. -/
def cancelledRun : List CustodyEvent :=
  let turn : CustodyEvent := .dial 0 (fun _ => true) (.turn 0)
  openingRun ++ [.dial 0 (fun _ => true) (.cancelled 0), turn, turn, turn]

theorem run_closings_cancelled :
    (run 10 true cancelledRun).ledger.closings.count 0 = 1 := by
  let x : Dial := ⟨⟨"example.org:443", .empty⟩, .ended (.failed .cancelled), [0], 1, 1,
    some ⟨5, "h2"⟩, some 0⟩
  have hx : x ∈ (run 10 true cancelledRun).hub.dials := by decide
  have hclosed := (run_closings 10 true cancelledRun).2.2.2.2.1 x hx (.failed .cancelled) rfl rfl
  exact (hclosed.1 0 rfl).1

end Custody
end TunnelDial
