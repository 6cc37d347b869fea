import Mathlib.Algebra.BigOperators.Group.List.Basic
import Mathlib.Algebra.GroupWithZero.Nat
import TunnelDial.Proofs.Dial.Run

/-! Who holds a transport. In every run the ledger counts for each group the slot, the dials under
way, the tunnels and the clones that hold it, so a transport is closed once, when the last of these
lets it go. -/
namespace TunnelDial

/-- How many leases of a group dials hold. -/
def Hub.held (h : Hub) (g : Nat) : Nat := (h.dials.map fun x => x.phase.leases.count g).sum

/-- How many have a lease of a group: the slot, dials under way, tunnels and clones. -/
def Custody.holdersOf (c : Custody) (g : Nat) : Nat :=
  c.hub.pool.slot.toList.count g + c.hub.held g
    + c.tunnels.countP (fun x => x.mux.lease == some g) + c.leases.count g

namespace Hub

variable {now : Nat} {accepts : Nat → Bool} {h s : Hub} {d : Nat} {x x' : Dial} {e : DialEvent}

/-- What a change of one dial does to a sum over all of them. -/
theorem sum_setDial (hx : s.dials[d]? = some x) (x' : Dial) (f : Dial → Nat) :
    ((s.setDial d fun _ => x').dials.map f).sum + f x = (s.dials.map f).sum + f x' := by
  have hsum (xs : List Dial) (i : Nat) (hi : xs[i]? = some x) :
      ((xs.modify i fun _ => x').map f).sum + f x = (xs.map f).sum + f x' := by
    induction xs generalizing i with
    | nil => simp at hi
    | cons y ys ih =>
      cases i with
      | zero =>
        simp only [List.getElem?_cons_zero, Option.some.injEq] at hi
        subst hi
        simp only [List.modify_zero_cons, List.map_cons, List.sum_cons]
        omega
      | succ i =>
        have := ih i (by simpa using hi)
        simp only [List.modify_succ_cons, List.map_cons, List.sum_cons]
        omega
  exact hsum s.dials d hx

theorem Move.sum_eq (hm : Move now accepts h d x e x' s) (hx : h.dials[d]? = some x)
    (f : Dial → Nat) :
    ((s.setDial d fun _ => x').dials.map f).sum + f x = (h.dials.map f).sum + f x' := by
  rw [sum_setDial (by rw [hm.dials_eq]; exact hx), hm.dials_eq]

theorem held_setDial (hx : s.dials[d]? = some x) (x' : Dial) (g : Nat) :
    (s.setDial d fun _ => x').held g + x.phase.leases.count g =
      s.held g + x'.phase.leases.count g :=
  sum_setDial hx x' fun y => y.phase.leases.count g

theorem count_le_held (hx : h.dials[d]? = some x) (g : Nat) :
    x.phase.leases.count g ≤ h.held g := by
  have := held_setDial hx { x with phase := .queued } g
  simp [Phase.leases] at this
  omega

/-- What a dial gives back or takes, it held or found. -/
theorem Move.ledger_change (hm : Move now accepts h d x e x' s) :
    h.pool.ledger.Change (fun g => h.pool.slot = some g ∨ g ∈ x.phase.leases) s.pool.ledger := by
  cases hm with
  | found _ hs _ => exact .shared (.inl hs)
  | gaveBack hp => exact .returned (.inr (by simp [hp, Phase.leases]))
  | @built _ transport hp => exact .issued transport
  | missed | evicted | outlived | approached | wentFresh | tookGate | linedUp | gotGate | replaced
  | kept | unkept | left | reuseGranted | reuseFailed | openGranted | reachedHttp1 | reachedHttp2
  | reachedOther | exchanged | lost => exact .none

theorem leases_unwind {p : Phase} {o : Outcome} (hl : Loss p e o) :
    (p.unwind o).leases = p.leases := by
  cases hl with
  | cancelled hc => cases p <;> simp_all [Phase.unwind, Phase.leases, Phase.heedsCancel]
  | abandoned hr => cases p <;> simp_all [Phase.unwind, Phase.leases, Phase.isResting]
  | _ => rfl

/-- The tunnels of a group that an event hands over. -/
theorem handed_turn {gated : Bool} {o : Outcome} (hx : h.dials[d]? = some x)
    (hp : x.phase = .leaving gated o) (g : Nat) :
    (h.handed (.turn d)).toList.countP (fun y => y.mux.lease == some g) =
      (Phase.leaving gated o).leases.count g := by
  have hq : h.phase? d = some (.leaving gated o) := by simp [phase?, hx, hp]
  cases o with
  | stream g' => simp [handed, hq, MuxTunnel.ofLease, Phase.leases, List.count_singleton]
  | plain | failed | givenUp => simp [handed, hq, Phase.leases]

theorem handed_eq_none (hx : h.dials[d]? = some x) (he : e.dial? = some d)
    (hp : ∀ gated o, x.phase ≠ .leaving gated o) : h.handed e = none := by
  cases e with
  | turn d' =>
    cases he
    have hq : h.phase? d = some x.phase := by simp [phase?, hx]
    simp only [handed, hq]
    split
    · rename_i gated g hh
      exact absurd (Option.some.inj hh) (hp _ _)
    · rfl
  | _ => rfl

/-- The books balance over a move: what the ledger gains, the slot, the dial or the caller of the
dial has in exchange. -/
theorem Move.balance (hm : Move now accepts h d x e x' s) (hx : h.dials[d]? = some x)
    (hpos : ∀ g, h.pool.slot = some g ∨ g ∈ x.phase.leases → 0 < h.pool.ledger.holders g)
    (g : Nat) :
    s.pool.ledger.holders g + h.pool.slot.toList.count g + x.phase.leases.count g =
      h.pool.ledger.holders g + s.pool.slot.toList.count g + x'.phase.leases.count g
        + (h.handed e).toList.countP (fun y => y.mux.lease == some g) := by
  have quiet {y : Dial} (hd : e.dial? = some d) (hp : ∀ gated o, x.phase ≠ .leaving gated o)
      (hl : ∀ g, y.phase.leases.count g = x.phase.leases.count g) :
      h.pool.ledger.holders g + h.pool.slot.toList.count g + x.phase.leases.count g =
        h.pool.ledger.holders g + h.pool.slot.toList.count g + y.phase.leases.count g
          + (h.handed e).toList.countP (fun y => y.mux.lease == some g) := by
    rw [handed_eq_none hx hd hp, hl]
    rfl
  cases hm with
  | @found gated g' hp hs hu =>
    have hg := hpos g' (.inl hs)
    rw [handed_eq_none hx rfl (by simp [hp])]
    simp only [Pool.retain, Ledger.holders_retain (Ledger.holders_retain_pos hg),
      Ledger.holders_retain hg, hp, Phase.leases, List.count_cons, List.count_nil, beq_iff_eq,
      Option.toList_none, List.countP_nil]
    omega
  | @gaveBack g' p hp =>
    have hg := Ledger.holders_release (hpos g' (.inr (by simp [hp, Phase.leases]))) g
    rw [handed_eq_none hx rfl (by simp [hp])]
    simp only [Pool.release, hp, Phase.leases, List.count_cons, beq_iff_eq, Option.toList_none,
      List.countP_nil]
    omega
  | @built gated transport hp =>
    rw [handed_eq_none hx rfl (by simp [hp])]
    simp only [Pool.retain, Pool.issue, Ledger.holders_retain (Ledger.holders_issue_pos _ _),
      Ledger.holders_issue, hp, Phase.leases, List.count_cons, List.count_nil, beq_iff_eq,
      Option.toList_none, List.countP_nil]
    omega
  | @left gated o hp =>
    rw [handed_turn hx hp, hp]
    simp only [Phase.leases, List.count_nil]
    omega
  | @evicted gated g' hp hs =>
    rw [handed_eq_none hx rfl (by simp [hp])]
    simp only [Pool.vacate, hp, hs, Phase.leases, List.count_cons, List.count_nil, beq_iff_eq,
      Option.toList_some, Option.toList_none, List.countP_nil]
    omega
  | @replaced gated g' old hp hr hs =>
    rw [handed_eq_none hx rfl (by simp [hp])]
    simp only [Pool.fill, hp, hs, Phase.leases, List.count_cons, List.count_nil, beq_iff_eq,
      Option.toList_some, Option.toList_none, List.countP_nil]
    omega
  | @kept gated g' hp hr hs =>
    rw [handed_eq_none hx rfl (by simp [hp])]
    simp only [Pool.fill, hp, hs, Phase.leases, List.count_cons, List.count_nil, beq_iff_eq,
      Option.toList_some, Option.toList_none, List.countP_nil]
    omega
  | lost hd hl =>
    refine quiet hd (fun gated o hp => ?_) fun g => by rw [leases_unwind hl]
    rw [hp] at hl
    cases hl <;> simp_all [Phase.heedsCancel, Phase.isResting]
  | reuseFailed hp hd => exact quiet hd (by simp [hp]) (by simp [hp, Phase.leases])
  | missed hp | outlived hp | approached hp | wentFresh hp | tookGate hp | linedUp hp | gotGate hp
  | unkept hp | reuseGranted hp | openGranted hp | reachedHttp1 hp | reachedHttp2 hp
  | reachedOther hp | exchanged hp => exact quiet rfl (by simp [hp]) (by simp [hp, Phase.leases])

end Hub

namespace Custody

variable {c : Custody} {e : CustodyEvent}

/-- The ledger counts everything that holds a lease, and is tidy. -/
structure Accounted (c : Custody) : Prop where
  tidy : c.ledger.Tidy
  holders_eq : ∀ g, c.ledger.holders g = c.holdersOf g

theorem accounted_start (timeout : Nat) (reuse : Bool) : (start timeout reuse).Accounted where
  tidy := Ledger.tidy_empty
  holders_eq _ := rfl

theorem Accounted.pos_of_slot (ha : c.Accounted) {g : Nat} (hs : c.hub.pool.slot = some g) :
    0 < c.ledger.holders g := by
  have hone : (some g).toList.count g = 1 := List.count_singleton_self
  rw [ha.holders_eq, holdersOf, hs, hone]
  omega

theorem Accounted.pos_of_dial (ha : c.Accounted) {d g : Nat} {x : Dial}
    (hx : c.hub.dials[d]? = some x) (hg : g ∈ x.phase.leases) : 0 < c.ledger.holders g := by
  have h1 := Hub.count_le_held hx g
  have h2 := List.count_pos_iff.mpr hg
  rw [ha.holders_eq, holdersOf]
  omega

theorem Accounted.pos_of_tunnel (ha : c.Accounted) {g : Nat} {x : HeldTunnel}
    (hx : x ∈ c.tunnels) (hg : x.mux.lease = some g) : 0 < c.ledger.holders g := by
  have h1 : 0 < c.tunnels.countP (fun x => x.mux.lease == some g) :=
    List.countP_pos_iff.mpr ⟨x, hx, by simp [hg]⟩
  rw [ha.holders_eq, holdersOf]
  omega

theorem Accounted.pos_of_lease (ha : c.Accounted) {g : Nat} (hg : g ∈ c.leases) :
    0 < c.ledger.holders g := by
  have h1 := List.count_pos_iff.mpr hg
  rw [ha.holders_eq, holdersOf]
  omega

/-- The event reaches a lease of the group: in the slot, with its dial, in a tunnel or cloned. -/
def Reach (c : Custody) (e : CustodyEvent) (g : Nat) : Prop :=
  c.hub.pool.slot = some g ∨
    (∃ d x, e.dial? = some d ∧ c.hub.dials[d]? = some x ∧ g ∈ x.phase.leases) ∨
    (∃ x ∈ c.tunnels, x.mux.lease = some g) ∨ g ∈ c.leases

theorem Accounted.pos_of_reach (ha : c.Accounted) {g : Nat} (hg : c.Reach e g) :
    0 < c.ledger.holders g := by
  rcases hg with hs | ⟨d, x, _, hx, hg⟩ | ⟨x, hx, hg⟩ | hg
  · exact ha.pos_of_slot hs
  · exact ha.pos_of_dial hx hg
  · exact ha.pos_of_tunnel hx hg
  · exact ha.pos_of_lease hg

/-- What an event does to the ledger and who gains by it. -/
structure Fair (e : CustodyEvent) (c c' : Custody) : Prop where
  change : c.ledger.Change (c.Reach e) c'.ledger
  balance : ∀ g, c'.ledger.holders g + c.holdersOf g = c.ledger.holders g + c'.holdersOf g

theorem Fair.refl (e : CustodyEvent) (c : Custody) : Fair e c c := ⟨.none, fun _ => rfl⟩

theorem Accounted.fair {c' : Custody} (ha : c.Accounted) (hf : Fair e c c') : c'.Accounted where
  tidy := ha.tidy.change (fun _ => ha.pos_of_reach) hf.change
  holders_eq g := by
    have h1 := hf.balance g
    have h2 := ha.holders_eq g
    omega

/-- A tunnel lets its lease go. -/
theorem Accounted.fair_release (ha : c.Accounted) {t g : Nat} {x : HeldTunnel} {ch : Channel}
    {m : MuxTunnel} (hx : c.tunnels[t]? = some x) (hg : x.mux.lease = some g)
    (hm : m.lease = none) : Fair e c (c.put t m ch (c.hub.pool.release g)) := by
  have hmem := List.mem_of_getElem? hx
  have hpos := ha.pos_of_tunnel hmem hg
  refine ⟨.returned (.inr (.inr (.inl ⟨x, hmem, hg⟩))), fun g' => ?_⟩
  have h1 := Ledger.holders_release hpos g'
  have h2 := countP_set hx ⟨m, ch⟩ fun y => y.mux.lease == some g'
  simp only [hg, hm, beq_iff_eq, Option.some.injEq, reduceCtorEq, if_false] at h2
  simp only [put, holdersOf, ledger, Pool.release, Hub.held] at h1 ⊢
  omega

theorem Accounted.fair_dial (ha : c.Accounted) (now : Nat) (accepts : Nat → Bool)
    (e : DialEvent) : Fair (.dial now accepts e) c (c.step (.dial now accepts e)) := by
  rcases Hub.step_cases now accepts c.hub e with
    ⟨hs, hn⟩ | ⟨cancelled, request, rfl, hs⟩ | ⟨rfl, hs⟩ | ⟨d, x, x', s, hd, hx, hm, hs⟩
  · have hc : c.step (.dial now accepts e) = c := by simp [step, hs, hn]
    rw [hc]
    exact .refl _ c
  · refine ⟨by rw [ledger, ledger, step, hs]; exact .none, fun g => ?_⟩
    have hentry : (c.hub.entry cancelled).leases = [] := by
      rcases c.hub.entry_eq cancelled with he | he | he <;> rw [he] <;> rfl
    simp [step, hs, holdersOf, ledger, Hub.held, Hub.handed, Dial.start, hentry]
  · cases hk : c.hub.pool.slot with
    | none =>
      have hp : c.hub.pool.clear = c.hub.pool := by simp [Pool.clear, hk]
      have hc : c.step (.dial now accepts .cleared) = c := by simp [step, hs, hp, Hub.handed]
      rw [hc]
      exact .refl _ c
    | some g =>
      have hpos := ha.pos_of_slot hk
      have hp : c.hub.pool.clear = c.hub.pool.vacate.release g := by simp [Pool.clear, hk]
      refine ⟨by rw [ledger, ledger, step, hs, hp]; exact .returned (.inl hk), fun g' => ?_⟩
      have hr := Ledger.holders_release hpos g'
      simp only [step, hs, hp, holdersOf, ledger, Hub.held, Hub.handed, Pool.release, Pool.vacate,
        hk, Option.toList_some, Option.toList_none, List.count_cons, List.count_nil, beq_iff_eq,
        List.append_nil] at hr ⊢
      omega
  · have hpos (g : Nat) (hg : c.hub.pool.slot = some g ∨ g ∈ x.phase.leases) :
        0 < c.hub.pool.ledger.holders g := hg.elim ha.pos_of_slot (ha.pos_of_dial hx)
    have hreach (g : Nat) (hg : c.hub.pool.slot = some g ∨ g ∈ x.phase.leases) :
        c.Reach (.dial now accepts e) g := hg.imp_right fun hg => .inl ⟨d, x, hd, hx, hg⟩
    refine ⟨by rw [ledger, ledger, step, hs]; exact hm.ledger_change.mono hreach, fun g => ?_⟩
    have hb := hm.balance hx hpos g
    have hh : (s.setDial d fun _ => x').held g + x.phase.leases.count g =
        c.hub.held g + x'.phase.leases.count g := hm.sum_eq hx fun y => y.phase.leases.count g
    simp only [step, hs, holdersOf, ledger, List.countP_append, Hub.setDial] at hb hh ⊢
    omega

theorem put_self {t : Nat} {x : HeldTunnel} (hx : c.tunnels[t]? = some x) :
    c.put t x.mux x.channel c.hub.pool = c := by
  have hset : c.tunnels.set t ⟨x.mux, x.channel⟩ = c.tunnels := set_of_getElem? hx
  simp only [put, hset]

/-- A tunnel without a lease changes in other ways. -/
theorem fair_put {t : Nat} {x : HeldTunnel} {ch : Channel} {m : MuxTunnel}
    (hx : c.tunnels[t]? = some x) (hg : x.mux.lease = none) (hm : m.lease = none) :
    Fair e c (c.put t m ch c.hub.pool) := by
  refine ⟨.none, fun g => ?_⟩
  have h1 := countP_set hx ⟨m, ch⟩ fun y => y.mux.lease == some g
  simp only [hg, hm] at h1
  simp only [put, holdersOf, ledger, Hub.held]
  omega

theorem Accounted.fair_close (ha : c.Accounted) {t : Nat} {x : HeldTunnel}
    (hx : c.tunnels[t]? = some x) :
    Fair e c (c.put t (x.mux.close x.channel c.hub.pool).1 (x.mux.close x.channel c.hub.pool).2.1
      (x.mux.close x.channel c.hub.pool).2.2) := by
  cases hg : x.mux.lease with
  | none =>
    simp only [MuxTunnel.close, hg]
    exact fair_put hx hg rfl
  | some g =>
    simp only [MuxTunnel.close, hg]
    exact ha.fair_release hx hg rfl

theorem Accounted.fair_clone (ha : c.Accounted) (g : Nat) :
    Fair (.clone g) c (c.step (.clone g)) := by
  simp only [step]
  split
  · rename_i hreach
    have hg : c.Reach (.clone g) g := by
      simp only [reaches, Bool.or_eq_true, List.contains_iff_mem, List.any_eq_true,
        beq_iff_eq] at hreach
      exact .inr (.inr hreach.symm)
    have hpos := ha.pos_of_reach hg
    refine ⟨.taken hg, fun g' => ?_⟩
    have hr := Ledger.holders_retain hpos g'
    simp only [holdersOf, ledger, Hub.held, Pool.retain, List.count_cons, beq_iff_eq] at hr ⊢
    omega
  · exact .refl _ c

theorem Accounted.fair_giveBack (ha : c.Accounted) (g : Nat) :
    Fair (.giveBack g) c (c.step (.giveBack g)) := by
  simp only [step]
  split
  · rename_i hg
    have hmem : g ∈ c.leases := by simpa using hg
    have hpos := ha.pos_of_lease hmem
    refine ⟨.returned (.inr (.inr (.inr hmem))), fun g' => ?_⟩
    have hr := Ledger.holders_release hpos g'
    have hc := count_erase_add hmem g'
    simp only [holdersOf, ledger, Hub.held, Pool.release] at hr ⊢
    omega
  · exact .refl _ c

/-- Every event keeps the books. -/
theorem Accounted.fair_step (ha : c.Accounted) (e : CustodyEvent) : Fair e c (c.step e) := by
  cases e with
  | dial now accepts e => exact ha.fair_dial now accepts e
  | close t =>
    cases hx : c.tunnels[t]? with
    | none =>
      simp only [step, hx]
      exact .refl _ c
    | some x =>
      simp only [step, hx]
      exact ha.fair_close hx
  | closeTransport t =>
    cases hx : c.tunnels[t]? with
    | none =>
      simp only [step, hx]
      exact .refl _ c
    | some x =>
      simp only [step, hx]
      rcases x.mux.closeTransport_eq x.channel ha.tidy with he | he
      · rw [he]
        exact ha.fair_close hx
      · rw [he, put_self hx]
        exact .refl _ c
  | clone g => exact ha.fair_clone g
  | giveBack g => exact ha.fair_giveBack g

theorem Accounted.step (ha : c.Accounted) (e : CustodyEvent) : (c.step e).Accounted :=
  ha.fair (ha.fair_step e)

theorem Accounted.after (ha : c.Accounted) (es : List CustodyEvent) : (c.after es).Accounted := by
  induction es generalizing c with
  | nil => exact ha
  | cons e es ih => exact ih (ha.step e)

theorem accounted_run (timeout : Nat) (reuse : Bool) (es : List CustodyEvent) :
    (run timeout reuse es).Accounted := (accounted_start timeout reuse).after es

end Custody
end TunnelDial
