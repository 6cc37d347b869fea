import TunnelDial.Proofs.Dial.Closing

/-! Why the kept transport changes. A dial puts its own transport into the slot after that answered
it, and takes the kept one out after that failed it; nothing else but clearing touches the slot, so
what left it does not come back. -/
namespace TunnelDial

/-- The group of the dial's own transport after that answered, until it is kept. -/
def Phase.proven : Phase → Option Nat
  | keeping _ g => some g
  | dropping _ p => p.proven
  | _ => none

/-- The group of the kept transport that failed the dial, until that is out of the slot. -/
def Phase.condemned : Phase → Option Nat
  | evicting _ g => some g
  | dropping _ p => p.condemned
  | _ => none

@[simp] theorem Phase.proven_unwind (p : Phase) (o : Outcome) : (p.unwind o).proven = none := by
  cases p <;> rfl

@[simp] theorem Phase.condemned_unwind (p : Phase) (o : Outcome) :
    (p.unwind o).condemned = none := by cases p <;> rfl

namespace Hub

variable {now : Nat} {accepts : Nat → Bool} {h s : Hub} {d : Nat} {x x' : Dial} {e : DialEvent}

theorem Move.proven {g : Nat} (hm : Move now accepts h d x e x' s)
    (hg : x'.phase.proven = some g) :
    x.phase.proven = some g ∨
      e = .answered d .granted ∧ ∃ gated t, x.phase = .opening gated g t := by
  cases hm with
  | lost => simp at hg
  | gaveBack hp => exact .inl (by rw [hp]; exact hg)
  | @openGranted gated g' t hp =>
    obtain rfl : g' = g := by simpa [Phase.proven] using hg
    exact .inr ⟨rfl, gated, t, hp⟩
  | _ => simp [Phase.proven] at hg

theorem Move.condemned {g : Nat} (hm : Move now accepts h d x e x' s)
    (hg : x'.phase.condemned = some g) :
    x.phase.condemned = some g ∨
      KeptFailure e ∧ e.dial? = some d ∧ ∃ gated t, x.phase = .reusing gated g t := by
  cases hm with
  | lost => simp at hg
  | gaveBack hp => exact .inl (by rw [hp]; exact hg)
  | @reuseFailed gated g' t _ hp hd hk =>
    obtain rfl : g' = g := by simpa [Phase.condemned] using hg
    exact .inr ⟨hk, hd, gated, t, hp⟩
  | _ => simp [Phase.condemned] at hg

/-- How a dial is to end does not change any more. -/
theorem Move.outcome {o : Outcome} (hm : Move now accepts h d x e x' s)
    (ho : x.phase.outcome? = some o) : x'.phase.outcome? = some o := by
  cases hm with
  | lost hd hl =>
    rw [hl.outcome?_eq_none] at ho
    cases ho
  | gaveBack hp | left hp =>
    rw [hp] at ho
    exact ho
  | found hp | missed hp | evicted hp | outlived hp | approached hp | wentFresh hp | tookGate hp
  | linedUp hp | gotGate hp | replaced hp | kept hp | unkept hp | reuseGranted hp | reuseFailed hp
  | openGranted hp | reachedHttp1 hp | reachedHttp2 hp | reachedOther hp | exchanged hp
  | built hp => simp [hp, Phase.outcome?] at ho

/-- A move that changes the slot puts in the dial's own transport, or takes out the one that failed
the dial. -/
theorem Move.slot (hm : Move now accepts h d x e x' s) :
    s.pool.slot = h.pool.slot ∨
    (∃ gated g, e = .turn d ∧ x.phase = .keeping gated g ∧ s.pool.slot = some g ∧ x'.own = x.own ∧
      x'.phase.outcome? = some (.stream g)) ∨
    ∃ gated g, e = .turn d ∧ x.phase = .evicting gated g ∧ h.pool.slot = some g ∧
      s.pool.slot = none ∧ x'.phase.outcome? = none := by
  cases hm with
  | @evicted gated g hp hs => exact .inr (.inr ⟨gated, g, rfl, hp, hs, rfl, rfl⟩)
  | @replaced gated g _ hp | @kept gated g hp =>
    exact .inr (.inl ⟨gated, g, rfl, hp, rfl, rfl, rfl⟩)
  | _ => exact .inl rfl

end Hub

namespace Custody

variable {c : Custody} {e : CustodyEvent} {timeout : Nat} {reuse : Bool} {es : List CustodyEvent}

/-- At some time of the run, the event happened in a state as said. -/
def Happened (timeout : Nat) (reuse : Bool) (es : List CustodyEvent)
    (P : Custody → CustodyEvent → Prop) : Prop :=
  ∃ pre e post, es = pre ++ e :: post ∧ P (run timeout reuse pre) e

theorem Happened.concat {P : Custody → CustodyEvent → Prop} (hp : Happened timeout reuse es P)
    (e : CustodyEvent) : Happened timeout reuse (es ++ [e]) P := by
  obtain ⟨pre, e', post, rfl, hp⟩ := hp
  exact ⟨pre, e', post ++ [e], by simp, hp⟩

theorem Happened.last {P : Custody → CustodyEvent → Prop} (hp : P (run timeout reuse es) e) :
    Happened timeout reuse (es ++ [e]) P := ⟨es, e, [], rfl, hp⟩

/-- What happened in a longer run happened before, or by its last event. -/
theorem Happened.of_concat {P : Custody → CustodyEvent → Prop}
    (hp : Happened timeout reuse (es ++ [e]) P) :
    Happened timeout reuse es P ∨ P (run timeout reuse es) e := by
  obtain ⟨pre, e', post, hes, hp⟩ := hp
  rcases post.eq_nil_or_concat with rfl | ⟨post, e'', rfl⟩
  · obtain ⟨rfl, he⟩ := List.append_inj' hes rfl
    cases he
    exact .inr hp
  · rw [List.concat_eq_append, ← List.cons_append, ← List.append_assoc] at hes
    obtain ⟨rfl, _⟩ := List.append_inj' hes rfl
    exact .inl ⟨pre, e', post, rfl, hp⟩

/-- The dial's own transport answered its request with success. -/
def Granted (d g : Nat) (c : Custody) (e : CustodyEvent) : Prop :=
  (∃ now accepts, e = .dial now accepts (.answered d .granted)) ∧
    ∃ gated t, c.hub.phase? d = some (.opening gated g t)

/-- The dial's request on the kept transport failed, other than by cancellation. -/
def Failed (d g : Nat) (c : Custody) (e : CustodyEvent) : Prop :=
  (∃ now accepts e', e = .dial now accepts e' ∧ e'.dial? = some d ∧ KeptFailure e') ∧
    ∃ gated t, c.hub.phase? d = some (.reusing gated g t)

/-- What the dials are about to do to the slot has its reason in the run. -/
structure Grounded (timeout : Nat) (reuse : Bool) (es : List CustodyEvent) : Prop where
  proven : ∀ (d : Nat) (x : Dial) (g : Nat), (run timeout reuse es).hub.dials[d]? = some x →
    x.phase.proven = some g → Happened timeout reuse es (Granted d g)
  condemned : ∀ (d : Nat) (x : Dial) (g : Nat), (run timeout reuse es).hub.dials[d]? = some x →
    x.phase.condemned = some g → Happened timeout reuse es (Failed d g)

theorem grounded_run (timeout : Nat) (reuse : Bool) (es : List CustodyEvent) :
    Grounded timeout reuse es where
  proven d x g hx hg := by
    refine dial_run (P := fun es x => x.phase.proven = some g →
      Happened timeout reuse es (Granted d g)) ?_ ?_ ?_ es hx hg
    · intro _ h cancelled _ hg
      rcases h.entry_eq cancelled with he | he | he <;> simp [Dial.start, he, Phase.proven] at hg
    · exact fun _ e _ hold hg => (hold hg).concat e
    · intro _ now accepts e y x s hy hm _ hold hg
      rcases hm.proven hg with hyg | ⟨rfl, gated, t, hp⟩
      · exact (hold hyg).concat _
      · exact .last ⟨⟨_, _, rfl⟩, gated, t, Hub.phase?_eq_some.mpr ⟨y, hy, hp⟩⟩
  condemned d x g hx hg := by
    refine dial_run (P := fun es x => x.phase.condemned = some g →
      Happened timeout reuse es (Failed d g)) ?_ ?_ ?_ es hx hg
    · intro _ h cancelled _ hg
      rcases h.entry_eq cancelled with he | he | he <;> simp [Dial.start, he, Phase.condemned] at hg
    · exact fun _ e _ hold hg => (hold hg).concat e
    · intro _ now accepts e y x s hy hm _ hold hg
      rcases hm.condemned hg with hyg | ⟨hk, hd, gated, t, hp⟩
      · exact (hold hyg).concat _
      · exact .last ⟨⟨_, _, _, rfl, hd, hk⟩, gated, t, Hub.phase?_eq_some.mpr ⟨y, hy, hp⟩⟩

/-- The slot changes in a turn of a dial that keeps its transport or takes out the one that failed
it, or when it is cleared. -/
theorem slot_step (c : Custody) (e : CustodyEvent) :
    (c.step e).hub.pool.slot = c.hub.pool.slot ∨
    (∃ now accepts d x x' gated g, e = .dial now accepts (.turn d) ∧ c.hub.dials[d]? = some x ∧
      (c.step e).hub.dials[d]? = some x' ∧ x.phase = .keeping gated g ∧ x'.own = x.own ∧
      x'.phase.outcome? = some (.stream g) ∧ (c.step e).hub.pool.slot = some g) ∨
    (∃ now accepts d x x' gated g, e = .dial now accepts (.turn d) ∧ c.hub.dials[d]? = some x ∧
      (c.step e).hub.dials[d]? = some x' ∧ x.phase = .evicting gated g ∧
      x'.phase.outcome? = none ∧ c.hub.pool.slot = some g ∧ (c.step e).hub.pool.slot = none) ∨
    ∃ now accepts, e = .dial now accepts .cleared ∧ (c.step e).hub.pool.slot = none := by
  rcases hub_step c e with ⟨now, accepts, e', rfl, hs⟩ | ⟨_, hs, _⟩
  · rcases Hub.step_cases now accepts c.hub e' with
      ⟨hh, _⟩ | ⟨cancelled, request, rfl, hh⟩ | ⟨rfl, hh⟩ | ⟨d, x, x', s, _, hx, hm, hh⟩
    · exact .inl (by rw [hs, hh])
    · exact .inl (by rw [hs, hh])
    · refine .inr (.inr (.inr ⟨now, accepts, rfl, ?_⟩))
      rw [hs, hh]
      change c.hub.pool.clear.slot = none
      unfold Pool.clear
      split
      · rfl
      · assumption
    · have hx' : (c.step (.dial now accepts e')).hub.dials[d]? = some x' := by
        rw [hs, hh, hm.getElem?_eq hx, if_pos rfl]
      have hslot : (c.step (.dial now accepts e')).hub.pool.slot = s.pool.slot := by
        rw [hs, hh, Hub.setDial]
      rw [hslot]
      rcases hm.slot with
        hsame | ⟨gated, g, rfl, hp, hg, hown, ho⟩ | ⟨gated, g, rfl, hp, hg, hn, ho⟩
      · exact .inl hsame
      · exact .inr (.inl ⟨now, accepts, d, x, x', gated, g, rfl, hx, hx', hp, hown, ho, hg⟩)
      · exact .inr (.inr (.inl ⟨now, accepts, d, x, x', gated, g, rfl, hx, hx', hp, ho, hg, hn⟩))
  · exact .inl (by rw [hs])

/-- What is in the slot was there before, or was just kept by the dial that opened it. -/
theorem slot_step_some {g : Nat} (hg : (c.step e).hub.pool.slot = some g) :
    c.hub.pool.slot = some g ∨
      ∃ (d : Nat) (x x' : Dial) (gated : Bool), c.hub.dials[d]? = some x ∧
        (c.step e).hub.dials[d]? = some x' ∧ x.phase = .keeping gated g ∧ x'.own = x.own ∧
        x'.phase.outcome? = some (.stream g) := by
  rcases slot_step c e with
    hsame | ⟨_, _, d, x, x', gated, g', _, hx, hx', hp, hown, hout, hslot⟩ |
      ⟨_, _, _, _, _, _, _, _, _, _, _, _, _, hnone⟩ | ⟨_, _, _, hnone⟩
  · exact .inl (hsame ▸ hg)
  · obtain rfl : g' = g := Option.some.inj (hslot.symm.trans hg)
    exact .inr ⟨d, x, x', gated, hx, hx', hp, hown, hout⟩
  · rw [hnone] at hg
    cases hg
  · rw [hnone] at hg
    cases hg

theorem outcome_after {d : Nat} {x : Dial} {o : Outcome} (hx : c.hub.dials[d]? = some x)
    (ho : x.phase.outcome? = some o) (es : List CustodyEvent) :
    ∃ y, (c.after es).hub.dials[d]? = some y ∧ y.phase.outcome? = some o := by
  induction es generalizing c x with
  | nil => exact ⟨x, hx, ho⟩
  | cons e es ih =>
    obtain ⟨y, hy, rfl | ⟨_, _, _, _, hm⟩⟩ := dial_step hx e
    · exact ih hy ho
    · exact ih hy (hm.outcome ho)

/-- The dial that opened the transport has done with it. -/
def Spent (c : Custody) (g : Nat) : Prop :=
  ∃ (d : Nat) (x : Dial), c.hub.dials[d]? = some x ∧ x.own = some g ∧
    x.phase.outcome?.isSome = true

theorem Owning.spent_step (ho : c.Owning) {g : Nat} (hs : c.Spent g) (e : CustodyEvent) :
    (c.step e).Spent g := by
  obtain ⟨d, x, hx, hg, hout⟩ := hs
  obtain ⟨o, hout⟩ := Option.isSome_iff_exists.mp hout
  obtain ⟨y, hy, rfl | ⟨_, _, _, _, hm⟩⟩ := dial_step hx e
  · exact ⟨d, y, hy, hg, by rw [hout]; rfl⟩
  · rcases hm.own_eq (ho.placed d x hx) with ⟨hown, _⟩ | ⟨hnone, _⟩
    · exact ⟨d, y, hy, hown.trans hg, by rw [hm.outcome hout]; rfl⟩
    · rw [hnone] at hg
      cases hg

theorem Owning.own_of_keeping (ho : c.Owning) {d g : Nat} {x : Dial} {gated : Bool}
    (hx : c.hub.dials[d]? = some x) (hp : x.phase = .keeping gated g) : x.own = some g :=
  (ho.placed d x hx).owner g (by rw [hp]; rfl)

/-- A transport that is put into the slot is spent from then on. -/
theorem Owning.slot_spent_step (ho : c.Owning)
    (hs : ∀ g, c.hub.pool.slot = some g → c.Spent g) (e : CustodyEvent) {g : Nat}
    (hg : (c.step e).hub.pool.slot = some g) : (c.step e).Spent g := by
  rcases slot_step_some hg with hold | ⟨d, x, x', _, hx, hx', hp, hown, hout⟩
  · exact ho.spent_step (hs g hold) e
  · exact ⟨d, x', hx', hown.trans (ho.own_of_keeping hx hp), by rw [hout]; rfl⟩

theorem spent_of_slot (timeout : Nat) (reuse : Bool) (es : List CustodyEvent) {g : Nat}
    (hg : (run timeout reuse es).hub.pool.slot = some g) : (run timeout reuse es).Spent g := by
  induction es using List.reverseRecOn generalizing g with
  | nil => cases hg
  | append_singleton es e ih =>
    rw [run_concat] at hg ⊢
    exact (owning_run timeout reuse es).slot_spent_step (fun _ => ih) e hg

/-- No dial puts a spent transport into the slot. -/
theorem Owning.slot_ne_step (ho : c.Owning) {g : Nat} (hs : c.Spent g)
    (hg : c.hub.pool.slot ≠ some g) (e : CustodyEvent) : (c.step e).hub.pool.slot ≠ some g := by
  intro hg'
  rcases slot_step_some hg' with hold | ⟨d, x, _, _, hx, _, hp, _⟩
  · exact hg hold
  · obtain ⟨i, y, hy, hyg, hout⟩ := hs
    cases ho.own_unique d i x y g hx hy (ho.own_of_keeping hx hp) hyg
    cases hx.symm.trans hy
    rw [hp] at hout
    cases hout

theorem spent_after (hc : ∃ pre, c = run timeout reuse pre) {g : Nat} (hs : c.Spent g)
    (es : List CustodyEvent) : (c.after es).Spent g := by
  induction es generalizing c with
  | nil => exact hs
  | cons e es ih =>
    obtain ⟨pre, rfl⟩ := hc
    exact ih ⟨pre ++ [e], (run_concat ..).symm⟩ ((owning_run timeout reuse pre).spent_step hs e)

theorem slot_ne_after (hc : ∃ pre, c = run timeout reuse pre) {g : Nat} (hs : c.Spent g)
    (hg : c.hub.pool.slot ≠ some g) (es : List CustodyEvent) :
    (c.after es).hub.pool.slot ≠ some g := by
  induction es generalizing c with
  | nil => exact hg
  | cons e es ih =>
    obtain ⟨pre, rfl⟩ := hc
    have ho := owning_run timeout reuse pre
    exact ih ⟨pre ++ [e], (run_concat ..).symm⟩ (ho.spent_step hs e) (ho.slot_ne_step hs hg e)

theorem granted_of_slot (timeout : Nat) (reuse : Bool) (es : List CustodyEvent) {g : Nat}
    (hg : (run timeout reuse es).hub.pool.slot = some g) :
    ∃ d, Happened timeout reuse es (Granted d g) := by
  induction es using List.reverseRecOn generalizing g with
  | nil => cases hg
  | append_singleton es e ih =>
    rw [run_concat] at hg
    rcases slot_step_some hg with hold | ⟨d, x, _, _, hx, _, hp, _⟩
    · obtain ⟨d, hd⟩ := ih hold
      exact ⟨d, hd.concat e⟩
    · have hproven : x.phase.proven = some g := by rw [hp]; rfl
      exact ⟨d, ((grounded_run timeout reuse es).proven d x g hx hproven).concat e⟩

/-- In every run the slot changes only when a dial keeps its own transport, which had answered it,
when a dial takes out the transport that failed it, which must still be there, or when it is
cleared. So a dial that is to end without a stream leaves the slot alone, as do its fresh
negotiations; what is in the slot had answered; and what left it stays out. -/
theorem run_slot (timeout : Nat) (reuse : Bool) (es : List CustodyEvent) :
    let c := run timeout reuse es
    (∀ e, (c.step e).hub.pool.slot = c.hub.pool.slot ∨
      (∃ now accepts d x gated g, e = .dial now accepts (.turn d) ∧ c.hub.dials[d]? = some x ∧
        x.phase = .keeping gated g ∧ x.own = some g ∧ Happened timeout reuse es (Granted d g) ∧
        (c.step e).hub.pool.slot = some g) ∨
      (∃ now accepts d gated g, e = .dial now accepts (.turn d) ∧
        c.hub.phase? d = some (.evicting gated g) ∧ Happened timeout reuse es (Failed d g) ∧
        c.hub.pool.slot = some g ∧ (c.step e).hub.pool.slot = none) ∨
      ∃ now accepts, e = .dial now accepts .cleared ∧ (c.step e).hub.pool.slot = none) ∧
    (∀ e d x o, e.dial? = some d → (c.step e).hub.dials[d]? = some x →
      x.phase.outcome? = some o → (∀ g, o ≠ .stream g) →
        (c.step e).hub.pool.slot = c.hub.pool.slot) ∧
    (∀ pre e post d x y o, es = pre ++ e :: post → e.dial? = some d →
      (run timeout reuse pre).hub.dials[d]? = some x → x.phase.isFresh = true →
      c.hub.dials[d]? = some y → y.phase.outcome? = some o → (∀ g, o ≠ .stream g) →
        (run timeout reuse (pre ++ [e])).hub.pool.slot = (run timeout reuse pre).hub.pool.slot) ∧
    (∀ g, c.hub.pool.slot = some g → ∃ d, Happened timeout reuse es (Granted d g)) ∧
    ∀ pre mid post g, es = pre ++ mid ++ post → (run timeout reuse pre).hub.pool.slot = some g →
      (run timeout reuse (pre ++ mid)).hub.pool.slot ≠ some g → c.hub.pool.slot ≠ some g := by
  intro c
  have ho : c.Owning := owning_run timeout reuse es
  have hgr := grounded_run timeout reuse es
  refine ⟨fun e => ?_, fun e d x o hd hx hout hne => ?_, ?_, ?_, ?_⟩
  · rcases slot_step c e with
      hsame | ⟨now, accepts, d, x, _, gated, g, rfl, hx, _, hp, _, _, hg⟩ |
        ⟨now, accepts, d, x, _, gated, g, rfl, hx, _, hp, _, hg, hn⟩ | hcleared
    · exact .inl hsame
    · have hproven : x.phase.proven = some g := by rw [hp]; rfl
      exact .inr (.inl ⟨now, accepts, d, x, gated, g, rfl, hx, hp, ho.own_of_keeping hx hp,
        hgr.proven d x g hx hproven, hg⟩)
    · have hcondemned : x.phase.condemned = some g := by rw [hp]; rfl
      exact .inr (.inr (.inl ⟨now, accepts, d, gated, g, rfl, Hub.phase?_eq_some.mpr ⟨x, hx, hp⟩,
        hgr.condemned d x g hx hcondemned, hg, hn⟩))
    · exact .inr (.inr (.inr hcleared))
  · rcases slot_step c e with
      hsame | ⟨_, _, i, _, x', _, g, rfl, _, hx', _, _, hout', _⟩ |
        ⟨_, _, i, _, x', _, g, rfl, _, hx', _, hout', _⟩ | ⟨_, _, rfl, _⟩
    · exact hsame
    · cases hd
      cases hx.symm.trans hx'
      exact absurd (Option.some.inj (hout.symm.trans hout')) (hne g)
    · cases hd
      cases hx.symm.trans hx'
      rw [hout'] at hout
      cases hout
    · cases hd
  · rintro pre e post d x y o hes hd hx hfresh hy hout hne
    have hafter : c = ((run timeout reuse pre).step e).after post := by
      rw [← run_concat, ← run_append, List.append_assoc]
      exact congrArg _ hes
    rw [run_concat]
    rcases slot_step (run timeout reuse pre) e with
      hsame | ⟨_, _, i, _, x', _, g, rfl, _, hx', _, _, hout', _⟩ |
        ⟨_, _, i, x', _, _, _, rfl, hx', _, hp, _⟩ | ⟨_, _, rfl, _⟩
    · exact hsame
    · cases hd
      -- the dial would have ended with a stream, and an outcome does not change
      obtain ⟨z, hz, hzo⟩ := outcome_after hx' hout' post
      rw [← hafter] at hz
      cases hy.symm.trans hz
      exact absurd (Option.some.inj (hout.symm.trans hzo)) (hne g)
    · cases hd
      cases hx.symm.trans hx'
      rw [hp] at hfresh
      cases hfresh
    · cases hd
  · intro g hg
    exact granted_of_slot timeout reuse es hg
  · rintro pre mid post g hes hg hout
    have hafter : c = (run timeout reuse (pre ++ mid)).after post := by
      rw [← run_append]
      exact congrArg _ hes
    have hspent : (run timeout reuse (pre ++ mid)).Spent g := by
      rw [run_append]
      exact spent_after ⟨pre, rfl⟩ (spent_of_slot timeout reuse pre hg) mid
    rw [hafter]
    exact slot_ne_after ⟨_, rfl⟩ hspent hout post

/-- A dial that opens a transport of its own and keeps it. -/
def keptRun : List CustodyEvent :=
  let turn : CustodyEvent := .dial 0 (fun _ => true) (.turn 0)
  openingRun ++ [.dial 0 (fun _ => true) (.answered 0 .granted), turn, turn]

theorem run_slot_cleared :
    (∃ d, Happened 10 true keptRun (Granted d 0)) ∧
      (run 10 true (keptRun ++ [.dial 0 (fun _ => true) .cleared] ++ [])).hub.pool.slot ≠
        some 0 := by
  have hkept : (run 10 true keptRun).hub.pool.slot = some 0 := by decide
  have hcleared : (run 10 true (keptRun ++ [.dial 0 (fun _ => true) .cleared])).hub.pool.slot ≠
      some 0 := by decide
  exact ⟨(run_slot 10 true keptRun).2.2.2.1 0 hkept,
    (run_slot 10 true _).2.2.2.2 keptRun _ [] 0 rfl hkept hcleared⟩

end Custody
end TunnelDial
