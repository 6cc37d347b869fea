import TunnelDial.Dial.Clock
import TunnelDial.Proofs.Dial.Waiting

/-! Dials that wait for long. Time passes only up to the first deadline of a request, so a dial on a
new HTTP/2 connection ends in time once its transport is built. The building has no deadline:
however long it takes, the dial keeps the gate, and others wait there. -/
namespace TunnelDial

namespace Hub

variable {now later bound : Nat} {accepts : Nat → Bool} {h s : Hub} {d : Nat} {x y : Dial}
  {e : DialEvent}

theorem Move.timeout_eq (hm : h.Move now accepts d x e y s) : s.timeout = h.timeout := by
  cases hm <;> rfl

theorem timeout_step (now : Nat) (accepts : Nat → Bool) (h : Hub) (e : DialEvent) :
    (h.step now accepts e).timeout = h.timeout := by
  rcases step_cases now accepts h e with
    ⟨hs, _⟩ | ⟨_, _, _, hs⟩ | ⟨_, hs⟩ | ⟨_, _, _, _, _, _, hm, hs⟩
  · rw [hs]
  · rw [hs]
  · rw [hs]
  · rw [hs]
    exact hm.timeout_eq

/-- A dial that builds its transport leaves that only by the answer, or because it is called off. -/
theorem Move.of_connecting {gated : Bool} (hm : h.Move now accepts d x e y s)
    (hp : x.phase = .connecting gated) (he : e.dial? = some d) :
    (∃ r, e = .connected d r) ∨ e = .cancelled d ∨ e = .abandoned d := by
  cases hm with
  | built => exact .inl ⟨_, rfl⟩
  | lost _ hl =>
    rw [hp] at hl
    cases hl with
    | unbuilt =>
      cases he
      exact .inl ⟨_, rfl⟩
    | cancelled =>
      cases he
      exact .inr (.inl rfl)
    | abandoned =>
      cases he
      exact .inr (.inr rfl)
  | _ => simp_all

/-- The dial has ended, or it is not past the bound, and by then its outcome is sure or its request
has its deadline. -/
def Due (bound now : Nat) (p : Phase) : Prop :=
  (∃ o, p = .ended o) ∨
    now ≤ bound ∧ ((∃ o, p.sure = some o) ∨ ∃ gated g t, p = .opening gated g t ∧ t ≤ bound)

theorem Due.move {t' : Nat} (hdue : Due bound t' x.phase) (hm : h.Move now accepts d x e y s) :
    Due bound t' y.phase := by
  rcases hdue with ⟨o, ho⟩ | ⟨hle, ⟨o, ho⟩ | ⟨gated, g, t, hp, ht⟩⟩
  · have hlive := hm.isLive
    rw [ho] at hlive
    cases hlive
  · exact .inr ⟨hle, .inl ⟨o, hm.sure ho⟩⟩
  · refine .inr ⟨hle, .inl ?_⟩
    cases hm with
    | openGranted => exact ⟨_, rfl⟩
    | lost =>
      rw [hp]
      exact ⟨_, rfl⟩
    | _ => simp_all

/-- A dial that is due stays so as time passes. -/
theorem Due.pass (hdue : Due bound now x.phase) (hx : h.dials[d]? = some x)
    (hpass : h.Passes now later) : Due bound later x.phase := by
  obtain ⟨hle, hrest⟩ := hpass
  rcases hdue with hended | ⟨hbound, hend⟩
  · exact .inl hended
  · rcases Nat.eq_or_lt_of_le hle with rfl | hlt
    · exact .inr ⟨hbound, hend⟩
    · obtain ⟨hturns, -, hdeadline⟩ := hrest hlt d (List.getElem?_eq_some_iff.mp hx).1 x hx
      rcases hend with ⟨o, ho⟩ | ⟨gated, g, t, hp, ht⟩
      · exact .inl ⟨o, Phase.eq_ended ho hturns⟩
      · have hlater : later ≤ t := hdeadline t (by rw [hp]; rfl)
        exact .inr ⟨Nat.le_trans hlater ht, .inr ⟨gated, g, t, hp, ht⟩⟩

end Hub

namespace Custody

variable {c : Custody} {now last t bound : Nat} {d : Nat} {x : Dial} {gated : Bool}

theorem timeout_run (timeout : Nat) (reuse : Bool) (es : List CustodyEvent) :
    (run timeout reuse es).hub.timeout = timeout :=
  hub_run (P := fun h => h.timeout = timeout) rfl
    (fun h now accepts e hh => (Hub.timeout_step now accepts h e).trans hh) (fun _ _ hh => hh) es

/-- A run up to an event, the event, and the run from there on. -/
theorem Timely.split {pre post : List (Nat × CustodyEvent)} {e : CustodyEvent}
    (h : c.Timely now last (pre ++ (t, e) :: post)) :
    c.Timely now t pre ∧ (∀ s ∈ e.time?, s = t) ∧
      ((c.after (pre.map Prod.snd)).step e).Timely t last post := by
  induction pre generalizing c now with
  | nil => exact h
  | cons e' pre ih =>
    obtain ⟨hpass, htime, hrest⟩ := h
    obtain ⟨hpre, he, hpost⟩ := ih hrest
    exact ⟨⟨hpass, htime, hpre⟩, he, hpost⟩

/-- However much time passes, a dial builds its transport until that is answered or it is called
off. -/
theorem connecting_after (hx : c.hub.dials[d]? = some x) (hp : x.phase = .connecting gated)
    {es : List CustodyEvent} (hes : ∀ e ∈ es, e.answersBuild d = false ∧ e.callsOff d = false) :
    (c.after es).hub.dials[d]? = some x := by
  induction es generalizing c with
  | nil => exact hx
  | cons e es ih =>
    obtain ⟨y, hy, -⟩ := dial_step hx e
    obtain ⟨hanswer, hoff⟩ := hes e (by simp)
    refine ih ?_ fun e' he' => hes e' (List.mem_cons_of_mem _ he')
    rcases getElem?_step hy with
      ⟨_, _, _, _, _, hd, _⟩ | ⟨hy', _⟩ | ⟨_, _, e', _, _, rfl, hd, hx', hm, _⟩
    · exact absurd (List.getElem?_eq_some_iff.mp hx).1 (by omega)
    · rw [hy]
      exact hy'.symm.trans hx
    · cases hx.symm.trans hx'
      rcases hm.of_connecting hp hd with ⟨r, rfl⟩ | rfl | rfl
      · simp [CustodyEvent.answersBuild] at hanswer
      · simp [CustodyEvent.callsOff] at hoff
      · simp [CustodyEvent.callsOff] at hoff

/-- A dial that is due has ended once the bound is past. -/
theorem due_after {es : List (Nat × CustodyEvent)} (ht : c.Timely now last es)
    (hx : c.hub.dials[d]? = some x) (hdue : Hub.Due bound now x.phase) :
    ∃ y, (c.after (es.map Prod.snd)).hub.dials[d]? = some y ∧ Hub.Due bound last y.phase := by
  induction es generalizing c now x with
  | nil => exact ⟨x, hx, hdue.pass hx ht⟩
  | cons e es ih =>
    obtain ⟨hpass, -, hrest⟩ := ht
    have hdue' := hdue.pass hx hpass
    obtain ⟨y, hy, rfl | ⟨_, _, _, _, hm⟩⟩ := dial_step hx e.2
    · exact ih hrest hy hdue'
    · exact ih hrest hy (hdue'.move hm)

theorem connecting_of_established {now : Nat} {accepts : Nat → Bool} {conn : Connection}
    (hp : c.hub.phase? d = some (.establishing gated))
    (hproto : Protocol.ofName conn.protocol = .ok .http2) :
    (c.step (.dial now accepts (.established d (.ok conn)))).hub.phase? d =
      some (.connecting gated) := by
  obtain ⟨x, hx, hq⟩ := Hub.phase?_eq_some.mp hp
  change (c.hub.step now accepts _).phase? d = _
  rw [Hub.step_of_phase hx rfl, hq]
  simp [Hub.onDial, Hub.established, hproto, hx]

/-- Once its transport is built, or was not, a dial has ended when the time limit is over. -/
theorem due_of_connected (hp : c.hub.phase? d = some (.connecting gated)) (now : Nat)
    (accepts : Nat → Bool) (r : Except Failure Nat) :
    ∃ y, (c.step (.dial now accepts (.connected d r))).hub.dials[d]? = some y ∧
      Hub.Due (now + c.hub.timeout) now y.phase := by
  obtain ⟨x, hx, hq⟩ := Hub.phase?_eq_some.mp hp
  have hphase : ∃ p, (c.hub.step now accepts (.connected d r)).phase? d = some p ∧
      Hub.Due (now + c.hub.timeout) now p := by
    rw [Hub.step_of_phase hx rfl, hq]
    cases r with
    | error f =>
      refine ⟨.leaving gated (.failed f), ?_, .inr ⟨Nat.le_add_right .., .inl ⟨_, rfl⟩⟩⟩
      simp [Hub.onDial, Hub.connected, Hub.unwind, Hub.setPhase, Phase.unwind, hx, Phase.gated]
    | ok transport =>
      refine ⟨.opening gated (c.hub.pool.issue transport).2 (now + c.hub.timeout), ?_,
        .inr ⟨Nat.le_add_right .., .inr ⟨_, _, _, rfl, Nat.le_refl _⟩⟩⟩
      simp [Hub.onDial, Hub.connected, hx]
  obtain ⟨p, hp, hdue⟩ := hphase
  obtain ⟨y, hy, rfl⟩ := Hub.phase?_eq_some.mp hp
  exact ⟨y, hy, hdue⟩

theorem gate_of_phase (timeout : Nat) (reuse : Bool) (es : List CustodyEvent) {p : Phase}
    (hp : (run timeout reuse es).hub.phase? d = some p) :
    (p.gated = true → (run timeout reuse es).hub.gate.holder = some d) ∧
      (p.stands = false → (run timeout reuse es).hub.gate.holder ≠ some d) := by
  obtain ⟨x, hx, rfl⟩ := Hub.phase?_eq_some.mp hp
  have hg := guarded_run timeout reuse es
  refine ⟨hg.holds d x hx, fun hs hd => ?_⟩
  obtain ⟨y, hy, hy'⟩ := hg.stands d (Gate.mem_line_of_holder hd)
  cases hx.symm.trans hy
  rw [hs] at hy'
  cases hy'

/-- A dial agreed on HTTP/2 at an instant. Until its transport is built, or it is called off, it
keeps building, with the gate in hand, however much time passes. From the instant at which the
transport is built, or is not, it has ended when the time limit is over, and let the gate go. -/
theorem run_building (timeout : Nat) (reuse : Bool) (before rest : List (Nat × CustodyEvent))
    (d began last : Nat) (gated : Bool) (accepts : Nat → Bool) (conn : Connection)
    (hrun : (start timeout reuse).Timely 0 last
      (before ++ (began, .dial began accepts (.established d (.ok conn))) :: rest))
    (hp : (run timeout reuse (before.map Prod.snd)).hub.phase? d = some (.establishing gated))
    (hproto : Protocol.ofName conn.protocol = .ok .http2) :
    let c := run timeout reuse
      ((before ++ (began, .dial began accepts (.established d (.ok conn))) :: rest).map Prod.snd)
    ((∀ e ∈ rest, e.2.answersBuild d = false ∧ e.2.callsOff d = false) →
      c.hub.phase? d = some (.connecting gated) ∧
        (gated = true → c.hub.gate.holder = some d)) ∧
    ∀ pre post t accepts' r, rest = pre ++ (t, .dial t accepts' (.connected d r)) :: post →
      (∀ e ∈ pre, e.2.answersBuild d = false ∧ e.2.callsOff d = false) → t + timeout < last →
      (∃ o, c.hub.phase? d = some (.ended o)) ∧ c.hub.gate.holder ≠ some d := by
  intro c
  let established : CustodyEvent := .dial began accepts (.established d (.ok conn))
  let c₁ := (run timeout reuse (before.map Prod.snd)).step established
  have hc : c = c₁.after (rest.map Prod.snd) := by
    simp [c, c₁, established, run, after]
  have hbuild : c₁.hub.phase? d = some (.connecting gated) := connecting_of_established hp hproto
  obtain ⟨x, hx, hq⟩ := Hub.phase?_eq_some.mp hbuild
  have hstay {es : List (Nat × CustodyEvent)}
      (hes : ∀ e ∈ es, e.2.answersBuild d = false ∧ e.2.callsOff d = false) :
      (c₁.after (es.map Prod.snd)).hub.phase? d = some (.connecting gated) := by
    refine Hub.phase?_eq_some.mpr ⟨x, connecting_after hx hq fun e he => ?_, hq⟩
    obtain ⟨e', he', rfl⟩ := List.mem_map.mp he
    exact hes e' he'
  constructor
  · intro hrest
    have hphase : c.hub.phase? d = some (.connecting gated) := hc ▸ hstay hrest
    exact ⟨hphase, (gate_of_phase timeout reuse _ hphase).1⟩
  · rintro pre post t accepts' r rfl hpre hlate
    let c₂ := c₁.after (pre.map Prod.snd)
    let connected : CustodyEvent := .dial t accepts' (.connected d r)
    have hafter : c = (c₂.step connected).after (post.map Prod.snd) := by
      rw [hc]
      simp [c₂, connected, after]
    have htimeout : c₂.hub.timeout = timeout := by
      have hrun₂ : c₂ = run timeout reuse (before.map Prod.snd ++ established ::
          pre.map Prod.snd) := by simp [c₂, c₁, run, after]
      rw [hrun₂]
      exact timeout_run ..
    obtain ⟨y, hy, hdue⟩ := due_of_connected (hstay hpre) t accepts' r
    rw [htimeout] at hdue
    obtain ⟨z, hz, hdue⟩ := due_after hrun.split.2.2.split.2.2 hy hdue
    rcases hdue with ⟨o, ho⟩ | ⟨hle, _⟩
    · have hphase : c.hub.phase? d = some (.ended o) :=
        Hub.phase?_eq_some.mpr ⟨z, hafter ▸ hz, ho⟩
      exact ⟨⟨o, hphase⟩, (gate_of_phase timeout reuse _ hphase).2 rfl⟩
    · omega

/-- Three dials have come at once, and the first one has the gate in hand. -/
def linedUp : List (Nat × CustodyEvent) := linedRun.map fun e => (0, e)

/-- The first one agrees on HTTP/2. -/
def agreed : CustodyEvent := .dial 0 (fun _ => true) (.established 0 (.ok ⟨5, "h2"⟩))

/-- Its transport is built after a while, and its request is not answered. -/
def unanswered : List (Nat × CustodyEvent) :=
  let on (t : Nat) (e : DialEvent) : Nat × CustodyEvent := (t, .dial t (fun _ => true) e)
  on 7 (.connected 0 (.ok 3)) :: on 17 (.expired 0) ::
    List.replicate 3 (on 17 (.turn 0)) ++ List.replicate 3 (on 17 (.turn 1))

theorem run_building_unanswered :
    let c := run 10 true ((linedUp ++ (0, agreed) :: unanswered).map Prod.snd)
    (∃ o, c.hub.phase? 0 = some (.ended o)) ∧ c.hub.gate.holder ≠ some 0 := by
  have hrun : (start 10 true).Timely 0 100 (linedUp ++ (0, agreed) :: unanswered) := by decide
  exact (run_building 10 true linedUp unanswered 0 0 100 true (fun _ => true) ⟨5, "h2"⟩ hrun
    (by decide) rfl).2 [] _ 7 (fun _ => true) (.ok 3) rfl (by simp) (by decide)

/-- Nothing bounds the time in which a dial that agreed on HTTP/2 comes to its end, though nobody
calls it off: a hundred time limits later the first dial still builds its transport, with the gate
in hand, and the others are blocked there. -/
theorem building_stalls :
    ((start 10 true).Timely 0 1000 (linedUp ++ [(0, agreed)]) ∧
      (run 10 true ((linedUp ++ [(0, agreed)]).map Prod.snd)).hub.phase? 0 =
        some (.connecting true) ∧
      (run 10 true ((linedUp ++ [(0, agreed)]).map Prod.snd)).hub.gate.holder = some 0 ∧
      (run 10 true ((linedUp ++ [(0, agreed)]).map Prod.snd)).hub.Blocked 1 ∧
      (run 10 true ((linedUp ++ [(0, agreed)]).map Prod.snd)).hub.Blocked 2) ∧
    ¬∀ (timeout : Nat) (reuse : Bool) (before rest : List (Nat × CustodyEvent))
      (d began last : Nat) (gated : Bool) (accepts : Nat → Bool) (conn : Connection),
      (start timeout reuse).Timely 0 last
        (before ++ (began, .dial began accepts (.established d (.ok conn))) :: rest) →
      (run timeout reuse (before.map Prod.snd)).hub.phase? d = some (.establishing gated) →
      Protocol.ofName conn.protocol = .ok .http2 → (∀ e ∈ rest, e.2.callsOff d = false) →
      began + 2 * timeout < last →
      ∃ o, (run timeout reuse ((before ++ (began, .dial began accepts
        (.established d (.ok conn))) :: rest).map Prod.snd)).hub.phase? d = some (.ended o) := by
  have hrun : (start 10 true).Timely 0 1000 (linedUp ++ [(0, agreed)]) := by decide
  have hphase : (run 10 true ((linedUp ++ [(0, agreed)]).map Prod.snd)).hub.phase? 0 =
      some (.connecting true) := by decide
  refine ⟨⟨hrun, hphase, by decide, by decide, by decide⟩, fun hall => ?_⟩
  obtain ⟨o, ho⟩ := hall 10 true linedUp [] 0 0 1000 true (fun _ => true) ⟨5, "h2"⟩ hrun
    (by decide) rfl (by simp) (by decide)
  cases hphase.symm.trans ho

end Custody
end TunnelDial
