import TunnelDial.Proofs.Dial.Attempts
import TunnelDial.Proofs.Dial.Gate

/-! Negotiations behind the gate. A dial that comes to the gate looks for the kept transport once
more, with the gate in hand, and negotiates only after that came to nothing. As long as nobody
agreed on HTTP/1.1 with the proxy there is no other way, so one dial at a time negotiates; and the
gate is a dial's from the event that lets the dial past it until the dial ends. -/
namespace TunnelDial

/-- The dial has not ended. -/
def Phase.isLive : Phase → Bool
  | ended _ => false
  | _ => true

/-- The dial began to negotiate afresh, and has not ended. -/
def Dial.isNegotiating (x : Dial) : Bool := 0 < x.established && x.phase.isLive

/-- The group that a dial found in the slot with the gate in hand, while it waits for the answer or
has to put up with it. -/
def Phase.found : Phase → Option Nat
  | reusing true g _ => some g
  | evicting true g => some g
  | dropping _ p => p.found
  | _ => none

/-- What the dial looked for with the gate in hand came to nothing. -/
def Phase.isDenied : Phase → Bool
  | passing gated => gated
  | dropping _ p => p.isDenied
  | _ => false

@[simp] theorem Phase.found_unwind (p : Phase) (o : Outcome) : (p.unwind o).found = none := by
  cases p <;> rfl

@[simp] theorem Phase.isDenied_unwind (p : Phase) (o : Outcome) : (p.unwind o).isDenied = false := by
  cases p <;> rfl

@[simp] theorem Phase.isLive_unwind (p : Phase) (o : Outcome) : (p.unwind o).isLive = true := by
  cases p <;> rfl

theorem Loss.isLive {p : Phase} {e : DialEvent} {o : Outcome} (hl : Loss p e o) :
    p.isLive = true := by
  cases p with
  | ended o' => cases hl.outcome?_eq_none
  | _ => rfl

theorem Phase.isLive_of_stands {p : Phase} (hs : p.stands = true) : p.isLive = true := by
  cases p with
  | ended o => cases hs
  | _ => rfl

namespace Hub

variable {now : Nat} {accepts : Nat → Bool} {h s : Hub} {d : Nat} {x x' : Dial} {e : DialEvent}

/-- A dial that has ended does nothing more. -/
theorem Move.isLive (hm : Move now accepts h d x e x' s) : x.phase.isLive = true := by
  cases hm with
  | lost _ hl => exact hl.isLive
  | found hp | missed hp | evicted hp | outlived hp | approached hp | wentFresh hp | tookGate hp
  | linedUp hp | gotGate hp | replaced hp | kept hp | unkept hp | gaveBack hp | left hp
  | reuseGranted hp | reuseFailed hp | openGranted hp | reachedHttp1 hp | reachedHttp2 hp
  | reachedOther hp | exchanged hp | built hp => rw [hp]; rfl

/-- Only a dial that ends lets the gate go. -/
theorem Move.holder {i : Nat} (hm : Move now accepts h d x e x' s) (hi : h.gate.holder = some i) :
    s.gate.holder = some i ∨ d = i ∧ x'.phase.isLive = false := by
  cases hm with
  | tookGate hp hh =>
    rw [hh] at hi
    cases hi
  | linedUp => exact .inl (by rw [Gate.holder_enter, hi]; rfl)
  | left =>
    by_cases hd : d = i
    · exact .inr ⟨hd, rfl⟩
    · exact .inl (Gate.holder_leave_of_ne hi hd)
  | _ => exact .inl hi

/-- That a dial agreed on HTTP/1.1 does not change any more. -/
theorem Move.exchanges (hm : Move now accepts h d x e x' s) (hb : x.Bounded)
    (hx : x.exchanges = true) : x'.exchanges = true := by
  have early (h1 : x.phase.stage ≤ 2) : x'.exchanges = true := by
    rw [(hb.unbuilt h1).2] at hx
    cases hx
  cases hm with
  | reachedHttp1 hp | reachedHttp2 hp | reachedOther hp => exact early (by simp [hp, Phase.stage])
  | _ => exact hx

/-- HTTP/1.1 is noted as the protocol of the proxy by a dial that agreed on it. -/
theorem Move.known_http1 (hm : Move now accepts h d x e x' s) (hk : s.known = some .http1) :
    h.known = some .http1 ∨ x'.exchanges = true := by
  cases hm with
  | reachedHttp1 hp hc => exact .inr (by simp [Dial.exchanges, hc])
  | reachedHttp2 => cases hk
  | _ => exact .inl hk

/-- Where HTTP/1.1 is not known, a dial that negotiates has the gate in hand. -/
theorem Move.gated_of_established (hm : Move now accepts h d x e x' s) (hb : x.Bounded)
    (hr : h.reuse = true) (hk : h.known ≠ some .http1)
    (hx : 0 < x.established → x.phase.isLive = true → x.phase.gated = true)
    (h0 : 0 < x'.established) (hlive : x'.phase.isLive = true) : x'.phase.gated = true := by
  have early (hs : x.phase.stage = 0) (h0 : 0 < x.established) : x'.phase.gated = true := by
    rw [hb.early hs] at h0
    cases h0
  cases hm with
  | wentFresh hp hwhy =>
    rcases hwhy with hg | hr' | hk'
    · exact hg
    · rw [hr] at hr'
      cases hr'
    · exact absurd hk' hk
  | left => cases hlive
  | lost hd hl =>
    rw [Phase.gated_unwind]
    exact hx h0 hl.isLive
  | found hp | missed hp | evicted hp | outlived hp | approached hp | tookGate hp | linedUp hp
  | gotGate hp | reuseGranted hp | reuseFailed hp => exact early (by rw [hp]; rfl) h0
  | replaced hp | kept hp | unkept hp | gaveBack hp | openGranted hp | reachedHttp1 hp
  | reachedHttp2 hp | reachedOther hp | exchanged hp | built hp =>
    have hg := hx h0 (by rw [hp]; rfl)
    rw [hp] at hg
    exact hg

/-- A dial begins to negotiate after it passed the gate by, or with the gate in hand. -/
theorem Move.of_established_lt (hm : Move now accepts h d x e x' s)
    (hlt : x.established < x'.established) :
    ∃ gated, x.phase = .passing gated ∧
      (gated = true ∨ h.reuse = false ∨ h.known = some .http1) := by
  cases hm with
  | @wentFresh gated hp hwhy => exact ⟨gated, hp, hwhy⟩
  | _ => exact absurd hlt (Nat.lt_irrefl _)

theorem Move.found_of {g : Nat} (hm : Move now accepts h d x e x' s)
    (hg : x'.phase.found = some g) :
    x.phase.found = some g ∨ e = .turn d ∧ x.phase = .seeking true ∧ h.pool.slot = some g ∧
      h.pool.usable accepts g = true := by
  cases hm with
  | @found gated g' hp hs hu =>
    cases gated with
    | false => cases hg
    | true =>
      obtain rfl : g' = g := Option.some.inj hg
      exact .inr ⟨rfl, hp, hs, hu⟩
  | lost => simp at hg
  | gaveBack hp => exact .inl (by rw [hp]; exact hg)
  | @reuseFailed gated g' t e hp =>
    cases gated with
    | false => cases hg
    | true => exact .inl (by rw [hp]; exact hg)
  | _ => simp [Phase.found] at hg

/-- What a dial found with the gate in hand fails it, or had failed it before. -/
theorem Move.condemned_of_found {g : Nat} (hm : Move now accepts h d x e x' s)
    (hg : x'.phase.condemned = some g) (hgated : x'.phase.gated = true) :
    x.phase.condemned = some g ∧ x.phase.gated = true ∨
      KeptFailure e ∧ e.dial? = some d ∧ ∃ t, x.phase = .reusing true g t := by
  cases hm with
  | lost => simp at hg
  | gaveBack hp => exact .inl (by rw [hp]; exact ⟨hg, hgated⟩)
  | @reuseFailed gated g' t e hp hd hk =>
    obtain rfl : gated = true := hgated
    obtain rfl : g' = g := Option.some.inj hg
    exact .inr ⟨hk, hd, t, hp⟩
  | _ => simp [Phase.condemned] at hg

/-- A dial is denied behind the gate by a lookup that finds nothing, or after what it found failed
it. -/
theorem Move.isDenied_of (hm : Move now accepts h d x e x' s) (hden : x'.phase.isDenied = true) :
    x.phase.isDenied = true ∨
    (e = .turn d ∧ x.phase = .seeking true ∧ (h.pool.lookup accepts).2 = none) ∨
    ∃ g, x.phase = .evicting true g := by
  cases hm with
  | missed hp hl =>
    obtain rfl := hden
    exact .inr (.inl ⟨rfl, hp, hl⟩)
  | @evicted gated g hp | @outlived gated g hp =>
    obtain rfl : gated = true := hden
    exact .inr (.inr ⟨g, hp⟩)
  | gaveBack hp => exact .inl (by rw [hp]; exact hden)
  | lost => simp at hden
  | _ => simp [Phase.isDenied] at hden

end Hub

namespace Custody

variable {c : Custody} {e : CustodyEvent} {timeout : Nat} {reuse : Bool} {es : List CustodyEvent}

/-- With the gate in hand, the dial looked into the slot and found a transport that could carry
another stream. -/
def Found (d g : Nat) (c : Custody) (e : CustodyEvent) : Prop :=
  c.hub.gate.holder = some d ∧ c.hub.phase? d = some (.seeking true) ∧
    ∃ now accepts, e = .dial now accepts (.turn d) ∧ c.hub.pool.slot = some g ∧
      c.hub.pool.usable accepts g = true

/-- With the gate in hand, the dial looked into the slot and found no such transport. -/
def Missed (d : Nat) (c : Custody) (e : CustodyEvent) : Prop :=
  c.hub.gate.holder = some d ∧ c.hub.phase? d = some (.seeking true) ∧
    ∃ now accepts, e = .dial now accepts (.turn d) ∧
      ∀ g, c.hub.pool.slot = some g → c.hub.pool.usable accepts g = false

/-- With the gate in hand, the dial looked into the slot in vain: nothing there could carry another
stream, or what it found failed it. -/
def Denied (timeout : Nat) (reuse : Bool) (es : List CustodyEvent) (d : Nat) : Prop :=
  Happened timeout reuse es (Missed d) ∨
    ∃ g, Happened timeout reuse es (Found d g) ∧
      Happened timeout reuse es fun c e => c.hub.gate.holder = some d ∧ Failed d g c e

/-- The event lets the dial past the gate. -/
def Admitted (d : Nat) (c : Custody) (e : CustodyEvent) : Prop :=
  c.hub.gate.holder ≠ some d ∧ (c.step e).hub.gate.holder = some d

theorem Denied.concat {d : Nat} (hd : Denied timeout reuse es d) (e : CustodyEvent) :
    Denied timeout reuse (es ++ [e]) d :=
  hd.imp (fun hm => hm.concat e) fun ⟨g, hf, hk⟩ => ⟨g, hf.concat e, hk.concat e⟩

theorem found_of_phase (timeout : Nat) (reuse : Bool) (es : List CustodyEvent) {d g : Nat}
    {x : Dial} (hx : (run timeout reuse es).hub.dials[d]? = some x)
    (hg : x.phase.found = some g) : Happened timeout reuse es (Found d g) := by
  refine dial_run (P := fun es x => x.phase.found = some g →
    Happened timeout reuse es (Found d g)) ?_ ?_ ?_ es hx hg
  · intro _ h cancelled _ hg
    rcases h.entry_eq cancelled with he | he | he <;> simp [Dial.start, he, Phase.found] at hg
  · exact fun _ e _ hold hg => (hold hg).concat e
  · intro es now accepts e y x s hy hm _ hold hg
    rcases hm.found_of hg with hyg | ⟨rfl, hp, hs, hu⟩
    · exact (hold hyg).concat _
    · have hholds := (guarded_run timeout reuse es).holds d y hy (by rw [hp]; rfl)
      exact .last ⟨hholds, Hub.phase?_eq_some.mpr ⟨y, hy, hp⟩, _, _, rfl, hs, hu⟩

theorem failed_of_phase (timeout : Nat) (reuse : Bool) (es : List CustodyEvent) {d g : Nat}
    {x : Dial} (hx : (run timeout reuse es).hub.dials[d]? = some x)
    (hg : x.phase.condemned = some g) (hgated : x.phase.gated = true) :
    Happened timeout reuse es fun c e => c.hub.gate.holder = some d ∧ Failed d g c e := by
  refine dial_run (P := fun es x => x.phase.condemned = some g → x.phase.gated = true →
    Happened timeout reuse es fun c e => c.hub.gate.holder = some d ∧ Failed d g c e) ?_ ?_ ?_ es
    hx hg hgated
  · intro _ h cancelled _ hg
    rcases h.entry_eq cancelled with he | he | he <;> simp [Dial.start, he, Phase.condemned] at hg
  · exact fun _ e _ hold hg hgated => (hold hg hgated).concat e
  · intro es now accepts e y x s hy hm _ hold hg hgated
    rcases hm.condemned_of_found hg hgated with ⟨hyg, hygated⟩ | ⟨hk, hd, t, hp⟩
    · exact (hold hyg hygated).concat _
    · have hholds := (guarded_run timeout reuse es).holds d y hy (by rw [hp]; rfl)
      exact .last ⟨hholds, ⟨_, _, _, rfl, hd, hk⟩, true, t, Hub.phase?_eq_some.mpr ⟨y, hy, hp⟩⟩

theorem denied_of_phase (timeout : Nat) (reuse : Bool) (es : List CustodyEvent) {d : Nat}
    {x : Dial} (hx : (run timeout reuse es).hub.dials[d]? = some x)
    (hden : x.phase.isDenied = true) : Denied timeout reuse es d := by
  refine dial_run (P := fun es x => x.phase.isDenied = true → Denied timeout reuse es d)
    ?_ ?_ ?_ es hx hden
  · intro _ h cancelled _ hden
    rcases h.entry_eq cancelled with he | he | he <;> simp [Dial.start, he, Phase.isDenied] at hden
  · exact fun _ e _ hold hden => (hold hden).concat e
  · intro es now accepts e y x s hy hm _ hold hden
    rcases hm.isDenied_of hden with hyden | ⟨rfl, hp, hl⟩ | ⟨g, hp⟩
    · exact (hold hyden).concat _
    · have hholds := (guarded_run timeout reuse es).holds d y hy (by rw [hp]; rfl)
      refine .inl (.last ⟨hholds, Hub.phase?_eq_some.mpr ⟨y, hy, hp⟩, _, accepts, rfl, ?_⟩)
      intro g hg
      cases hu : (run timeout reuse es).hub.pool.usable accepts g with
      | false => rfl
      | true => simp [Pool.lookup, hg, hu] at hl
    · have hf := found_of_phase timeout reuse es hy (g := g) (by rw [hp]; rfl)
      have hk := failed_of_phase timeout reuse es hy (g := g) (by rw [hp]; rfl) (by rw [hp]; rfl)
      exact .inr ⟨g, hf.concat _, hk.concat _⟩

/-- No dial agreed on HTTP/1.1 with the proxy. -/
def Unplain (c : Custody) : Prop := ∀ x ∈ c.hub.dials, x.exchanges = false

theorem unplain_of_concat (hu : (run timeout reuse (es ++ [e])).Unplain) :
    (run timeout reuse es).Unplain := by
  intro x hx
  obtain ⟨d, hd⟩ := List.mem_iff_getElem?.mp hx
  obtain ⟨y, hy, hsame⟩ := dial_step hd e
  rw [run_concat] at hu
  have hyn := hu y (List.mem_of_getElem? hy)
  rcases hsame with rfl | ⟨_, _, _, _, hm⟩
  · exact hyn
  · by_contra hxe
    have hye := hm.exchanges (bounded_run timeout reuse es hd) (by simpa using hxe)
    rw [hyn] at hye
    cases hye

/-- HTTP/1.1 is known only where a dial agreed on it. -/
theorem Unplain.known_ne (hu : (run timeout reuse es).Unplain) :
    (run timeout reuse es).hub.known ≠ some .http1 := by
  induction es using List.reverseRecOn with
  | nil => nofun
  | append_singleton es e ih =>
    have hold := ih (unplain_of_concat hu)
    rw [run_concat] at hu ⊢
    rcases gate_step (run timeout reuse es) e with
      ⟨_, hknown, _⟩ | ⟨_, _, _, d, x, y, s, hx, hm, hs⟩
    · rwa [hknown]
    · intro hk
      rw [hs] at hk
      rcases hm.known_http1 hk with hk | hy
      · exact hold hk
      · have hmem := List.mem_of_getElem? ((hm.getElem?_eq hx d).trans (if_pos rfl))
        rw [Unplain, hs] at hu
        rw [hu y hmem] at hy
        cases hy

theorem reuse_run (timeout : Nat) (reuse : Bool) (es : List CustodyEvent) :
    (run timeout reuse es).hub.reuse = reuse := by
  induction es using List.reverseRecOn with
  | nil => rfl
  | append_singleton es e ih =>
    rw [run_concat]
    rcases gate_step (run timeout reuse es) e with
      ⟨_, _, hreuse⟩ | ⟨_, _, _, d, x, y, s, _, hm, hs⟩
    · rw [hreuse, ih]
    · rw [hs]
      exact hm.reuse_eq.trans ih

/-- As long as no dial agreed on HTTP/1.1, a dial that negotiates has the gate in hand. -/
theorem gated_of_negotiating (hu : (run timeout true es).Unplain) {d : Nat} {x : Dial}
    (hx : (run timeout true es).hub.dials[d]? = some x) (h0 : 0 < x.established)
    (hlive : x.phase.isLive = true) : x.phase.gated = true := by
  refine dial_run (P := fun es x => (run timeout true es).Unplain → 0 < x.established →
    x.phase.isLive = true → x.phase.gated = true) ?_ ?_ ?_ es hx hu h0 hlive
  · intro _ _ _ _ _ h0
    cases h0
  · exact fun _ _ _ hold hu => hold (unplain_of_concat hu)
  · intro es _ _ _ y _ _ hy hm _ hold hu h0 hlive
    have hold' := unplain_of_concat hu
    exact hm.gated_of_established (bounded_run timeout true es hy) (reuse_run timeout true es)
      hold'.known_ne (hold hold') h0 hlive

theorem holder_step {d : Nat} (hd : c.hub.gate.holder = some d) (e : CustodyEvent) :
    (c.step e).hub.gate.holder = some d ∨
      ∃ y, (c.step e).hub.dials[d]? = some y ∧ y.phase.isLive = false := by
  rcases gate_step c e with ⟨hgate, _⟩ | ⟨_, _, _, i, x, y, s, hx, hm, hs⟩
  · exact .inl (by rwa [hgate])
  · rw [hs]
    rcases hm.holder hd with hsame | ⟨rfl, hlive⟩
    · exact .inl hsame
    · exact .inr ⟨y, (hm.getElem?_eq hx i).trans (if_pos rfl), hlive⟩

theorem live_of_line (timeout : Nat) (reuse : Bool) (es : List CustodyEvent) {d : Nat}
    (hd : d ∈ (run timeout reuse es).hub.gate.line) :
    ∃ x, (run timeout reuse es).hub.dials[d]? = some x ∧ x.phase.isLive = true := by
  obtain ⟨x, hx, hs⟩ := (guarded_run timeout reuse es).stands d hd
  exact ⟨x, hx, Phase.isLive_of_stands hs⟩

/-- A dial that was let past the gate has it in hand, or has ended. -/
theorem holder_or_ended {d : Nat} (ha : Happened timeout reuse es (Admitted d)) :
    ∃ x, (run timeout reuse es).hub.dials[d]? = some x ∧
      ((run timeout reuse es).hub.gate.holder = some d ∨ x.phase.isLive = false) := by
  induction es using List.reverseRecOn with
  | nil =>
    obtain ⟨pre, e, post, hes, _⟩ := ha
    simp at hes
  | append_singleton es e ih =>
    rcases ha.of_concat with ha | ⟨_, hnow⟩
    · obtain ⟨x, hx, hstate⟩ := ih ha
      obtain ⟨y, hy, hsame⟩ := dial_step hx e
      rw [run_concat]
      refine ⟨y, hy, ?_⟩
      rcases hstate with hholds | hended
      · rcases holder_step hholds e with hholds | ⟨z, hz, hended⟩
        · exact .inl hholds
        · cases hy.symm.trans hz
          exact .inr hended
      · rcases hsame with rfl | ⟨_, _, _, _, hm⟩
        · exact .inr hended
        · rw [hm.isLive] at hended
          cases hended
    · rw [← run_concat] at hnow
      obtain ⟨x, hx, _⟩ := live_of_line timeout reuse (es ++ [e]) (Gate.mem_line_of_holder hnow)
      exact ⟨x, hx, .inl hnow⟩

theorem admitted_of_holder {d : Nat} (hd : (run timeout reuse es).hub.gate.holder = some d) :
    Happened timeout reuse es (Admitted d) := by
  induction es using List.reverseRecOn with
  | nil => cases hd
  | append_singleton es e ih =>
    by_cases hold : (run timeout reuse es).hub.gate.holder = some d
    · exact (ih hold).concat e
    · rw [run_concat] at hd
      exact .last ⟨hold, hd⟩

/-- The gate is in the hand of the one dial that was let past it and has not ended. -/
theorem holder_iff (timeout : Nat) (reuse : Bool) (es : List CustodyEvent) (d : Nat) :
    (run timeout reuse es).hub.gate.holder = some d ↔
      Happened timeout reuse es (Admitted d) ∧
        ∃ x, (run timeout reuse es).hub.dials[d]? = some x ∧ x.phase.isLive = true := by
  constructor
  · intro hd
    exact ⟨admitted_of_holder hd, live_of_line timeout reuse es (Gate.mem_line_of_holder hd)⟩
  · rintro ⟨ha, x, hx, hlive⟩
    obtain ⟨y, hy, hstate⟩ := holder_or_ended ha
    cases hx.symm.trans hy
    refine hstate.resolve_right fun hended => ?_
    rw [hlive] at hended
    cases hended

/-- As long as no dial agreed on HTTP/1.1, and whatever else the dials do and come to: one dial at a
time negotiates afresh; it has the gate in hand, and it began after it looked into the slot with the
gate in hand, in vain. The gate is free whenever no dial under way was let past it, and a dial that
has ended neither holds it nor waits for it. -/
theorem run_exclusive (timeout : Nat) (es : List CustodyEvent)
    (hu : (run timeout true es).Unplain) :
    let c := run timeout true es
    (∀ (d i : Nat) (x y : Dial), c.hub.dials[d]? = some x → c.hub.dials[i]? = some y →
      x.isNegotiating = true → y.isNegotiating = true → d = i) ∧
    (∀ (d : Nat) (x : Dial), c.hub.dials[d]? = some x → x.isNegotiating = true →
      x.phase.gated = true ∧ c.hub.gate.holder = some d) ∧
    (∀ (e : CustodyEvent) (d : Nat) (x y : Dial), c.hub.dials[d]? = some x →
      (c.step e).hub.dials[d]? = some y → x.established < y.established →
        c.hub.gate.holder = some d ∧ Denied timeout true es d) ∧
    (c.hub.gate.holder = none ↔ ∀ (d : Nat) (x : Dial), c.hub.dials[d]? = some x →
      x.phase.isLive = true → ¬Happened timeout true es (Admitted d)) ∧
    ∀ (d : Nat) (x : Dial), c.hub.dials[d]? = some x → x.phase.isLive = false →
      d ∉ c.hub.gate.line := by
  intro c
  have hg : c.hub.Guarded := guarded_run timeout true es
  have hgated {d : Nat} {x : Dial} (hx : c.hub.dials[d]? = some x) (hn : x.isNegotiating = true) :
      x.phase.gated = true := by
    simp only [Dial.isNegotiating, Bool.and_eq_true, decide_eq_true_eq] at hn
    exact gated_of_negotiating hu hx hn.1 hn.2
  refine ⟨?_, ?_, ?_, ?_, ?_⟩
  · intro d i x y hx hy hxn hyn
    exact hg.unique hx hy (hgated hx hxn) (hgated hy hyn)
  · intro d x hx hn
    exact ⟨hgated hx hn, hg.holds d x hx (hgated hx hn)⟩
  · intro e d x y hx hy hlt
    rcases dial_step hx e with ⟨z, hz, rfl | ⟨now, accepts, e', s, hm⟩⟩
    · cases hy.symm.trans hz
      exact absurd hlt (Nat.lt_irrefl _)
    · cases hy.symm.trans hz
      obtain ⟨gated, hp, hwhy⟩ := hm.of_established_lt hlt
      obtain rfl : gated = true := by
        rcases hwhy with hgate | hr | hk
        · exact hgate
        · rw [reuse_run timeout true es] at hr
          cases hr
        · exact absurd hk hu.known_ne
      exact ⟨hg.holds d x hx (by rw [hp]; rfl),
        denied_of_phase timeout true es hx (by rw [hp]; rfl)⟩
  · rw [Option.eq_none_iff_forall_ne_some]
    constructor
    · intro hfree d x hx hlive ha
      exact hfree d ((holder_iff timeout true es d).mpr ⟨ha, x, hx, hlive⟩)
    · intro hnone d hd
      obtain ⟨ha, x, hx, hlive⟩ := (holder_iff timeout true es d).mp hd
      exact hnone d x hx hlive ha
  · intro d x hx hended hline
    obtain ⟨y, hy, hlive⟩ := live_of_line timeout true es hline
    cases hx.symm.trans hy
    rw [hended] at hlive
    cases hlive

/-- Two dials come; the first one has looked into the slot with the gate in hand, the second one
waits for the gate. -/
def enteringRun : List CustodyEvent :=
  let on (e : DialEvent) : CustodyEvent := .dial 0 (fun _ => true) e
  let come := on (.arrive false ⟨"example.org:443", .empty⟩)
  [come, come] ++ List.replicate 4 (on (.turn 0)) ++ List.replicate 4 (on (.turn 1))

theorem run_exclusive_entering :
    (run 10 true enteringRun).Unplain ∧ Denied 10 true enteringRun 0 ∧
      Happened 10 true enteringRun (Admitted 0) := by
  have hu : (run 10 true enteringRun).Unplain := by unfold Unplain; decide
  let x : Dial := .start ⟨"example.org:443", .empty⟩ (.passing true)
  let y : Dial := { x with phase := .establishing true, established := 1 }
  let e : CustodyEvent := .dial 0 (fun _ => true) (.turn 0)
  have hx : (run 10 true enteringRun).hub.dials[0]? = some x := by decide
  have hy : ((run 10 true enteringRun).step e).hub.dials[0]? = some y := by decide
  obtain ⟨_, _, hentered, _, _⟩ := run_exclusive 10 enteringRun hu
  obtain ⟨hholder, hdenied⟩ := hentered e 0 x y hx hy (by decide)
  exact ⟨hu, hdenied, admitted_of_holder hholder⟩

end Custody
end TunnelDial
