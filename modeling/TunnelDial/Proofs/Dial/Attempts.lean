import TunnelDial.Proofs.Dial.Slot

/-! How often a dial tries. In every run a dial asks at most two kept transports and then one of its
own, each of them once: one that failed it is out of the slot and stays out. A transport that grants
a stream settles the dial, and only its own attempt can fail it. -/
namespace TunnelDial

/-- The outcome that a dial in that phase comes to, whatever happens: it is about to end, or its own
transport granted it a stream. -/
def Phase.sure : Phase → Option Outcome
  | keeping _ g => some (.stream g)
  | dropping _ p => p.sure
  | leaving _ o => some o
  | ended o => some o
  | _ => none

/-- The group that a dial in that phase asked last, while it waits for the answer or has to put up
with it. -/
def Phase.current : Phase → Option Nat
  | reusing _ g _ => some g
  | evicting _ g => some g
  | dropping _ p => p.current
  | _ => none

/-- How many kept transports a dial in that phase may have asked. -/
def Phase.tries : Phase → Nat
  | seeking false => 0
  | reusing false _ _ => 1
  | evicting false _ => 1
  | passing false => 1
  | entering => 1
  | queued => 1
  | seeking true => 1
  | dropping _ p => p.tries
  | _ => 2

/-- How far a dial in that phase is with its own attempt: not begun, without a connection, without a
transport, or past that. -/
def Phase.stage : Phase → Nat
  | seeking _ => 0
  | reusing .. => 0
  | evicting .. => 0
  | passing _ => 0
  | entering => 0
  | queued => 0
  | establishing _ => 1
  | connecting _ => 2
  | dropping _ p => p.stage
  | _ => 3

/-- The dial made an exchange on a connection of its own. -/
def Dial.exchanges (x : Dial) : Bool :=
  x.reached.any fun c => Protocol.ofName c.protocol = .ok .http1

/-- How many requests the dial made, on transports and on a connection of its own. -/
def Dial.requests (x : Dial) : Nat := x.asked.length + x.exchanges.toNat

/-- What a dial did so far fits the phase that it is in: it asked kept transports first and then its
own, after one connection at most. -/
structure Dial.Bounded (x : Dial) : Prop where
  kept : x.own = none → x.asked.length ≤ x.phase.tries
  own : ∀ g, x.own = some g → ∃ kept, x.asked = kept ++ [g] ∧ kept.length ≤ 2
  early : x.phase.stage = 0 → x.established = 0
  unreached : x.phase.stage ≤ 1 → x.connects = 0 ∧ x.reached = none
  unbuilt : x.phase.stage ≤ 2 → x.own = none ∧ x.exchanges = false
  established : x.established ≤ 1
  connects : x.connects ≤ 1
  apart : x.exchanges = true → x.own = none

/-- The event ends the dial's own attempt, in that phase, with a failure. -/
inductive OwnFailure : Phase → DialEvent → Failure → Prop
  | unreached {gated d f} : OwnFailure (.establishing gated) (.established d (.error f)) f
  | unsupported {gated d c f} : Protocol.ofName c.protocol = .error f →
      OwnFailure (.establishing gated) (.established d (.ok c)) f
  | exchange {gated k d f} : OwnFailure (.exchanging gated k) (.exchanged d (.error f)) f
  | unbuilt {gated d f} : OwnFailure (.connecting gated) (.connected d (.error f)) f
  | refused {gated g t d code} :
      OwnFailure (.opening gated g t) (.answered d (.refused code)) (Hub.refusal code)
  | failed {gated g t d f} : OwnFailure (.opening gated g t) (.answered d (.failed f)) f
  | expired {gated g t d} : OwnFailure (.opening gated g t) (.expired d) (.deadline "read")

/-- The event settles a dial in that phase with a tunnel: a kept transport or the dial's own granted
a stream, or the exchange on the dial's own connection went well. -/
inductive Serving : Phase → DialEvent → Outcome → Prop
  | reused {gated g t d} : Serving (.reusing gated g t) (.answered d .granted) (.stream g)
  | opened {gated g t d} : Serving (.opening gated g t) (.answered d .granted) (.stream g)
  | exchanged {gated k d} : Serving (.exchanging gated k) (.exchanged d (.ok ())) .plain

theorem Phase.tries_le (p : Phase) : p.tries ≤ 2 := by
  induction p with
  | dropping g p ih => exact ih
  | seeking gated | passing gated => cases gated <;> simp [tries]
  | reusing gated | evicting gated => cases gated <;> simp [tries]
  | _ => simp [tries]

@[simp] theorem Phase.sure_unwind (p : Phase) (o : Outcome) : (p.unwind o).sure = some o := by
  cases p <;> rfl

@[simp] theorem Phase.tries_unwind (p : Phase) (o : Outcome) : (p.unwind o).tries = 2 := by
  cases p <;> rfl

@[simp] theorem Phase.stage_unwind (p : Phase) (o : Outcome) : (p.unwind o).stage = 3 := by
  cases p <;> rfl

theorem Phase.stage_le (p : Phase) : p.stage ≤ 3 := by
  induction p with
  | dropping g p ih => exact ih
  | _ => simp [stage]

theorem Phase.eq_ended {p : Phase} {o : Outcome} (ho : p.sure = some o) (h0 : p.turns = 0) :
    p = .ended o := by
  cases p with
  | ended o' => exact congrArg _ (Option.some.inj ho)
  | keeping | dropping | leaving => cases h0
  | _ => cases ho

theorem Loss.sure_eq_none {p : Phase} {e : DialEvent} {o : Outcome} (hl : Loss p e o) :
    p.sure = none := by
  cases hl with
  | cancelled hc => cases p <;> first | rfl | cases hc
  | abandoned hr => cases p <;> first | rfl | cases hr
  | _ => rfl

theorem Loss.ownFailure {p : Phase} {e : DialEvent} {f : Failure} (hl : Loss p e (.failed f))
    (hf : f ≠ .cancelled) : OwnFailure p e f := by
  cases hl with
  | reuseCancelled | cancelled => exact absurd rfl hf
  | openRefused => exact .refused
  | openFailed => exact .failed
  | openExpired => exact .expired
  | unreached => exact .unreached
  | exchangeFailed => exact .exchange
  | unbuilt => exact .unbuilt

/-- A dial that goes no step back stays within its bounds. -/
theorem Dial.Bounded.withPhase {x : Dial} (hb : x.Bounded) {p : Phase}
    (ht : x.phase.tries ≤ p.tries) (hs : x.phase.stage ≤ p.stage) :
    ({ x with phase := p } : Dial).Bounded where
  kept hn := Nat.le_trans (hb.kept hn) ht
  own := hb.own
  early h0 := hb.early (Nat.le_zero.mp (h0 ▸ hs))
  unreached h1 := hb.unreached (Nat.le_trans hs h1)
  unbuilt h2 := hb.unbuilt (Nat.le_trans hs h2)
  established := hb.established
  connects := hb.connects
  apart := hb.apart

/-- A dial that got a connection, and builds no transport on it, stays within its bounds. -/
theorem Dial.Bounded.withReached {x : Dial} (hb : x.Bounded) {p : Phase} (h1 : x.phase.stage = 1)
    (h3 : p.stage = 3) (h2 : p.tries = 2) (c : Connection) :
    ({ x with phase := p, reached := some c } : Dial).Bounded where
  kept hn := Nat.le_trans (hb.kept hn) (h2 ▸ x.phase.tries_le)
  own := hb.own
  early h0 := absurd (h3.symm.trans h0) (by decide)
  unreached hle := absurd (h3 ▸ hle) (by decide)
  unbuilt hle := absurd (h3 ▸ hle) (by decide)
  established := hb.established
  connects := hb.connects
  apart _ := (hb.unbuilt (by omega)).1

theorem Dial.Bounded.requests_le {x : Dial} (hb : x.Bounded) : x.requests ≤ 3 := by
  have ht := x.phase.tries_le
  have he : x.exchanges.toNat ≤ 1 := Bool.toNat_le _
  unfold requests
  cases ho : x.own with
  | none =>
    have hk := hb.kept ho
    omega
  | some g =>
    obtain ⟨kept, ha, hk⟩ := hb.own g ho
    have hn : x.exchanges = false := by
      by_contra hx
      rw [hb.apart (by simpa using hx)] at ho
      cases ho
    rw [ha, hn, List.length_append]
    simp
    omega

theorem Dial.Bounded.kept_le {x : Dial} (hb : x.Bounded) :
    (x.asked.filter fun g => x.own ≠ some g).length ≤ 2 := by
  cases ho : x.own with
  | none =>
    have hk := hb.kept ho
    have ht := x.phase.tries_le
    have hle := List.length_filter_le (fun g => decide (none ≠ some g)) x.asked
    omega
  | some g =>
    obtain ⟨kept, ha, hk⟩ := hb.own g ho
    have hle := List.length_filter_le (fun g' => decide (some g ≠ some g')) kept
    rw [ha, List.filter_append, List.length_append]
    simp at hle ⊢
    omega

namespace Hub

variable {now : Nat} {accepts : Nat → Bool} {h s : Hub} {d : Nat} {x x' : Dial} {e : DialEvent}

theorem bounded_start (h : Hub) (cancelled : Bool) (request : ConnectRequest) :
    (Dial.start request (h.entry cancelled)).Bounded := by
  constructor <;> simp [Dial.start, Dial.exchanges]

/-- A move keeps the dial within its bounds; a transport is asked before the dial's own attempt, or
by it. -/
theorem Move.bounded (hm : Move now accepts h d x e x' s) (hb : x.Bounded) : x'.Bounded := by
  have ht := x.phase.tries_le
  have hs := x.phase.stage_le
  cases hm with
  | @found gated g hp =>
    obtain ⟨hown, hexch⟩ := hb.unbuilt (by simp [hp, Phase.stage])
    have hk := hb.kept hown
    have h0 := hb.early (by simp [hp, Phase.stage])
    have hu := hb.unreached (by simp [hp, Phase.stage])
    refine ⟨fun _ => ?_, fun g' hg' => ?_, fun _ => h0, fun _ => hu, fun _ => ⟨hown, hexch⟩,
      hb.established, hb.connects, hb.apart⟩
    · rw [hp] at hk
      cases gated <;> simpa [Phase.tries] using hk
    · rw [hown] at hg'
      cases hg'
  | wentFresh hp =>
    obtain ⟨hown, hexch⟩ := hb.unbuilt (by simp [hp, Phase.stage])
    have h0 := hb.early (by simp [hp, Phase.stage])
    have hu := hb.unreached (by simp [hp, Phase.stage])
    refine ⟨fun _ => Nat.le_trans (hb.kept hown) ht, hb.own, fun hn => ?_, fun _ => hu,
      fun _ => ⟨hown, hexch⟩, ?_, hb.connects, hb.apart⟩
    · cases hn
    · simp [h0]
  | @reachedHttp2 gated c hp hc =>
    obtain ⟨hown, _⟩ := hb.unbuilt (by simp [hp, Phase.stage])
    obtain ⟨hn, _⟩ := hb.unreached (by simp [hp, Phase.stage])
    refine ⟨fun _ => Nat.le_trans (hb.kept hown) ht, hb.own, nofun,
      fun h1 => absurd h1 (by simp [Phase.stage]), fun _ => ⟨hown, ?_⟩, hb.established, ?_,
      fun _ => hown⟩
    · simp [Dial.exchanges, hc]
    · simp [hn]
  | reachedHttp1 hp | reachedOther hp => exact hb.withReached (by rw [hp]; rfl) rfl rfl _
  | built hp =>
    obtain ⟨hown, hexch⟩ := hb.unbuilt (by simp [hp, Phase.stage])
    have hk := Nat.le_trans (hb.kept hown) ht
    refine ⟨nofun, fun g hg => ?_, nofun, fun h1 => absurd h1 (by simp [Phase.stage]),
      fun h2 => absurd h2 (by simp [Phase.stage]), hb.established, hb.connects, fun hx => ?_⟩
    · cases hg
      exact ⟨x.asked, rfl, hk⟩
    · exact absurd hx (by simpa [Dial.exchanges] using hexch)
  | lost => exact hb.withPhase (by simpa using ht) (by simpa using hs)
  | gaveBack hp =>
    exact hb.withPhase (Nat.le_of_eq (by rw [hp]; rfl)) (Nat.le_of_eq (by rw [hp]; rfl))
  | @missed gated hp | @evicted gated g hp | @outlived gated g hp =>
    cases gated <;>
      exact hb.withPhase (by simp [hp, Phase.tries]) (by simp [hp, Phase.stage])
  | @reuseFailed gated g t _ hp =>
    cases gated <;>
      exact hb.withPhase (by simp [hp, Phase.tries]) (by simp [hp, Phase.stage])
  | approached hp | tookGate hp | linedUp hp | gotGate hp =>
    exact hb.withPhase (by simp [hp, Phase.tries]) (by simp [hp, Phase.stage])
  | replaced | kept | unkept | left | reuseGranted | openGranted | exchanged =>
    exact hb.withPhase ht hs

/-- What a dial is sure to come to does not change any more. -/
theorem Move.sure {o : Outcome} (hm : Move now accepts h d x e x' s)
    (ho : x.phase.sure = some o) : x'.phase.sure = some o := by
  cases hm with
  | lost hd hl =>
    rw [hl.sure_eq_none] at ho
    cases ho
  | gaveBack hp | left hp | replaced hp | kept hp | unkept hp =>
    rw [hp] at ho
    exact ho
  | found hp | missed hp | evicted hp | outlived hp | approached hp | wentFresh hp | tookGate hp
  | linedUp hp | gotGate hp | reuseGranted hp | reuseFailed hp | openGranted hp | reachedHttp1 hp
  | reachedHttp2 hp | reachedOther hp | exchanged hp | built hp => simp [hp, Phase.sure] at ho

/-- Only its own attempt fails a dial, or that it is cancelled. -/
theorem Move.ownFailure {f : Failure} (hm : Move now accepts h d x e x' s)
    (hf : x'.phase.sure = some (.failed f)) (hne : f ≠ .cancelled) :
    x.phase.sure = some (.failed f) ∨ e.dial? = some d ∧ OwnFailure x.phase e f := by
  cases hm with
  | @lost _ o hd hl =>
    obtain rfl : o = .failed f := by simpa using hf
    exact .inr ⟨hd, hl.ownFailure hne⟩
  | @reachedOther gated c f' hp hc =>
    obtain rfl : f' = f := by simpa [Phase.sure] using hf
    exact .inr ⟨rfl, hp ▸ .unsupported hc⟩
  | gaveBack hp | left hp =>
    rw [hp]
    exact .inl hf
  | _ => simp [Phase.sure] at hf

/-- What serves a dial is what the dial is sure to come to. -/
theorem sure_of_serving {o : Outcome} (hx : h.dials[d]? = some x) (hd : e.dial? = some d)
    (hs : Serving x.phase e o) :
    ∃ y, (h.step now accepts e).dials[d]? = some y ∧ y.phase.sure = some o := by
  have hp : ((h.step now accepts e).phase? d).bind Phase.sure = some o := by
    rw [step_of_phase hx hd]
    generalize x.phase = p at hs
    cases hs with
    | reused | opened | exchanged =>
      cases hd
      simp [onDial, answered, reuseAnswered, openAnswered, Hub.exchanged, setPhase, hx, Phase.sure]
  obtain ⟨p, hp, ho⟩ := Option.bind_eq_some_iff.mp hp
  obtain ⟨y, hy, rfl⟩ := phase?_eq_some.mp hp
  exact ⟨y, hy, ho⟩

/-- A dial that is sure of its outcome does not wait: each of its turns brings it nearer. -/
theorem turn_of_sure {o : Outcome} (hx : h.dials[d]? = some x) (ho : x.phase.sure = some o) :
    ∃ y, (h.step now accepts (.turn d)).dials[d]? = some y ∧ y.phase.sure = some o ∧
      y.phase.turns ≤ x.phase.turns - 1 := by
  have hp : ∃ p, (h.step now accepts (.turn d)).phase? d = some p ∧ p.sure = some o ∧
      p.turns ≤ x.phase.turns - 1 := by
    rw [step_of_phase hx rfl]
    cases hq : x.phase with rw [hq] at ho
    | keeping gated g =>
      change ∃ p, (h.keep d gated g).phase? d = some p ∧ _
      unfold keep
      by_cases hr : h.reuse = true
      · cases h.pool.slot with
        | none => exact ⟨.leaving gated (.stream g), by simp [hr, setPhase, hx], ho,
            by simp [Phase.turns]⟩
        | some old =>
          exact ⟨.dropping old (.leaving gated (.stream g)), by simp [hr, setPhase, hx], ho,
            by simp [Phase.turns]⟩
      · exact ⟨.dropping g (.leaving gated (.stream g)), by simp [hr, setPhase, hx], ho,
          by simp [Phase.turns]⟩
    | dropping g p => exact ⟨p, by simp [onDial, turn, setPhase, hx], ho, by simp [Phase.turns]⟩
    | leaving gated o' =>
      exact ⟨.ended o', by simp [onDial, turn, setPhase, hx], ho, by simp [Phase.turns]⟩
    | ended o' =>
      exact ⟨.ended o', by simp [onDial, turn, phase?, hx, hq], ho, by simp [Phase.turns]⟩
    | seeking | reusing | evicting | passing | entering | queued | establishing | exchanging
    | connecting | opening => cases ho
  obtain ⟨p, hp, ho, hlt⟩ := hp
  obtain ⟨y, hy, rfl⟩ := phase?_eq_some.mp hp
  exact ⟨y, hy, ho, hlt⟩

/-- A dial asks the transport in the slot, while it looks for one, or the one that it built. -/
theorem Move.asked (hm : Move now accepts h d x e x' s) :
    (x'.asked = x.asked ∧ x'.own = x.own) ∨
    (∃ gated g, x.phase = .seeking gated ∧ h.pool.slot = some g ∧ x'.asked = x.asked ++ [g] ∧
      x'.own = x.own ∧ x'.phase.current = some g) ∨
    (∃ gated, x.phase = .connecting gated ∧
      x'.asked = x.asked ++ [h.pool.ledger.groups.length] ∧
      x'.own = some h.pool.ledger.groups.length) := by
  cases hm with
  | @found gated g hp hs => exact .inr (.inl ⟨gated, g, hp, hs, rfl, rfl, rfl⟩)
  | @built gated transport hp => exact .inr (.inr ⟨gated, hp, rfl, rfl⟩)
  | _ => exact .inl ⟨rfl, rfl⟩

/-- A transport that failed the dial is out of the slot before the dial looks for another one. -/
theorem Move.forgoes {g : Nat} (hm : Move now accepts h d x e x' s)
    (hg : x.phase.current = some g) (hn : x'.phase.sure = none) :
    x'.phase.current = some g ∨ s.pool.slot ≠ some g := by
  cases hm with
  | lost => simp at hn
  | evicted => exact .inr nofun
  | @outlived gated g' hp hs =>
    obtain rfl : g' = g := by simpa [hp, Phase.current] using hg
    exact .inr hs
  | gaveBack hp =>
    rw [hp] at hg
    exact .inl hg
  | reuseFailed hp =>
    rw [hp] at hg
    exact .inl hg
  | reuseGranted | reachedOther | replaced | kept | unkept | left | exchanged => cases hn
  | found hp | missed hp | approached hp | wentFresh hp | tookGate hp | linedUp hp | gotGate hp
  | openGranted hp | reachedHttp1 hp | reachedHttp2 hp | built hp => simp [hp, Phase.current] at hg

end Hub

namespace Custody

variable {c : Custody} {e : CustodyEvent} {timeout : Nat} {reuse : Bool} {es : List CustodyEvent}

theorem bounded_run (timeout : Nat) (reuse : Bool) (es : List CustodyEvent) {d : Nat} {x : Dial}
    (hx : (run timeout reuse es).hub.dials[d]? = some x) : x.Bounded := by
  refine dial_run (P := fun _ x => x.Bounded) ?_ ?_ ?_ es hx
  · exact fun _ h cancelled request => h.bounded_start cancelled request
  · exact fun _ _ _ hb => hb
  · exact fun _ _ _ _ _ _ _ _ hm _ hb => hm.bounded hb

/-- No dial asks a transport twice; one of another dial that it asked to no avail was in the slot,
and is out of it when the dial has put up with that. -/
structure Sparing (c : Custody) : Prop where
  nodup : ∀ (d : Nat) (x : Dial), c.hub.dials[d]? = some x → x.asked.Nodup
  spent : ∀ (d : Nat) (x : Dial) (g : Nat), c.hub.dials[d]? = some x → x.phase.sure = none →
    g ∈ x.asked → x.own ≠ some g → c.Spent g
  gone : ∀ (d : Nat) (x : Dial) (g : Nat), c.hub.dials[d]? = some x → x.phase.sure = none →
    g ∈ x.asked → x.own ≠ some g → x.phase.current ≠ some g → c.hub.pool.slot ≠ some g

theorem sparing_start (timeout : Nat) (reuse : Bool) : (start timeout reuse).Sparing := by
  constructor <;> simp [start, Hub.start]

/-- What a dial asked to no avail is spent after a step too, and stays out of the slot if it was. -/
theorem Sparing.old_step {d : Nat} {x : Dial} {g : Nat} (hs : c.Sparing) (ho : c.Owning)
    (hx : c.hub.dials[d]? = some x) (hn : x.phase.sure = none) (hg : g ∈ x.asked)
    (hown : x.own ≠ some g) (e : CustodyEvent) :
    (c.step e).Spent g ∧ (x.phase.current ≠ some g → (c.step e).hub.pool.slot ≠ some g) := by
  have hspent := hs.spent d x g hx hn hg hown
  exact ⟨ho.spent_step hspent e,
    fun hcur => ho.slot_ne_step hspent (hs.gone d x g hx hn hg hown hcur) e⟩

/-- So is what it asks by that step. -/
theorem Sparing.asked_step {d : Nat} {y : Dial} {g : Nat} (hs : c.Sparing) (ho : c.Owning)
    (hb : ∀ (d : Nat) (x : Dial), c.hub.dials[d]? = some x → x.Bounded)
    (hslot : ∀ g, c.hub.pool.slot = some g → c.Spent g) (hy : (c.step e).hub.dials[d]? = some y)
    (hn : y.phase.sure = none) (hg : g ∈ y.asked) (hown : y.own ≠ some g) :
    (c.step e).Spent g ∧ (y.phase.current ≠ some g → (c.step e).hub.pool.slot ≠ some g) := by
  rcases getElem?_step hy with
    ⟨_, _, _, _, _, _, rfl⟩ | ⟨hx, _⟩ | ⟨_, _, _, x, s, _, _, hx, hm, hstep⟩
  · cases hg
  · exact hs.old_step ho hx hn hg hown e
  · have hxn : x.phase.sure = none :=
      Option.eq_none_iff_forall_ne_some.mpr fun o hxo => by simp [hm.sure hxo] at hn
    have still (hxg : g ∈ x.asked) (hxown : x.own ≠ some g) :
        (c.step e).Spent g ∧
          (y.phase.current ≠ some g → (c.step e).hub.pool.slot ≠ some g) := by
      obtain ⟨hspent, hout⟩ := hs.old_step ho hx hxn hxg hxown e
      refine ⟨hspent, fun hcur => ?_⟩
      by_cases hxcur : x.phase.current = some g
      · rw [hstep]
        exact (hm.forgoes hxcur hn).resolve_left hcur
      · exact hout hxcur
    rcases hm.asked with
      ⟨ha, hyo⟩ | ⟨_, g', _, hg', ha, hyo, hcur⟩ | ⟨gated, hp, ha, hyo⟩
    · exact still (ha ▸ hg) (hyo ▸ hown)
    · rw [ha, List.mem_append, List.mem_singleton] at hg
      rcases hg with hg | rfl
      · exact still hg (hyo ▸ hown)
      · exact ⟨ho.spent_step (hslot g hg') e, fun hne => absurd hcur hne⟩
    · rw [ha, List.mem_append, List.mem_singleton] at hg
      rcases hg with hg | rfl
      · have hxown := ((hb _ x hx).unbuilt (by simp [hp, Phase.stage])).1
        exact still hg (by simp [hxown])
      · exact absurd hyo hown

/-- No dial asks by a step what it asked before: that is out of the slot, and no new transport. -/
theorem Sparing.nodup_step {d : Nat} {y : Dial} (hs : c.Sparing) (ho : c.Owning)
    (hb : ∀ (d : Nat) (x : Dial), c.hub.dials[d]? = some x → x.Bounded)
    (hy : (c.step e).hub.dials[d]? = some y) : y.asked.Nodup := by
  rcases getElem?_step hy with
    ⟨_, _, _, _, _, _, rfl⟩ | ⟨hx, _⟩ | ⟨_, _, _, x, s, _, _, hx, hm, _⟩
  · exact List.nodup_nil
  · exact hs.nodup d y hx
  · have fresh {g : Nat} (hst : x.phase.stage ≤ 2) (hn : x.phase.sure = none)
        (hg : c.Spent g → (x.phase.current ≠ some g → c.hub.pool.slot ≠ some g) → False) :
        (x.asked ++ [g]).Nodup := by
      have hxown := ((hb d x hx).unbuilt hst).1
      have hnot : g ∉ x.asked := fun hmem =>
        hg (hs.spent d x g hx hn hmem (by simp [hxown]))
          (hs.gone d x g hx hn hmem (by simp [hxown]))
      exact (List.concat_eq_append ▸ (hs.nodup d x hx).concat hnot :)
    rcases hm.asked with ⟨ha, _⟩ | ⟨gated, g, hp, hg, ha, _⟩ | ⟨gated, hp, ha, _⟩
    · exact ha ▸ hs.nodup d x hx
    · rw [ha]
      refine fresh (by simp [hp, Phase.stage]) (by rw [hp]; rfl) fun _ hout => ?_
      exact hout (by simp [hp, Phase.current]) hg
    · rw [ha]
      refine fresh (by simp [hp, Phase.stage]) (by rw [hp]; rfl) fun hspent _ => ?_
      obtain ⟨i, z, hz, hzown, _⟩ := hspent
      exact Nat.lt_irrefl _ (ho.own_lt i z _ hz hzown)

theorem Sparing.step (hs : c.Sparing) (ho : c.Owning)
    (hb : ∀ (d : Nat) (x : Dial), c.hub.dials[d]? = some x → x.Bounded)
    (hslot : ∀ g, c.hub.pool.slot = some g → c.Spent g) (e : CustodyEvent) :
    (c.step e).Sparing :=
  ⟨fun _ _ hy => hs.nodup_step ho hb hy,
    fun _ _ _ hy hn hg hown => (hs.asked_step ho hb hslot hy hn hg hown).1,
    fun _ _ _ hy hn hg hown => (hs.asked_step ho hb hslot hy hn hg hown).2⟩

theorem sparing_run (timeout : Nat) (reuse : Bool) (es : List CustodyEvent) :
    (run timeout reuse es).Sparing := by
  induction es using List.reverseRecOn with
  | nil => exact sparing_start timeout reuse
  | append_singleton es e ih =>
    rw [run_concat]
    exact ih.step (owning_run timeout reuse es) (fun _ _ => bounded_run timeout reuse es)
      (fun _ => spent_of_slot timeout reuse es) e

theorem lt_of_asked (timeout : Nat) (reuse : Bool) (es : List CustodyEvent) {d g : Nat} {x : Dial}
    (hx : (run timeout reuse es).hub.dials[d]? = some x) (hg : g ∈ x.asked) :
    g < (run timeout reuse es).ledger.groups.length := by
  induction es using List.reverseRecOn generalizing d g x with
  | nil => simp [run, after, start, Hub.start] at hx
  | append_singleton es e ih =>
    have hown := owning_run timeout reuse (es ++ [e])
    rw [run_concat] at hx hown ⊢
    have hle := ((accounted_run timeout reuse es).fair_step e).change.length_le
    have earlier (hlt : g < (run timeout reuse es).ledger.groups.length) :
        g < ((run timeout reuse es).step e).ledger.groups.length := Nat.lt_of_lt_of_le hlt hle
    rcases getElem?_step hx with
      ⟨_, _, _, _, _, _, rfl⟩ | ⟨hx, _⟩ | ⟨_, _, _, y, s, _, _, hy, hm, _⟩
    · cases hg
    · exact earlier (ih hx hg)
    · rcases hm.asked with ⟨ha, _⟩ | ⟨_, g', _, hslot, ha, _⟩ | ⟨_, _, ha, hxown⟩
      · exact earlier (ih hy (ha ▸ hg))
      · rw [ha, List.mem_append, List.mem_singleton] at hg
        rcases hg with hg | rfl
        · exact earlier (ih hy hg)
        · obtain ⟨i, z, hz, hzown, _⟩ := spent_of_slot timeout reuse es hslot
          exact earlier ((owning_run timeout reuse es).own_lt i z g hz hzown)
      · rw [ha, List.mem_append, List.mem_singleton] at hg
        rcases hg with hg | rfl
        · exact earlier (ih hy hg)
        · exact hown.own_lt d x _ hx hxown

/-- The dial was served, with that outcome. -/
def Served (d : Nat) (o : Outcome) (c : Custody) (e : CustodyEvent) : Prop :=
  ∃ now accepts e' x, e = .dial now accepts e' ∧ e'.dial? = some d ∧ c.hub.dials[d]? = some x ∧
    Serving x.phase e' o

/-- The dial's own attempt failed. -/
def OwnFailed (d : Nat) (f : Failure) (c : Custody) (e : CustodyEvent) : Prop :=
  ∃ now accepts e' x, e = .dial now accepts e' ∧ e'.dial? = some d ∧ c.hub.dials[d]? = some x ∧
    OwnFailure x.phase e' f

theorem sure_after {d : Nat} {x : Dial} {o : Outcome} (hx : c.hub.dials[d]? = some x)
    (ho : x.phase.sure = some o) (es : List CustodyEvent) :
    ∃ y, (c.after es).hub.dials[d]? = some y ∧ y.phase.sure = some o := by
  induction es generalizing c x with
  | nil => exact ⟨x, hx, ho⟩
  | cons e es ih =>
    obtain ⟨y, hy, rfl | ⟨_, _, _, _, hm⟩⟩ := dial_step hx e
    · exact ih hy ho
    · exact ih hy (hm.sure ho)

theorem sure_of_served {d : Nat} {x : Dial} {o : Outcome}
    (hx : (run timeout reuse es).hub.dials[d]? = some x)
    (hs : Happened timeout reuse es (Served d o)) : x.phase.sure = some o := by
  obtain ⟨pre, _, post, rfl, now, accepts, e, y, rfl, hd, hy, hserving⟩ := hs
  obtain ⟨z, hz, ho⟩ :
      ∃ z, ((run timeout reuse pre).step (.dial now accepts e)).hub.dials[d]? = some z ∧
        z.phase.sure = some o := Hub.sure_of_serving hy hd hserving
  obtain ⟨w, hw, hwo⟩ := sure_after hz ho post
  have hrun : run timeout reuse (pre ++ .dial now accepts e :: post) =
      ((run timeout reuse pre).step (.dial now accepts e)).after post := run_append ..
  rw [hrun, hw] at hx
  cases hx
  exact hwo

/-- A dial that is sure to fail, and was not cancelled, failed in its own attempt. -/
theorem ownFailed_of_sure (timeout : Nat) (reuse : Bool) (es : List CustodyEvent) {d : Nat}
    {x : Dial} {f : Failure} (hx : (run timeout reuse es).hub.dials[d]? = some x)
    (hf : x.phase.sure = some (.failed f)) (hne : f ≠ .cancelled) :
    Happened timeout reuse es (OwnFailed d f) := by
  refine dial_run (P := fun es x => x.phase.sure = some (.failed f) →
    Happened timeout reuse es (OwnFailed d f)) ?_ ?_ ?_ es hx hf
  · intro _ h cancelled _ hf
    rcases h.entry_eq cancelled with he | he | he <;>
      simp [Dial.start, he, Phase.sure, Ne.symm hne] at hf
  · exact fun _ e _ hold hf => (hold hf).concat e
  · intro _ now accepts e y x s hy hm _ hold hf
    rcases hm.ownFailure hf hne with hyf | ⟨hd, hown⟩
    · exact (hold hyf).concat _
    · exact .last ⟨now, accepts, e, y, rfl, hd, hy, hown⟩

/-- A dial that is sure of its outcome comes to it in turns of its own. -/
theorem ended_of_sure {d : Nat} {x : Dial} {o : Outcome} (hx : c.hub.dials[d]? = some x)
    (ho : x.phase.sure = some o) (now : Nat) (accepts : Nat → Bool) {n : Nat}
    (hn : x.phase.turns ≤ n) :
    (c.after (List.replicate n (.dial now accepts (.turn d)))).hub.phase? d = some (.ended o) := by
  induction n generalizing c x with
  | zero => exact Hub.phase?_eq_some.mpr ⟨x, hx, Phase.eq_ended ho (Nat.le_zero.mp hn)⟩
  | succ n ih =>
    obtain ⟨y, hy, hyo, hlt⟩ :
        ∃ y, (c.step (.dial now accepts (.turn d))).hub.dials[d]? = some y ∧
          y.phase.sure = some o ∧ y.phase.turns ≤ x.phase.turns - 1 := Hub.turn_of_sure hx ho
    exact ih hy hyo (by omega)

/-- However many dials there are and whatever they do: a dial establishes one connection and builds
one transport at most, and makes three requests at most, two of them on kept transports, no two on
one transport; each transport was built by one dial. What serves the dial, be it a kept transport or
its own attempt, is what it comes to, and it comes to a failure, other than by cancellation, only
when its own attempt failed so. -/
theorem run_attempts (timeout : Nat) (reuse : Bool) (es : List CustodyEvent) :
    let c := run timeout reuse es
    ∀ (d : Nat) (x : Dial), c.hub.dials[d]? = some x →
      x.established ≤ 1 ∧ x.connects ≤ 1 ∧ x.requests ≤ 3 ∧
      (x.asked.filter fun g => x.own ≠ some g).length ≤ 2 ∧ x.asked.Nodup ∧
      (∀ g ∈ x.asked, ∃ (i : Nat) (y : Dial), c.hub.dials[i]? = some y ∧ y.own = some g ∧
        ∀ (j : Nat) (z : Dial), c.hub.dials[j]? = some z → z.own = some g → j = i) ∧
      (∀ o, Happened timeout reuse es (Served d o) → x.phase.sure = some o) ∧
      (∀ f, x.phase.sure = some (.failed f) → f ≠ .cancelled →
        Happened timeout reuse es (OwnFailed d f)) ∧
      ∀ o, x.phase.sure = some o → ∀ now accepts,
        (c.after (List.replicate x.phase.turns (.dial now accepts (.turn d)))).hub.phase? d =
          some (.ended o) := by
  intro c d x hx
  have hb : x.Bounded := bounded_run timeout reuse es hx
  have ho : c.Owning := owning_run timeout reuse es
  refine ⟨hb.established, hb.connects, hb.requests_le, hb.kept_le,
    (sparing_run timeout reuse es).nodup d x hx, fun g hg => ?_, fun o hs => sure_of_served hx hs,
    fun f hf hne => ownFailed_of_sure timeout reuse es hx hf hne,
    fun o hsure now accepts => ended_of_sure hx hsure now accepts (Nat.le_refl _)⟩
  obtain ⟨i, y, hy, hyg⟩ := ho.covered g (lt_of_asked timeout reuse es hx hg)
  exact ⟨i, y, hy, hyg, fun j z hz hzg => ho.own_unique j i z y g hz hy hzg hyg⟩

/-- A second dial gets no answer from the transport that the first one kept, and a refusal from its
own. -/
def refusedRun : List CustodyEvent :=
  let on (e : DialEvent) : CustodyEvent := .dial 0 (fun _ => true) e
  keptRun ++ [on (.arrive false ⟨"example.org:443", .empty⟩), on (.turn 1), on (.expired 1)] ++
    List.replicate 8 (on (.turn 1)) ++
    [on (.established 1 (.ok ⟨6, "h2"⟩)), on (.connected 1 (.ok 4)),
      on (.answered 1 (.refused 503))]

theorem run_attempts_refused :
    Happened 10 true refusedRun (OwnFailed 1 (Hub.refusal 503)) ∧
      ((run 10 true refusedRun).after
        (List.replicate 3 (.dial 0 (fun _ => true) (.turn 1)))).hub.phase? 1 =
          some (.ended (.failed (Hub.refusal 503))) := by
  let x : Dial := ⟨⟨"example.org:443", .empty⟩,
    .dropping 1 (.dropping 1 (.leaving true (.failed (Hub.refusal 503)))), [0, 1], 1, 1,
    some ⟨6, "h2"⟩, some 1⟩
  have hx : (run 10 true refusedRun).hub.dials[1]? = some x := by decide
  obtain ⟨_, _, _, _, _, _, _, hfailed, hends⟩ := run_attempts 10 true refusedRun 1 x hx
  exact ⟨hfailed (Hub.refusal 503) rfl nofun, hends _ rfl 0 fun _ => true⟩

end Custody
end TunnelDial
