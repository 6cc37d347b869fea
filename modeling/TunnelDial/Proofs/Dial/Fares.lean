import Mathlib.Algebra.Order.BigOperators.Group.List
import Mathlib.Algebra.Order.Group.Nat
import TunnelDial.Proofs.Dial.Gate
import TunnelDial.Proofs.Dial.Slot

/-! Dials while nothing fails: the proxy speaks HTTP/2 and grants what it is asked, and nobody gives
up. Where a dial can then be depends on what is in the slot, and each of its moves leaves it less to
do. -/
namespace TunnelDial

/-- The proxy grants what it is asked, in HTTP/2, and nobody gives up. -/
def DialEvent.Smooth : DialEvent → Prop
  | arrive gone _ => gone = false
  | turn _ => True
  | answered _ a => a = .granted
  | established _ r => ∃ k, r = .ok ⟨k, "h2"⟩
  | connected _ r => ∃ t, r = .ok t
  | exchanged .. => False
  | expired _ => False
  | cancelled _ => False
  | abandoned _ => False
  | cleared => False

/-- An event of that kind, while every transport accepts streams; callers may do anything with what
they got. -/
def CustodyEvent.Smooth : CustodyEvent → Prop
  | dial _ accepts e => (∀ t, accepts t = true) ∧ e.Smooth
  | _ => True

/-- What a dial in that phase has still to do, when nothing fails. -/
def Phase.work : Phase → Nat
  | seeking false => 12
  | passing false => 11
  | entering => 10
  | queued => 9
  | seeking true => 8
  | passing true => 7
  | establishing _ => 6
  | connecting _ => 5
  | opening .. => 4
  | keeping .. => 3
  | reusing .. => 3
  | dropping _ p => p.work + 1
  | leaving .. => 1
  | _ => 0

/-- What all dials together have still to do. -/
def Hub.work (h : Hub) : Nat := (h.dials.map fun x => x.phase.work).sum

/-- How many tunnels a dial in that phase handed over. -/
def Phase.served : Phase → Nat
  | ended (.stream _) => 1
  | _ => 0

/-- The groups that a dial asked, how often it established a connection and built a transport, and
the group of that. -/
def Dial.tally (x : Dial) : List Nat × Nat × Nat × Option Nat :=
  (x.asked, x.established, x.connects, x.own)

/-- Where a dial can be when nothing fails, by what is in the slot. -/
inductive Dial.Fares (slot : Option Nat) (x : Dial) : Prop
  | seeking {gated} : x.phase = .seeking gated → x.tally = ([], 0, 0, none) → Fares slot x
  | passing : x.phase = .passing false → x.tally = ([], 0, 0, none) → Fares slot x
  | entering : x.phase = .entering → x.tally = ([], 0, 0, none) → Fares slot x
  | queued : x.phase = .queued → x.tally = ([], 0, 0, none) → Fares slot x
  | missed : x.phase = .passing true → slot = none → x.tally = ([], 0, 0, none) → Fares slot x
  | establishing : x.phase = .establishing true → slot = none → x.tally = ([], 1, 0, none) →
      Fares slot x
  | connecting : x.phase = .connecting true → slot = none → x.tally = ([], 1, 1, none) →
      Fares slot x
  | opening {t} : x.phase = .opening true 0 t → slot = none → x.tally = ([0], 1, 1, some 0) →
      Fares slot x
  | keeping : x.phase = .keeping true 0 → slot = none → x.tally = ([0], 1, 1, some 0) →
      Fares slot x
  | reusing {gated t} : x.phase = .reusing gated 0 t → slot = some 0 →
      x.tally = ([0], 0, 0, none) → Fares slot x
  | dropping {gated} : x.phase = .dropping 0 (.leaving gated (.stream 0)) → slot = some 0 →
      x.tally = ([0], 0, 0, none) → Fares slot x
  | leaving {gated} : x.phase = .leaving gated (.stream 0) → slot = some 0 →
      x.tally = ([0], 0, 0, none) ∨ x.tally = ([0], 1, 1, some 0) → Fares slot x
  | ended : x.phase = .ended (.stream 0) → slot = some 0 →
      x.tally = ([0], 0, 0, none) ∨ x.tally = ([0], 1, 1, some 0) → Fares slot x

namespace Hub

variable {now : Nat} {accepts : Nat → Bool} {h s : Hub} {d : Nat} {x x' : Dial} {e : DialEvent}

/-- What is kept is the first transport, and it can carry more streams; a dial builds a transport
only while there is none; HTTP/1.1 was never agreed on. -/
structure Steady (accepts : Nat → Bool) (h : Hub) : Prop where
  reuse : h.reuse = true
  known : h.known ≠ some .http1
  first : ∀ g, h.pool.slot = some g → g = 0
  usable : ∀ g, h.pool.slot = some g → h.pool.usable accepts g = true
  fresh : ∀ (d : Nat) (x : Dial) (gated : Bool), h.dials[d]? = some x →
    x.phase = .connecting gated → h.pool.ledger.groups.length = 0

theorem Steady.lookup_ne_none (hs : h.Steady accepts) {g : Nat} (hg : h.pool.slot = some g) :
    (h.pool.lookup accepts).2 ≠ none := by
  simp [Pool.lookup, hg, hs.usable g hg]

theorem ofName_h2 : Protocol.ofName "h2" = .ok .http2 := by
  simp [Protocol.ofName]

/-- One move of a dial when nothing fails: the dial is in a place that fits what is kept, and has
less to do. -/
theorem Move.fares (hm : Move now accepts h d x e x' s) (he : e.Smooth)
    (hx : h.dials[d]? = some x) (hs : h.Steady accepts) (hf : x.Fares h.pool.slot) :
    x'.Fares s.pool.slot ∧ x'.phase.work < x.phase.work := by
  cases hm with
  | @found gated g hp hslot hu =>
    obtain rfl := hs.first g hslot
    have ht : x.tally = ([], 0, 0, none) := by cases hf <;> simp_all
    refine ⟨.reusing rfl hslot ?_, ?_⟩
    · simp_all [Dial.tally]
    · cases gated <;> simp [hp, Phase.work]
  | @missed gated hp hl =>
    have ht : x.tally = ([], 0, 0, none) := by cases hf <;> simp_all
    have hnone : h.pool.slot = none :=
      Option.eq_none_iff_forall_ne_some.mpr fun g hg => hs.lookup_ne_none hg hl
    cases gated with
    | false => exact ⟨.passing rfl ht, by simp [hp, Phase.work]⟩
    | true => exact ⟨.missed rfl hnone ht, by simp [hp, Phase.work]⟩
  | approached hp hr hk =>
    have ht : x.tally = ([], 0, 0, none) := by cases hf <;> simp_all
    exact ⟨.entering rfl ht, by simp [hp, Phase.work]⟩
  | @wentFresh gated hp hwhy =>
    have hgated : gated = true := by
      rcases hwhy with hg | hr | hk
      · exact hg
      · rw [hs.reuse] at hr
        cases hr
      · exact absurd hk hs.known
    subst hgated
    have ht : x.tally = ([], 0, 0, none) ∧ h.pool.slot = none := by cases hf <;> simp_all
    refine ⟨.establishing rfl ht.2 ?_, by simp [hp, Phase.work]⟩
    simp_all [Dial.tally]
  | tookGate hp hh =>
    have ht : x.tally = ([], 0, 0, none) := by cases hf <;> simp_all
    exact ⟨.seeking rfl ht, by simp [hp, Phase.work]⟩
  | linedUp hp hh =>
    have ht : x.tally = ([], 0, 0, none) := by cases hf <;> simp_all
    exact ⟨.queued rfl ht, by simp [hp, Phase.work]⟩
  | gotGate hp hh =>
    have ht : x.tally = ([], 0, 0, none) := by cases hf <;> simp_all
    exact ⟨.seeking rfl ht, by simp [hp, Phase.work]⟩
  | @kept gated g hp hr hslot =>
    have ht : g = 0 ∧ x.tally = ([0], 1, 1, some 0) := by cases hf <;> simp_all
    obtain ⟨rfl, ht⟩ := ht
    exact ⟨.leaving rfl rfl (.inr ht), by simp [hp, Phase.work]⟩
  | @gaveBack g p hp =>
    refine ⟨?_, by simp [hp, Phase.work]⟩
    cases hf with
    | dropping hp' hslot ht =>
      rw [hp] at hp'
      cases hp'
      exact .leaving rfl hslot (.inl ht)
    | _ => simp_all
  | @left gated o hp =>
    refine ⟨?_, by simp [hp, Phase.work]⟩
    cases hf with
    | leaving hp' hslot ht =>
      rw [hp] at hp'
      cases hp'
      exact .ended rfl hslot ht
    | _ => simp_all
  | @reuseGranted gated g t hp =>
    refine ⟨?_, by simp [hp, Phase.work]⟩
    cases hf with
    | reusing hp' hslot ht =>
      rw [hp] at hp'
      cases hp'
      exact .dropping rfl hslot ht
    | _ => simp_all
  | @openGranted gated g t hp =>
    refine ⟨?_, by simp [hp, Phase.work]⟩
    cases hf with
    | opening hp' hslot ht =>
      rw [hp] at hp'
      cases hp'
      exact .keeping rfl hslot ht
    | _ => simp_all
  | @reachedHttp2 gated c hp hc =>
    refine ⟨?_, by simp [hp, Phase.work]⟩
    cases hf with
    | establishing hp' hslot ht =>
      rw [hp] at hp'
      cases hp'
      exact .connecting rfl hslot (by simp_all [Dial.tally])
    | _ => simp_all
  | @built gated transport hp =>
    have hlen := hs.fresh d x gated hx hp
    refine ⟨?_, by simp [hp, Phase.work]⟩
    cases hf with
    | connecting hp' hslot ht =>
      rw [hp] at hp'
      cases hp'
      exact .opening (by rw [hlen]) hslot (by simp_all [Dial.tally])
    | _ => simp_all
  | reachedHttp1 hp hc | reachedOther hp hc =>
    obtain ⟨k, hk⟩ := he
    cases hk
    rw [ofName_h2] at hc
    cases hc
  | replaced hp hr hslot | unkept hp hr => cases hf <;> simp_all [hs.reuse]
  | evicted hp | outlived hp => cases hf <;> simp_all
  | exchanged hp => cases he
  | reuseFailed hp hd hk => cases hk <;> cases he
  | lost hd hl =>
    exfalso
    generalize x.phase = p at hl
    cases hl <;> simp_all [DialEvent.Smooth]

/-- The slot is filled by the dial past the gate, and only then. -/
theorem Move.slot_of_fares (hm : Move now accepts h d x e x' s) (hf : x.Fares h.pool.slot) :
    s.pool.slot = h.pool.slot ∨
      h.pool.slot = none ∧ s.pool.slot = some 0 ∧ x.phase.gated = true := by
  rcases hm.slot with hsame | ⟨gated, g, _, hp, hg, _⟩ | ⟨gated, g, _, hp, _⟩
  · exact .inl hsame
  · cases hf with
    | keeping hp' hslot ht =>
      rw [hp] at hp'
      cases hp'
      exact .inr ⟨hslot, hg, by rw [hp]; rfl⟩
    | _ => simp_all
  · cases hf <;> simp_all

/-- A dial hands its tunnel over when it ends. -/
theorem Move.served (hm : Move now accepts h d x e x' s) (hx : h.dials[d]? = some x)
    (hf : x.Fares h.pool.slot) :
    x'.phase.served = x.phase.served + (h.handed e).toList.length := by
  cases hm with
  | @left gated o hp =>
    have hq : h.phase? d = some (.leaving gated o) := by simp [phase?, hx, hp]
    cases o <;> simp [handed, hq, hp, Phase.served]
  | @gaveBack g p hp =>
    rw [handed_eq_none hx rfl (by simp [hp])]
    cases hf with
    | dropping hp' =>
      rw [hp] at hp'
      cases hp'
      simp [hp, Phase.served]
    | _ => simp_all
  | @lost _ o hd hl =>
    have hn := hl.outcome?_eq_none
    rw [handed_eq_none hx hd fun gated o hp => by simp [hp, Phase.outcome?] at hn]
    have hserved : x.phase.served = 0 ∧ (x.phase.unwind o).served = 0 := by
      cases hp : x.phase <;> simp_all [Phase.served, Phase.unwind, Phase.outcome?]
    simp [hserved]
  | reuseFailed hp hd =>
    rw [handed_eq_none hx hd (by simp [hp])]
    simp [hp, Phase.served]
  | found hp | missed hp | evicted hp | outlived hp | approached hp | wentFresh hp | tookGate hp
  | linedUp hp | gotGate hp | replaced hp | kept hp | unkept hp | reuseGranted hp | openGranted hp
  | reachedHttp1 hp | reachedHttp2 hp | reachedOther hp | exchanged hp | built hp =>
    rw [handed_eq_none hx rfl (by simp [hp])]
    simp [hp, Phase.served]

theorem Move.known (hm : Move now accepts h d x e x' s) (he : e.Smooth)
    (hk : h.known ≠ some .http1) : s.known ≠ some .http1 := by
  cases hm with
  | reachedHttp1 hp hc =>
    obtain ⟨k, hr⟩ := he
    cases hr
    rw [ofName_h2] at hc
    cases hc
  | reachedHttp2 => simp
  | _ => exact hk

end Hub

/-- A dial that is not past the gate fits the slot that another one filled. -/
theorem Dial.Fares.filled {x : Dial} (hf : x.Fares none) (hg : x.phase.gated = false) :
    x.Fares (some 0) := by
  cases hf with
  | seeking hp ht => exact .seeking hp ht
  | passing hp ht => exact .passing hp ht
  | entering hp ht => exact .entering hp ht
  | queued hp ht => exact .queued hp ht
  | missed hp | establishing hp | connecting hp | opening hp | keeping hp =>
    rw [hp] at hg
    cases hg
  | reusing _ hn | dropping _ hn | leaving _ hn | ended _ hn => cases hn

/-- A dial that opened a transport is past the gate with it, or that is kept. -/
theorem Dial.Fares.of_own {x : Dial} {slot : Option Nat} {g : Nat} (hf : x.Fares slot)
    (hown : x.own = some g) :
    g = 0 ∧ x.established = 1 ∧ x.connects = 1 ∧
      (x.phase.gated = true ∧ (∀ gated, x.phase ≠ .connecting gated) ∨ slot = some 0) := by
  cases hf <;> simp_all [Dial.tally, Phase.gated]

namespace Hub

variable {now : Nat} {accepts : Nat → Bool} {h : Hub} {d : Nat} {x : Dial} {e : DialEvent}

/-- Each dial is where it can be when nothing fails. -/
structure Sharing (h : Hub) : Prop where
  reuse : h.reuse = true
  known : h.known ≠ some .http1
  fares : ∀ (d : Nat) (x : Dial), h.dials[d]? = some x → x.Fares h.pool.slot

theorem sharing_start (timeout : Nat) : (start timeout true).Sharing where
  reuse := rfl
  known := by simp [start]
  fares _ _ hx := by simp [start] at hx

theorem Sharing.step (hs : h.Sharing) (hg : h.Guarded) (hst : h.Steady accepts)
    (he : e.Smooth) (now : Nat) : (h.step now accepts e).Sharing := by
  rcases step_cases now accepts h e with
    ⟨hn, _⟩ | ⟨cancelled, request, rfl, hn⟩ | ⟨rfl, hn⟩ | ⟨d, x, x', s, hd, hx, hm, hn⟩
  · rw [hn]
    exact hs
  · obtain rfl : cancelled = false := he
    constructor
    · rw [hn]
      exact hs.reuse
    · rw [hn]
      exact hs.known
    · intro i y hy
      rcases getElem?_step hy with ⟨_, _, hr, _, rfl⟩ | ⟨hy, _⟩ | ⟨_, _, hd, _⟩
      · cases hr
        rw [hn]
        have hp : (Dial.start request (h.entry false)).phase = .seeking false := by
          simp [Dial.start, entry, hs.reuse]
        exact .seeking hp rfl
      · rw [hn]
        exact hs.fares i y hy
      · cases hd
  · cases he
  · obtain ⟨hxf, _⟩ := hm.fares he hx hst (hs.fares d x hx)
    rw [hn]
    refine ⟨hm.reuse_eq.trans hs.reuse, hm.known he hs.known, fun i y hy => ?_⟩
    change y.Fares s.pool.slot
    rcases dial_or (hm.getElem?_eq hx) hy with ⟨rfl, rfl⟩ | ⟨hdi, hy⟩
    · exact hxf
    · have hyf := hs.fares i y hy
      rcases hm.slot_of_fares (hs.fares d x hx) with hsame | ⟨hnone, hsome, hgated⟩
      · rw [hsame]
        exact hyf
      · have hfree : y.phase.gated = false := by
          by_contra hyg
          exact hdi (hg.unique hx hy hgated (by simpa using hyg))
        rw [hsome]
        exact Dial.Fares.filled (hnone ▸ hyf) hfree

theorem Sharing.work_step (hs : h.Sharing) (hst : h.Steady accepts) (he : e.Smooth)
    (hd : e.dial?.isSome = true) (now : Nat) :
    h.step now accepts e = h ∧ h.handed e = none ∨ (h.step now accepts e).work < h.work := by
  rcases step_cases now accepts h e with
    hsame | ⟨_, _, rfl, _⟩ | ⟨rfl, _⟩ | ⟨d, x, x', s, _, hx, hm, hn⟩
  · exact .inl hsame
  · cases hd
  · cases hd
  · obtain ⟨_, hlt⟩ := hm.fares he hx hst (hs.fares d x hx)
    have hsum := hm.sum_eq hx fun y => y.phase.work
    right
    rw [hn, work, work]
    omega

end Hub

/-- What a dial in that phase waits for, or its turn. -/
def Phase.next (d : Nat) : Phase → DialEvent
  | establishing _ => .established d (.ok ⟨0, "h2"⟩)
  | connecting _ => .connected d (.ok 0)
  | opening .. => .answered d .granted
  | reusing .. => .answered d .granted
  | _ => .turn d

theorem Phase.next_smooth (d : Nat) (p : Phase) : (p.next d).Smooth := by
  cases p with
  | establishing => exact ⟨0, rfl⟩
  | connecting => exact ⟨0, rfl⟩
  | opening | reusing => rfl
  | _ => trivial

@[simp] theorem Phase.dial?_next (d : Nat) (p : Phase) : (p.next d).dial? = some d := by
  cases p <;> rfl

namespace Hub

variable {now : Nat} {accepts : Nat → Bool} {h : Hub} {d : Nat} {x : Dial}

/-- A dial that has not ended, and does not wait for another one, goes on. -/
theorem step_next_ne (now : Nat) (accepts : Nat → Bool) (hx : h.dials[d]? = some x)
    (hf : x.Fares h.pool.slot)
    (hq : x.phase = .queued → h.gate.holder = some d) (hnot : ∀ o, x.phase ≠ .ended o) :
    (h.step now accepts (x.phase.next d)).phase? d ≠ some x.phase := by
  rw [step_of_phase hx (by simp)]
  cases hf with
  | seeking hp ht =>
    rw [hp]
    change (h.seek now accepts d _).phase? d ≠ _
    unfold seek
    split <;> simp [setPhase, hx]
  | passing hp ht | missed hp =>
    rw [hp]
    change (h.pass d _).phase? d ≠ _
    unfold pass
    split <;> simp [setPhase, goFresh, hx]
  | entering hp ht =>
    rw [hp]
    change (h.enter d).phase? d ≠ _
    unfold enter
    split <;> simp [setPhase, hx]
  | queued hp ht =>
    rw [hp]
    change (h.turn now accepts d .queued).phase? d ≠ _
    simp [turn, hq hp, setPhase, hx]
  | establishing hp =>
    rw [hp]
    change (h.established d (.ok ⟨0, "h2"⟩) (.establishing true)).phase? d ≠ _
    simp [established, ofName_h2, hx]
  | connecting hp =>
    rw [hp]
    change (h.connected now d (.ok 0) (.connecting true)).phase? d ≠ _
    simp [connected, hx]
  | opening hp | reusing hp =>
    rw [hp]
    change (h.setPhase d _).phase? d ≠ _
    simp [setPhase, hx]
  | keeping hp =>
    rw [hp]
    change (h.keep d true 0).phase? d ≠ _
    unfold keep
    split
    · cases h.pool.slot <;> simp [setPhase, hx]
    · simp [setPhase, hx]
  | dropping hp | leaving hp =>
    rw [hp]
    change (setPhase _ d _).phase? d ≠ _
    simp [setPhase, hx]
  | ended hp => exact absurd hp (hnot _)

end Hub

end TunnelDial
