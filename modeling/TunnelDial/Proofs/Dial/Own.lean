import TunnelDial.Proofs.Dial.Holders

/-! What a dial built itself. The transport that a dial opened is the dial's alone until it is put
into the slot, and a connection that it established is let go exactly when the dial is lost. -/
namespace TunnelDial

/-- The group of the dial's own transport, before that is kept. -/
def Phase.pending : Phase → Option Nat
  | opening _ g _ => some g
  | keeping _ g => some g
  | dropping _ p => p.pending
  | _ => none

/-- The outcome of a dial that is about to end or has ended. -/
def Phase.outcome? : Phase → Option Outcome
  | dropping _ p => p.outcome?
  | leaving _ o => some o
  | ended o => some o
  | _ => none

namespace Dial

/-- The dial is to end, or ended, without a tunnel. -/
def isLost (x : Dial) : Bool := x.phase.outcome?.any Outcome.isLoss

/-- The connection that the dial established, unless it went into a transport. -/
def plainLink? (x : Dial) : Option Nat :=
  x.reached.bind fun c => if Protocol.ofName c.protocol = .ok .http2 then none else some c.link

/-- The connection that the dial had for itself and let go. -/
def letGo? (x : Dial) : Option Nat := if x.isLost then x.plainLink? else none

/-- The dial has its own transport exactly while it opens it and after. -/
structure Placed (x : Dial) : Prop where
  owner : ∀ g, x.phase.pending = some g → x.own = some g
  place : ∀ g, x.own = some g → x.phase.pending = some g ∨ x.phase.outcome?.isSome = true

/-- Nobody but the dial may hold the transport that it opened. -/
def Sealed (x : Dial) (g : Nat) : Prop :=
  x.own = some g ∧ (x.phase.pending = some g ∨ x.isLost = true)

/-- The dial has a connection for itself exactly while it makes an exchange on it, and after. -/
structure Linked (x : Dial) : Prop where
  reached : ∀ k, x.phase.link? = some k → x.plainLink? = some k
  place : ∀ k, x.plainLink? = some k →
    x.phase.link? = some k ∨ x.phase.outcome?.isSome = true

end Dial

theorem Loss.isLoss {p : Phase} {e : DialEvent} {o : Outcome} (hl : Loss p e o) :
    o.isLoss = true := by cases hl <;> rfl

theorem Loss.outcome?_eq_none {p : Phase} {e : DialEvent} {o : Outcome} (hl : Loss p e o) :
    p.outcome? = none := by
  cases hl with
  | cancelled hc => cases p <;> first | rfl | cases hc
  | abandoned hr => cases p <;> first | rfl | cases hr
  | _ => rfl

@[simp] theorem Phase.pending_unwind (p : Phase) (o : Outcome) : (p.unwind o).pending = none := by
  cases p <;> rfl

@[simp] theorem Phase.outcome?_unwind (p : Phase) (o : Outcome) :
    (p.unwind o).outcome? = some o := by cases p <;> rfl

@[simp] theorem Phase.link?_unwind (p : Phase) (o : Outcome) : (p.unwind o).link? = none := by
  cases p <;> rfl

namespace Hub

variable {now : Nat} {accepts : Nat → Bool} {h s : Hub} {d : Nat} {x x' : Dial} {e : DialEvent}

theorem Move.placed (hm : Move now accepts h d x e x' s) (hp : x.Placed) : x'.Placed := by
  obtain ⟨ho, hpl⟩ := hp
  cases hm with
  | lost hd hl => exact ⟨by simp, by simp⟩
  | gaveBack hph =>
    simp only [hph, Phase.pending, Phase.outcome?] at ho hpl
    exact ⟨ho, hpl⟩
  | _ => constructor <;> simp_all [Phase.pending, Phase.outcome?]

theorem Move.linked (hm : Move now accepts h d x e x' s) (hl : x.Linked) : x'.Linked := by
  obtain ⟨hr, hp⟩ := hl
  cases hm with
  | lost hd hl => exact ⟨by simp, by simp⟩
  | gaveBack hph =>
    simp only [hph, Phase.link?, Phase.outcome?] at hr hp
    exact ⟨hr, hp⟩
  | _ => constructor <;> simp_all [Phase.outcome?, Phase.link?, Dial.plainLink?]

/-- The connections that a move lets go are those that its dial let go by it. -/
theorem Move.letGo (hm : Move now accepts h d x e x' s) (hx : x.Linked) :
    ∃ new, s.dropped = new ++ h.dropped ∧ x'.letGo?.toList = new ++ x.letGo?.toList := by
  have same (hs : s.dropped = h.dropped) (hl : x'.letGo? = x.letGo?) :
      ∃ new, s.dropped = new ++ h.dropped ∧ x'.letGo?.toList = new ++ x.letGo?.toList :=
    ⟨[], hs, by rw [hl]; rfl⟩
  cases hm with
  | @lost _ o hd hl =>
    refine ⟨_, rfl, ?_⟩
    have hnot : x.letGo? = none := by simp [Dial.letGo?, Dial.isLost, hl.outcome?_eq_none]
    have hnow : ({ x with phase := x.phase.unwind o } : Dial).letGo? = x.plainLink? := by
      simp [Dial.letGo?, Dial.isLost, hl.isLoss, Dial.plainLink?]
    have hlink : x.plainLink? = x.phase.link? := by
      refine Option.ext fun k => ⟨fun hk => ?_, hx.reached k⟩
      simpa [hl.outcome?_eq_none] using hx.place k hk
    rw [hnot, hnow, hlink, Option.toList_none, List.append_nil]
  | @reachedOther gated c f hp hc =>
    exact ⟨[c.link], rfl, by
      simp [Dial.letGo?, Dial.isLost, hp, Phase.outcome?, Outcome.isLoss, Dial.plainLink?, hc]⟩
  | gaveBack hp | left hp => exact same rfl (by simp only [Dial.letGo?, Dial.isLost, hp]; rfl)
  | found hp | missed hp | evicted hp | outlived hp | approached hp | wentFresh hp | tookGate hp
  | linedUp hp | gotGate hp | replaced hp | kept hp | unkept hp | reuseGranted hp | reuseFailed hp
  | openGranted hp | reachedHttp1 hp | reachedHttp2 hp | exchanged hp | built hp =>
    exact same rfl (by simp [Dial.letGo?, Dial.isLost, hp, Phase.outcome?, Outcome.isLoss])

/-- Before a move, a transport that is the dial's alone after it was that too, or the move built
it. -/
theorem Move.of_sealed {g : Nat} (hm : Move now accepts h d x e x' s) (hx : x.Placed)
    (hs : x'.Sealed g) :
    x.Sealed g ∨ g = h.pool.ledger.groups.length ∧ s.pool.ledger.holders g = 2 ∧
      x'.phase.leases.count g = 2 := by
  obtain ⟨ho, hp⟩ := hs
  cases hm with
  | lost hd hl =>
    have := hx.place g ho
    rw [hl.outcome?_eq_none] at this
    exact .inl ⟨ho, .inl (by simpa using this)⟩
  | @built gated transport hph =>
    obtain rfl : h.pool.ledger.groups.length = g := by simpa using ho
    have h0 : h.pool.ledger.holders h.pool.ledger.groups.length = 0 := by
      by_contra hpos
      exact Nat.lt_irrefl _ (Ledger.lt_of_holders_pos (Nat.pos_of_ne_zero hpos))
    refine .inr ⟨rfl, ?_, by simp [Phase.leases]⟩
    simp [Pool.retain, Pool.issue, Ledger.holders_retain (Ledger.holders_issue_pos _ _),
      Ledger.holders_issue, h0]
  | reachedOther hph =>
    have := hx.place g ho
    simp [hph, Phase.pending, Phase.outcome?] at this
  | found hph | missed hph | evicted hph | outlived hph | approached hph | wentFresh hph
  | tookGate hph | linedUp hph | gotGate hph | replaced hph | kept hph | unkept hph
  | gaveBack hph | left hph | reuseGranted hph | reuseFailed hph | openGranted hph
  | reachedHttp1 hph | reachedHttp2 hph | exchanged hph =>
    refine .inl ⟨ho, ?_⟩
    simp_all [Dial.isLost, Phase.pending, Phase.outcome?, Outcome.isLoss]

/-- A dial gets a transport of its own only by building it, and keeps it. -/
theorem Move.own_eq (hm : Move now accepts h d x e x' s) (hx : x.Placed) :
    (x'.own = x.own ∧ s.pool.ledger.groups.length = h.pool.ledger.groups.length) ∨
      x.own = none ∧ x'.own = some h.pool.ledger.groups.length ∧
        s.pool.ledger.groups.length = h.pool.ledger.groups.length + 1 := by
  cases hm with
  | built hp =>
    refine .inr ⟨Option.eq_none_iff_forall_ne_some.mpr fun g hg => ?_, rfl, ?_⟩
    · have := hx.place g hg
      simp [hp, Phase.pending, Phase.outcome?] at this
    · simp [Pool.retain, Pool.issue]
  | found | gaveBack => exact .inl ⟨rfl, by simp [Pool.retain, Pool.release]⟩
  | _ => exact .inl ⟨rfl, rfl⟩

/-- A transport that is a dial's alone goes neither into the slot nor to a caller. -/
theorem Move.sealed_stays {g : Nat} (hm : Move now accepts h d x e x' s)
    (hx : h.dials[d]? = some x) (hs : x'.Sealed g) :
    s.pool.slot.toList.count g ≤ h.pool.slot.toList.count g ∧
      (h.handed e).toList.countP (fun y => y.mux.lease == some g) = 0 := by
  obtain ⟨_, hp⟩ := hs
  cases hm with
  | @left gated o hph =>
    rw [handed_turn hx hph]
    cases o with
    | stream g' => simp [Dial.isLost, Phase.pending, Phase.outcome?, Outcome.isLoss] at hp
    | plain | failed | givenUp => simp [Phase.leases]
  | kept hph | replaced hph =>
    simp [Dial.isLost, Phase.pending, Phase.outcome?, Outcome.isLoss] at hp
  | lost hd hl =>
    refine ⟨Nat.le_refl _, ?_⟩
    rw [handed_eq_none hx hd fun gated o hph => ?_]
    · rfl
    · have hn := hl.outcome?_eq_none
      simp [hph, Phase.outcome?] at hn
  | reuseFailed hph hd =>
    rw [handed_eq_none hx hd (by simp [hph])]
    exact ⟨Nat.le_refl _, rfl⟩
  | evicted hph hsl =>
    rw [handed_eq_none hx rfl (by simp [hph])]
    exact ⟨by simp [Pool.vacate], rfl⟩
  | found hph | missed hph | outlived hph | approached hph | wentFresh hph | tookGate hph
  | linedUp hph | gotGate hph | unkept hph | gaveBack hph | reuseGranted hph | openGranted hph
  | reachedHttp1 hph | reachedHttp2 hph | reachedOther hph | exchanged hph | built hph =>
    rw [handed_eq_none hx rfl (by simp [hph])]
    exact ⟨Nat.le_refl _, rfl⟩

/-- Two dials hold their leases side by side. -/
theorem count_add_count_le_held {i : Nat} {y : Dial} (hx : h.dials[d]? = some x)
    (hy : h.dials[i]? = some y) (hne : d ≠ i) (g : Nat) :
    x.phase.leases.count g + y.phase.leases.count g ≤ h.held g := by
  have hy' : (h.setDial d fun _ => { x with phase := .queued }).dials[i]? = some y := by
    rw [getElem?_setDial hx, if_neg hne, hy]
  have h1 := count_le_held hy' g
  have h2 := held_setDial hx { x with phase := .queued } g
  simp only [Phase.leases, List.count_nil] at h2
  omega

end Hub

end TunnelDial
