import TunnelDial.Proofs.Dial.Run

/-! The gate in every run. It is a line of dials whose first holds it; the dials in line are those
that negotiate behind the gate, those that wait for it, and those that gave up waiting and are about
to leave, so one dial at a time is past the gate. -/
namespace TunnelDial

namespace Gate

variable {g : Gate} {d : Nat}

/-- All that stand at the gate, the holder first. -/
def line (g : Gate) : List Nat := g.holder.toList ++ g.queue

/-- Nobody waits for a gate that is free. -/
def Sound (g : Gate) : Prop := g.holder = none → g.queue = []

theorem sound_free : free.Sound := fun _ => rfl

theorem mem_line_of_holder (hd : g.holder = some d) : d ∈ g.line := by simp [line, hd]

theorem sound_enter (g : Gate) (d : Nat) : (g.enter d).Sound := by
  unfold enter Sound
  cases hh : g.holder with
  | none => simp
  | some i => simp

theorem line_enter (hs : g.Sound) (d : Nat) : (g.enter d).line = g.line ++ [d] := by
  unfold enter line
  cases hh : g.holder with
  | none => simp [hs hh]
  | some i => simp

theorem holder_enter (g : Gate) (d : Nat) : (g.enter d).holder = some (g.holder.getD d) := by
  unfold enter
  cases g.holder <;> simp

theorem holder_leave_of_ne {i : Nat} (hi : g.holder = some i) (hne : d ≠ i) :
    (g.leave d).holder = some i := by
  have hd : ¬g.holder = some d := fun hd => hne (Option.some.inj (hd.symm.trans hi))
  rw [leave, if_neg hd]
  exact hi

theorem sound_leave (hs : g.Sound) (d : Nat) : (g.leave d).Sound := by
  unfold leave
  split
  · intro hn
    have he : g.queue = [] := by simpa [pass] using hn
    simp [pass, he]
  · intro hn
    simp [hs hn]

/-- Whoever leaves is out of the line, and the others stay in order. -/
theorem line_leave (hn : g.line.Nodup) (d : Nat) : (g.leave d).line = g.line.filter (· ≠ d) := by
  unfold leave
  by_cases hd : g.holder = some d
  · have hnot : d ∉ g.queue := by
      rw [line, hd] at hn
      exact (List.nodup_cons.mp hn).1
    have hq : g.queue.filter (· ≠ d) = g.queue := by
      rw [List.filter_eq_self]
      intro i hi
      have hne : i ≠ d := fun he => hnot (he ▸ hi)
      simpa using hne
    have hpass : g.pass.line = g.queue := by
      unfold pass line
      cases g.queue <;> rfl
    rw [if_pos hd, hpass, line, hd, List.filter_append, hq]
    simp
  · rw [if_neg hd]
    unfold line
    rw [List.filter_append]
    congr 1
    cases hh : g.holder with
    | none => rfl
    | some i =>
      have hi : i ≠ d := fun he => hd (he ▸ hh)
      simp [hi]

end Gate

namespace Phase

/-- The dial waits for the gate. -/
def isQueued : Phase → Bool
  | queued => true
  | dropping _ p => p.isQueued
  | _ => false

/-- A dial in that phase may be in line at the gate. -/
def stands : Phase → Bool
  | queued => true
  | leaving .. => true
  | dropping _ p => p.stands
  | p => p.gated

@[simp] theorem gated_unwind (p : Phase) (o : Outcome) : (p.unwind o).gated = p.gated := by
  cases p <;> rfl

@[simp] theorem isQueued_unwind (p : Phase) (o : Outcome) : (p.unwind o).isQueued = false := by
  cases p <;> rfl

@[simp] theorem stands_unwind (p : Phase) (o : Outcome) : (p.unwind o).stands = true := by
  cases p <;> rfl

end Phase

namespace Hub

variable {now : Nat} {accepts : Nat → Bool} {h s : Hub} {d : Nat} {x x' : Dial} {e : DialEvent}

/-- The line at the gate fits the phases of the dials. -/
structure Guarded (h : Hub) : Prop where
  sound : h.gate.Sound
  nodup : h.gate.line.Nodup
  holds : ∀ (d : Nat) (x : Dial), h.dials[d]? = some x → x.phase.gated = true →
    h.gate.holder = some d
  waits : ∀ (d : Nat) (x : Dial), h.dials[d]? = some x → x.phase.isQueued = true →
    d ∈ h.gate.line
  stands : ∀ d ∈ h.gate.line, ∃ x : Dial, h.dials[d]? = some x ∧ x.phase.stands = true

theorem guarded_start (timeout : Nat) (reuse : Bool) : (start timeout reuse).Guarded where
  sound := Gate.sound_free
  nodup := List.nodup_nil
  holds _ _ hx := by simp [start] at hx
  waits _ _ hx := by simp [start] at hx
  stands d hd := by simp [start, Gate.free, Gate.line] at hd

/-- No two dials are past the gate at once. -/
theorem Guarded.unique (hg : h.Guarded) {i : Nat} {y : Dial} (hx : h.dials[d]? = some x)
    (hy : h.dials[i]? = some y) (hxg : x.phase.gated = true) (hyg : y.phase.gated = true) :
    d = i :=
  Option.some.inj ((hg.holds d x hx hxg).symm.trans (hg.holds i y hy hyg))

/-- While a dial waits, another one or its own turn holds the gate. -/
theorem Guarded.holder_of_queued (hg : h.Guarded) (hx : h.dials[d]? = some x)
    (hp : x.phase.isQueued = true) :
    ∃ i y, h.gate.holder = some i ∧ h.dials[i]? = some y ∧ y.phase.stands = true := by
  have hd := hg.waits d x hx hp
  cases hh : h.gate.holder with
  | none =>
    rw [Gate.line, hh, hg.sound hh] at hd
    cases hd
  | some i =>
    obtain ⟨y, hy, hs⟩ := hg.stands i (Gate.mem_line_of_holder hh)
    exact ⟨i, y, rfl, hy, hs⟩

/-- What a move does at the gate: nothing, or the dial has its turn, comes, or goes. -/
theorem Move.gate (hm : Move now accepts h d x e x' s) :
    (s.gate = h.gate ∧ (x'.phase.gated = x.phase.gated ∨ h.gate.holder = some d) ∧
      (x'.phase.isQueued = true → x.phase.isQueued = true) ∧
      (x.phase.stands = true → x'.phase.stands = true)) ∨
    (s.gate = h.gate.enter d ∧ x.phase.stands = false ∧ x'.phase.stands = true ∧
      (x'.phase.gated = true → h.gate.holder = none)) ∨
    s.gate = h.gate.leave d ∧ x'.phase.gated = false ∧ x'.phase.isQueued = false := by
  cases hm with
  | tookGate hp hh =>
    exact .inr (.inl ⟨rfl, by rw [hp]; rfl, rfl, fun _ => hh⟩)
  | linedUp hp hh => exact .inr (.inl ⟨rfl, by rw [hp]; rfl, rfl, nofun⟩)
  | gotGate hp hh => exact .inl ⟨rfl, .inr hh, nofun, fun _ => rfl⟩
  | left hp => exact .inr (.inr ⟨rfl, rfl, rfl⟩)
  | lost hd hl => exact .inl ⟨rfl, .inl (by simp), by simp, by simp⟩
  | gaveBack hp =>
    exact .inl ⟨rfl, .inl (by rw [hp]; rfl), by rw [hp]; exact id, by rw [hp]; exact id⟩
  | found hp | missed hp | evicted hp | outlived hp | approached hp | wentFresh hp | replaced hp
  | kept hp | unkept hp | reuseGranted hp | reuseFailed hp | openGranted hp | reachedHttp1 hp
  | reachedHttp2 hp | reachedOther hp | exchanged hp | built hp =>
    exact .inl ⟨rfl, .inl (by simp [hp, Phase.gated]), by simp [Phase.isQueued],
      by simp [hp, Phase.stands, Phase.gated]⟩

section

variable {h' : Hub} (hget : ∀ i, h'.dials[i]? = if d = i then some x' else h.dials[i]?)

include hget

theorem dial_or {i : Nat} {y : Dial} (hy : h'.dials[i]? = some y) :
    d = i ∧ x' = y ∨ d ≠ i ∧ h.dials[i]? = some y := by
  rw [hget] at hy
  by_cases hi : d = i
  · exact .inl ⟨hi, by simpa [hi] using hy⟩
  · exact .inr ⟨hi, by simpa [hi] using hy⟩

/-- A dial moves on without a change of the line. -/
theorem Guarded.stay (hg : h.Guarded) (hx : h.dials[d]? = some x) (hgate : h'.gate = h.gate)
    (hgated : x'.phase.gated = x.phase.gated ∨ h.gate.holder = some d)
    (hq : x'.phase.isQueued = true → x.phase.isQueued = true)
    (hst : x.phase.stands = true → x'.phase.stands = true) : h'.Guarded where
  sound := hgate ▸ hg.sound
  nodup := hgate ▸ hg.nodup
  holds i y hy hyg := by
    rw [hgate]
    rcases dial_or hget hy with ⟨rfl, rfl⟩ | ⟨_, hy⟩
    · rcases hgated with hsame | hholder
      · exact hg.holds d x hx (hsame ▸ hyg)
      · exact hholder
    · exact hg.holds i y hy hyg
  waits i y hy hyq := by
    rw [hgate]
    rcases dial_or hget hy with ⟨rfl, rfl⟩ | ⟨_, hy⟩
    · exact hg.waits d x hx (hq hyq)
    · exact hg.waits i y hy hyq
  stands i hi := by
    rw [hgate] at hi
    obtain ⟨y, hy, hys⟩ := hg.stands i hi
    by_cases hdi : d = i
    · subst hdi
      cases hx.symm.trans hy
      exact ⟨x', by rw [hget, if_pos rfl], hst hys⟩
    · exact ⟨y, by rw [hget, if_neg hdi, hy], hys⟩

/-- A dial comes to the gate. -/
theorem Guarded.come (hg : h.Guarded) (hx : h.dials[d]? = some x)
    (hgate : h'.gate = h.gate.enter d) (hno : x.phase.stands = false)
    (hst : x'.phase.stands = true) (hfree : x'.phase.gated = true → h.gate.holder = none) :
    h'.Guarded := by
  have hline : h'.gate.line = h.gate.line ++ [d] := by rw [hgate, Gate.line_enter hg.sound]
  have hnot : d ∉ h.gate.line := by
    intro hd
    obtain ⟨y, hy, hys⟩ := hg.stands d hd
    cases hx.symm.trans hy
    rw [hno] at hys
    cases hys
  constructor
  · rw [hgate]
    exact Gate.sound_enter h.gate d
  · rw [hline]
    exact List.nodup_append.mpr ⟨hg.nodup, by simp, by
      intro i hi j hj hij
      rw [List.mem_singleton] at hj
      exact hnot (hj ▸ hij ▸ hi)⟩
  · intro i y hy hyg
    rw [hgate, Gate.holder_enter]
    rcases dial_or hget hy with ⟨rfl, rfl⟩ | ⟨_, hy⟩
    · rw [hfree hyg]
      rfl
    · rw [hg.holds i y hy hyg]
      rfl
  · intro i y hy hyq
    rw [hline]
    rcases dial_or hget hy with ⟨rfl, rfl⟩ | ⟨_, hy⟩
    · simp
    · exact List.mem_append_left _ (hg.waits i y hy hyq)
  · intro i hi
    rw [hline, List.mem_append, List.mem_singleton] at hi
    rcases hi with hi | rfl
    · obtain ⟨y, hy, hys⟩ := hg.stands i hi
      have hdi : d ≠ i := fun hdi => hnot (hdi ▸ hi)
      exact ⟨y, by rw [hget, if_neg hdi, hy], hys⟩
    · exact ⟨x', by rw [hget, if_pos rfl], hst⟩

/-- A dial goes from the gate. -/
theorem Guarded.go (hg : h.Guarded) (hgate : h'.gate = h.gate.leave d)
    (hgated : x'.phase.gated = false) (hq : x'.phase.isQueued = false) : h'.Guarded := by
  have hline : h'.gate.line = h.gate.line.filter (· ≠ d) := by
    rw [hgate, Gate.line_leave hg.nodup]
  constructor
  · rw [hgate]
    exact Gate.sound_leave hg.sound d
  · rw [hline]
    exact hg.nodup.filter _
  · intro i y hy hyg
    rcases dial_or hget hy with ⟨rfl, rfl⟩ | ⟨hdi, hy⟩
    · rw [hgated] at hyg
      cases hyg
    · rw [hgate]
      exact Gate.holder_leave_of_ne (hg.holds i y hy hyg) hdi
  · intro i y hy hyq
    rcases dial_or hget hy with ⟨rfl, rfl⟩ | ⟨hdi, hy⟩
    · rw [hq] at hyq
      cases hyq
    · rw [hline]
      exact List.mem_filter.mpr ⟨hg.waits i y hy hyq, by simpa using Ne.symm hdi⟩
  · intro i hi
    rw [hline, List.mem_filter] at hi
    obtain ⟨y, hy, hys⟩ := hg.stands i hi.1
    have hdi : d ≠ i := by
      have := hi.2
      simp only [decide_eq_true_eq] at this
      exact this.symm
    exact ⟨y, by rw [hget, if_neg hdi, hy], hys⟩

end

theorem Guarded.move (hg : h.Guarded) (hx : h.dials[d]? = some x)
    (hm : Move now accepts h d x e x' s) : (s.setDial d fun _ => x').Guarded := by
  have hget := hm.getElem?_eq hx
  rcases hm.gate with ⟨hgate, hgated, hq, hst⟩ | ⟨hgate, hno, hst, hfree⟩ | ⟨hgate, hgated, hq⟩
  · exact hg.stay hget hx hgate hgated hq hst
  · exact hg.come hget hx hgate hno hst hfree
  · exact hg.go hget hgate hgated hq

theorem entry_apart (h : Hub) (cancelled : Bool) :
    (h.entry cancelled).gated = false ∧ (h.entry cancelled).isQueued = false := by
  rcases h.entry_eq cancelled with he | he | he <;> rw [he] <;> exact ⟨rfl, rfl⟩

theorem Guarded.step (hg : h.Guarded) (now : Nat) (accepts : Nat → Bool) (e : DialEvent) :
    (h.step now accepts e).Guarded := by
  rcases step_cases now accepts h e with
    ⟨hs, _⟩ | ⟨cancelled, request, rfl, hs⟩ | ⟨rfl, hs⟩ | ⟨d, x, x', s, _, hx, hm, hs⟩
  · rw [hs]
    exact hg
  · rw [hs]
    obtain ⟨hgated, hq⟩ := h.entry_apart cancelled
    have new {i : Nat} {y : Dial}
        (hy : (h.dials ++ [Dial.start request (h.entry cancelled)])[i]? = some y) :
        h.dials[i]? = some y ∨ y = Dial.start request (h.entry cancelled) := by
      rw [List.getElem?_append] at hy
      split at hy
      · exact .inl hy
      · rw [List.getElem?_singleton] at hy
        split at hy
        · exact .inr (Option.some.inj hy).symm
        · cases hy
    constructor
    · exact hg.sound
    · exact hg.nodup
    · intro i y hy hyg
      rcases new hy with hy | rfl
      · exact hg.holds i y hy hyg
      · rw [Dial.start, hgated] at hyg
        cases hyg
    · intro i y hy hyq
      rcases new hy with hy | rfl
      · exact hg.waits i y hy hyq
      · rw [Dial.start, hq] at hyq
        cases hyq
    · intro i hi
      obtain ⟨y, hy, hys⟩ := hg.stands i hi
      have hlt := (List.getElem?_eq_some_iff.mp hy).1
      exact ⟨y, by rw [List.getElem?_append_left hlt, hy], hys⟩
  · rw [hs]
    exact ⟨hg.sound, hg.nodup, hg.holds, hg.waits, hg.stands⟩
  · rw [hs]
    exact hg.move hx hm

end Hub

namespace Custody

theorem guarded_run (timeout : Nat) (reuse : Bool) (es : List CustodyEvent) :
    (run timeout reuse es).hub.Guarded := by
  apply hub_run
  · exact Hub.guarded_start timeout reuse
  · intro h now accepts e hg
    exact hg.step now accepts e
  · intro h l hg
    exact ⟨hg.sound, hg.nodup, hg.holds, hg.waits, hg.stands⟩

end Custody
end TunnelDial
