import Mathlib.Data.List.Induction
import TunnelDial.Proofs.Dial.Move
import TunnelDial.Proofs.Lease.Ledger

/-! Runs of a dialer with what came of it, event by event. -/
namespace TunnelDial
namespace Custody

variable {c : Custody} {e : CustodyEvent}

/-- What is not about a dial touches nothing of the dials but the holders of some group, and hands
no tunnel over. -/
theorem hub_step (c : Custody) (e : CustodyEvent) :
    (∃ now accepts e', e = .dial now accepts e' ∧ (c.step e).hub = c.hub.step now accepts e') ∨
      e.dial? = none ∧
        (c.step e).hub = { c.hub with pool := { c.hub.pool with ledger := (c.step e).ledger } } ∧
        (c.step e).ledger.groups.length = c.ledger.groups.length ∧
        (c.step e).tunnels.length = c.tunnels.length := by
  cases e with
  | dial now accepts e => exact .inl ⟨now, accepts, e, rfl, rfl⟩
  | close t =>
    refine .inr ⟨rfl, ?_⟩
    simp only [step]
    split
    · rename_i x hx
      unfold MuxTunnel.close
      cases x.mux.lease with
      | none => exact ⟨rfl, rfl, List.length_set⟩
      | some g => exact ⟨rfl, Ledger.length_release .., List.length_set⟩
    · exact ⟨rfl, rfl, rfl⟩
  | closeTransport t =>
    refine .inr ⟨rfl, ?_⟩
    simp only [step]
    split
    · rename_i x hx
      unfold MuxTunnel.closeTransport
      cases hg : x.mux.lease with
      | none => exact ⟨rfl, rfl, List.length_set⟩
      | some g =>
        dsimp only
        split
        · simp only [MuxTunnel.close, hg]
          exact ⟨rfl, (Ledger.length_release ..).trans (Ledger.length_close ..), List.length_set⟩
        · exact ⟨rfl, rfl, List.length_set⟩
    · exact ⟨rfl, rfl, rfl⟩
  | clone g =>
    refine .inr ⟨rfl, ?_⟩
    simp only [step]
    split
    · exact ⟨rfl, Ledger.length_retain .., rfl⟩
    · exact ⟨rfl, rfl, rfl⟩
  | giveBack g =>
    refine .inr ⟨rfl, ?_⟩
    simp only [step]
    split
    · exact ⟨rfl, Ledger.length_release .., rfl⟩
    · exact ⟨rfl, rfl, rfl⟩

/-- An event is a move of some dial, or leaves the gate, and what is known of the proxy, as it is.
-/
theorem gate_step (c : Custody) (e : CustodyEvent) :
    ((c.step e).hub.gate = c.hub.gate ∧ (c.step e).hub.known = c.hub.known ∧
      (c.step e).hub.reuse = c.hub.reuse) ∨
    ∃ now accepts e' d x y s, c.hub.dials[d]? = some x ∧ c.hub.Move now accepts d x e' y s ∧
      (c.step e).hub = s.setDial d fun _ => y := by
  rcases hub_step c e with ⟨now, accepts, e', rfl, hs⟩ | ⟨_, hs, _⟩
  · rcases Hub.step_cases now accepts c.hub e' with
      ⟨hh, _⟩ | ⟨_, _, rfl, hh⟩ | ⟨rfl, hh⟩ | ⟨d, x, y, s, _, hx, hm, hh⟩
    · exact .inl (by simp [hs, hh])
    · exact .inl (by simp [hs, hh])
    · exact .inl (by simp [hs, hh])
    · exact .inr ⟨now, accepts, e', d, x, y, s, hx, hm, hs.trans hh⟩
  · exact .inl (by simp [hs])

/-- A dial after an event is new, or was there and is the same, or made the move. -/
theorem getElem?_step {i : Nat} {y : Dial} (hy : (c.step e).hub.dials[i]? = some y) :
    (∃ now accepts cancelled request, e = .dial now accepts (.arrive cancelled request) ∧
      i = c.hub.dials.length ∧ y = .start request (c.hub.entry cancelled)) ∨
    (c.hub.dials[i]? = some y ∧ ((c.step e).ledger = c.ledger ∨ e.dial? ≠ some i)) ∨
    ∃ now accepts e' x s, e = .dial now accepts e' ∧ e'.dial? = some i ∧
      c.hub.dials[i]? = some x ∧ c.hub.Move now accepts i x e' y s ∧
      (c.step e).hub = s.setDial i fun _ => y := by
  rcases hub_step c e with ⟨now, accepts, e', rfl, hs⟩ | ⟨hd, hs, _⟩
  · rw [hs] at hy
    rcases Hub.getElem?_step hy with
      ⟨cancelled, request, rfl, hi, hy⟩ | ⟨hy, hsame⟩ | ⟨x, s, hd, hx, hm, he⟩
    · exact .inl ⟨now, accepts, cancelled, request, rfl, hi, hy⟩
    · refine .inr (.inl ⟨hy, hsame.imp_left fun he => ?_⟩)
      rw [ledger, hs, he, ledger]
    · exact .inr (.inr ⟨now, accepts, e', x, s, rfl, hd, hx, hm, hs.trans he⟩)
  · rw [hs] at hy
    exact .inr (.inl ⟨hy, .inr (by simp [hd])⟩)

theorem ledger_move {i : Nat} {s : Hub} {y : Dial} (hs : (c.step e).hub = s.setDial i fun _ => y) :
    (c.step e).ledger = s.pool.ledger := by rw [ledger, hs, Hub.setDial]

theorem length_dials_le (c : Custody) (e : CustodyEvent) :
    c.hub.dials.length ≤ (c.step e).hub.dials.length := by
  rcases hub_step c e with ⟨now, accepts, e', rfl, hs⟩ | ⟨_, hs, _⟩
  · rcases Hub.step_cases now accepts c.hub e' with
      ⟨hh, _⟩ | ⟨cancelled, request, rfl, hh⟩ | ⟨rfl, hh⟩ | ⟨d, x, x', s, _, _, hm, hh⟩
    · exact Nat.le_of_eq (by rw [hs, hh])
    · rw [hs, hh]
      simp
    · exact Nat.le_of_eq (by rw [hs, hh])
    · have hlen : (s.setDial d fun _ => x').dials.length = s.dials.length := by simp [Hub.setDial]
      exact Nat.le_of_eq (by rw [hs, hh, hlen, hm.dials_eq])
  · exact Nat.le_of_eq (by rw [hs])

/-- A dial stays the same, or makes a move. -/
theorem dial_step {d : Nat} {x : Dial} (hx : c.hub.dials[d]? = some x) (e : CustodyEvent) :
    ∃ y, (c.step e).hub.dials[d]? = some y ∧
      (y = x ∨ ∃ now accepts e' s, c.hub.Move now accepts d x e' y s) := by
  have hlt := (List.getElem?_eq_some_iff.mp hx).1
  have hle := length_dials_le c e
  have hy : (c.step e).hub.dials[d]? = some (c.step e).hub.dials[d] :=
    List.getElem?_eq_getElem (by omega)
  refine ⟨_, hy, ?_⟩
  rcases getElem?_step hy with
    ⟨_, _, _, _, _, hd, _⟩ | ⟨hy', _⟩ | ⟨now, accepts, e', x', s, _, _, hx', hm, _⟩
  · omega
  · exact .inl (Option.some.inj (hy'.symm.trans hx))
  · cases hx.symm.trans hx'
    exact .inr ⟨now, accepts, e', s, hm⟩

theorem run_append (timeout : Nat) (reuse : Bool) (es fs : List CustodyEvent) :
    run timeout reuse (es ++ fs) = (run timeout reuse es).after fs := by
  simp [run, after]

theorem run_concat (timeout : Nat) (reuse : Bool) (es : List CustodyEvent) (e : CustodyEvent) :
    run timeout reuse (es ++ [e]) = (run timeout reuse es).step e := run_append ..

/-- What every dial has as it comes, keeps through the events that leave it alone, and has after
each of its own moves, it has in every run. -/
theorem dial_run {P : List CustodyEvent → Dial → Prop} {timeout : Nat} {reuse : Bool} {d : Nat}
    (harrive : ∀ es (h : Hub) cancelled request, P es (.start request (h.entry cancelled)))
    (hkeep : ∀ es e x, P es x → P (es ++ [e]) x)
    (hmove : ∀ es now accepts e x y s, (run timeout reuse es).hub.dials[d]? = some x →
      (run timeout reuse es).hub.Move now accepts d x e y s → e.dial? = some d → P es x →
        P (es ++ [.dial now accepts e]) y)
    (es : List CustodyEvent) {x : Dial} (hx : (run timeout reuse es).hub.dials[d]? = some x) :
    P es x := by
  induction es using List.reverseRecOn generalizing x with
  | nil => simp [run, after, start, Hub.start] at hx
  | append_singleton es e ih =>
    rw [run_concat] at hx
    rcases getElem?_step hx with
      ⟨_, _, cancelled, request, _, _, rfl⟩ | ⟨hx, _⟩ |
        ⟨now, accepts, e', y, s, rfl, hd, hy, hm, _⟩
    · exact harrive _ _ cancelled request
    · exact hkeep es e x (ih hx)
    · exact hmove es now accepts e' y x s hy hm hd (ih hy)

/-- What a new dialer has, and every event of a dial and every change of the ledger keep, a dialer
has in every run. -/
theorem hub_run {P : Hub → Prop} {timeout : Nat} {reuse : Bool} (hstart : P (.start timeout reuse))
    (hstep : ∀ h now accepts e, P h → P (h.step now accepts e))
    (hledger : ∀ (h : Hub) (l : Ledger), P h → P { h with pool := { h.pool with ledger := l } })
    (es : List CustodyEvent) : P (run timeout reuse es).hub := by
  induction es using List.reverseRecOn with
  | nil => exact hstart
  | append_singleton es e ih =>
    rw [run_concat]
    rcases hub_step (run timeout reuse es) e with ⟨now, accepts, e', rfl, hs⟩ | ⟨_, hs, _⟩
    · rw [hs]
      exact hstep _ now accepts e' ih
    · rw [hs]
      exact hledger _ _ ih

end Custody
end TunnelDial
