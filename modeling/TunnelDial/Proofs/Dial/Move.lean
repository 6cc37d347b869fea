import Mathlib.Data.List.Basic
import TunnelDial.Dial.Custody

/-! All that one event can do to a dial and to what the dials share. Every event about a dial either
changes nothing or is one of these moves, so what holds of each move holds of each run. -/
namespace TunnelDial

/-- The event ends a dial in that phase without a tunnel, before it has a transport that is kept. -/
inductive Loss : Phase → DialEvent → Outcome → Prop
  | reuseCancelled {gated l t d} :
      Loss (.reusing gated l t) (.answered d (.failed .cancelled)) (.failed .cancelled)
  | openRefused {gated l t d code} :
      Loss (.opening gated l t) (.answered d (.refused code)) (.failed (Hub.refusal code))
  | openFailed {gated l t d f} : Loss (.opening gated l t) (.answered d (.failed f)) (.failed f)
  | openExpired {gated l t d} :
      Loss (.opening gated l t) (.expired d) (.failed (.deadline "read"))
  | unreached {gated d f} : Loss (.establishing gated) (.established d (.error f)) (.failed f)
  | exchangeFailed {gated k d f} : Loss (.exchanging gated k) (.exchanged d (.error f)) (.failed f)
  | unbuilt {gated d f} : Loss (.connecting gated) (.connected d (.error f)) (.failed f)
  | cancelled {p d} : p.heedsCancel = true → Loss p (.cancelled d) (.failed .cancelled)
  | abandoned {p d} : p.isResting = true → Loss p (.abandoned d) .givenUp

/-- The event says that the request on the kept transport failed, other than by cancellation. -/
inductive KeptFailure : DialEvent → Prop
  | refused {d code} : KeptFailure (.answered d (.refused code))
  | failed {d f} : f ≠ .cancelled → KeptFailure (.answered d (.failed f))
  | expired {d} : KeptFailure (.expired d)

namespace Hub

/-- By the event, the dial `x` with number `d` becomes another one, and what the dials of `h` share
becomes that of another hub. -/
inductive Move (now : Nat) (accepts : Nat → Bool) (h : Hub) (d : Nat) (x : Dial) :
    DialEvent → Dial → Hub → Prop
  | found {gated g} : x.phase = .seeking gated → h.pool.slot = some g →
      h.pool.usable accepts g = true →
      Move now accepts h d x (.turn d)
        { x with phase := .reusing gated g (now + h.timeout), asked := x.asked ++ [g] }
        { h with pool := (h.pool.retain g).retain g }
  | missed {gated} : x.phase = .seeking gated → (h.pool.lookup accepts).2 = none →
      Move now accepts h d x (.turn d) { x with phase := .passing gated } h
  | evicted {gated g} : x.phase = .evicting gated g → h.pool.slot = some g →
      Move now accepts h d x (.turn d)
        { x with phase := .dropping g (.dropping g (.passing gated)) }
        { h with pool := h.pool.vacate }
  | outlived {gated g} : x.phase = .evicting gated g → h.pool.slot ≠ some g →
      Move now accepts h d x (.turn d) { x with phase := .dropping g (.passing gated) } h
  | approached : x.phase = .passing false → h.reuse = true → h.known ≠ some .http1 →
      Move now accepts h d x (.turn d) { x with phase := .entering } h
  | wentFresh {gated} : x.phase = .passing gated →
      gated = true ∨ h.reuse = false ∨ h.known = some .http1 →
      Move now accepts h d x (.turn d)
        { x with phase := .establishing gated, established := x.established + 1 } h
  | tookGate : x.phase = .entering → h.gate.holder = none →
      Move now accepts h d x (.turn d) { x with phase := .seeking true }
        { h with gate := h.gate.enter d }
  | linedUp : x.phase = .entering → h.gate.holder ≠ none →
      Move now accepts h d x (.turn d) { x with phase := .queued }
        { h with gate := h.gate.enter d }
  | gotGate : x.phase = .queued → h.gate.holder = some d →
      Move now accepts h d x (.turn d) { x with phase := .seeking true } h
  | replaced {gated g old} : x.phase = .keeping gated g → h.reuse = true →
      h.pool.slot = some old →
      Move now accepts h d x (.turn d)
        { x with phase := .dropping old (.leaving gated (.stream g)) }
        { h with pool := h.pool.fill g }
  | kept {gated g} : x.phase = .keeping gated g → h.reuse = true → h.pool.slot = none →
      Move now accepts h d x (.turn d) { x with phase := .leaving gated (.stream g) }
        { h with pool := h.pool.fill g }
  | unkept {gated g} : x.phase = .keeping gated g → h.reuse = false →
      Move now accepts h d x (.turn d)
        { x with phase := .dropping g (.leaving gated (.stream g)) } h
  | gaveBack {g p} : x.phase = .dropping g p →
      Move now accepts h d x (.turn d) { x with phase := p } { h with pool := h.pool.release g }
  | left {gated o} : x.phase = .leaving gated o →
      Move now accepts h d x (.turn d) { x with phase := .ended o }
        { h with gate := h.gate.leave d }
  | reuseGranted {gated g t} : x.phase = .reusing gated g t →
      Move now accepts h d x (.answered d .granted)
        { x with phase := .dropping g (.leaving gated (.stream g)) } h
  | reuseFailed {gated g t e} : x.phase = .reusing gated g t → e.dial? = some d → KeptFailure e →
      Move now accepts h d x e { x with phase := .dropping g (.evicting gated g) } h
  | openGranted {gated g t} : x.phase = .opening gated g t →
      Move now accepts h d x (.answered d .granted) { x with phase := .keeping gated g } h
  | reachedHttp1 {gated c} : x.phase = .establishing gated →
      Protocol.ofName c.protocol = .ok .http1 →
      Move now accepts h d x (.established d (.ok c))
        { x with phase := .exchanging gated c.link, reached := some c }
        { h with known := some .http1 }
  | reachedHttp2 {gated c} : x.phase = .establishing gated →
      Protocol.ofName c.protocol = .ok .http2 →
      Move now accepts h d x (.established d (.ok c))
        { x with phase := .connecting gated, connects := x.connects + 1, reached := some c }
        { h with known := some .http2 }
  | reachedOther {gated c f} : x.phase = .establishing gated →
      Protocol.ofName c.protocol = .error f →
      Move now accepts h d x (.established d (.ok c))
        { x with phase := .leaving gated (.failed f), reached := some c }
        { h with dropped := c.link :: h.dropped }
  | exchanged {gated k} : x.phase = .exchanging gated k →
      Move now accepts h d x (.exchanged d (.ok ())) { x with phase := .leaving gated .plain } h
  | built {gated transport} : x.phase = .connecting gated →
      Move now accepts h d x (.connected d (.ok transport))
        { x with
          phase := .opening gated h.pool.ledger.groups.length (now + h.timeout)
          asked := x.asked ++ [h.pool.ledger.groups.length]
          own := some h.pool.ledger.groups.length }
        { h with
          pool := (h.pool.issue transport).1.retain h.pool.ledger.groups.length }
  | lost {e o} : e.dial? = some d → Loss x.phase e o →
      Move now accepts h d x e { x with phase := x.phase.unwind o }
        { h with dropped := x.phase.link?.toList ++ h.dropped }

variable {now : Nat} {accepts : Nat → Bool} {h : Hub} {d : Nat} {x : Dial}

theorem phase?_eq_some {p : Phase} :
    h.phase? d = some p ↔ ∃ x, h.dials[d]? = some x ∧ x.phase = p := by
  simp [phase?]

@[simp] theorem phase?_setDial (h : Hub) (d : Nat) (f : Dial → Dial) :
    (h.setDial d f).phase? d = (h.dials[d]?).map fun x => (f x).phase := by
  simp [phase?, setDial, Function.comp_def]

theorem setDial_eq (hx : h.dials[d]? = some x) (s : Hub) (hs : s.dials = h.dials)
    (f : Dial → Dial) : s.setDial d f = s.setDial d fun _ => f x := by
  have hm : h.dials.modify d f = h.dials.modify d fun _ => f x := by
    apply List.ext_getElem?
    intro i
    rw [List.getElem?_modify, List.getElem?_modify]
    by_cases hi : d = i
    · subst hi
      simp [hx]
    · simp [hi]
  simp only [setDial, hs, hm]

/-- A change of one dial, with one of what is shared. -/
theorem Move.of_setDial {e : DialEvent} {x' : Dial} {s h' : Hub} (hx : h.dials[d]? = some x)
    (hm : Move now accepts h d x e x' s) (hs : s.dials = h.dials) (f : Dial → Dial)
    (hf : f x = x') (he : h' = s.setDial d f) :
    ∃ x' s, Move now accepts h d x e x' s ∧ h' = s.setDial d fun _ => x' :=
  ⟨x', s, hm, by rw [he, setDial_eq hx s hs, hf]⟩

theorem turn_move (hx : h.dials[d]? = some x) :
    h.turn now accepts d x.phase = h ∨
      ∃ x' s, Move now accepts h d x (.turn d) x' s ∧
        h.turn now accepts d x.phase = s.setDial d fun _ => x' := by
  cases hp : x.phase with
  | seeking gated =>
    right
    unfold turn seek
    cases hs : h.pool.slot with
    | none =>
      have hl : h.pool.lookup accepts = (h.pool, none) := by simp [Pool.lookup, hs]
      exact Move.of_setDial hx (.missed hp (by rw [hl])) rfl _ rfl (by simp only [hl]; rfl)
    | some g =>
      by_cases hu : h.pool.usable accepts g = true
      · have hl : h.pool.lookup accepts = (h.pool.retain g, some g) := by
          simp [Pool.lookup, hs, hu, Pool.retain]
        simp only [hl]
        exact Move.of_setDial hx (.found hp hs hu) rfl _ rfl rfl
      · have hl : h.pool.lookup accepts = (h.pool, none) := by simp [Pool.lookup, hs, hu]
        exact Move.of_setDial hx (.missed hp (by rw [hl])) rfl _ rfl (by simp only [hl]; rfl)
  | evicting gated g =>
    right
    by_cases hs : h.pool.slot = some g
    · exact Move.of_setDial hx (.evicted hp hs) rfl _ rfl (by simp only [turn, evict, hs]; rfl)
    · exact Move.of_setDial hx (.outlived hp hs) rfl _ rfl (by simp only [turn, evict, hs]; rfl)
  | passing gated =>
    right
    by_cases hc : (!gated && h.reuse && h.known != some .http1) = true
    · simp only [Bool.and_eq_true, Bool.not_eq_true', bne_iff_ne] at hc
      obtain ⟨⟨rfl, hr⟩, hk⟩ := hc
      exact Move.of_setDial hx (.approached hp hr hk) rfl _ rfl
        (by simp only [turn, pass, hr, bne_iff_ne.mpr hk]; rfl)
    · have hc' : gated = true ∨ h.reuse = false ∨ h.known = some .http1 := by
        cases gated <;> cases hr : h.reuse <;> simp_all
      exact Move.of_setDial hx (.wentFresh hp hc') rfl _ rfl
        (by simp only [turn, pass, if_neg hc]; rfl)
  | entering =>
    right
    by_cases hh : h.gate.holder = none
    · exact Move.of_setDial hx (.tookGate hp hh) rfl _ rfl
        (by simp only [turn, enter, hh]; rfl)
    · have hn : h.gate.holder.isNone = false := by simpa [Option.isSome_iff_ne_none] using hh
      exact Move.of_setDial hx (.linedUp hp hh) rfl _ rfl
        (by simp only [turn, enter, hn]; rfl)
  | queued =>
    by_cases hh : h.gate.holder = some d
    · exact .inr (Move.of_setDial hx (.gotGate hp hh) rfl _ rfl (by simp only [turn, hh]; rfl))
    · exact .inl (by simp only [turn, if_neg hh])
  | keeping gated g =>
    right
    by_cases hr : h.reuse = true
    · cases hs : h.pool.slot with
      | none =>
        exact Move.of_setDial hx (.kept hp hr hs) rfl _ rfl (by simp only [turn, keep, hr, hs]; rfl)
      | some old =>
        exact Move.of_setDial hx (.replaced hp hr hs) rfl _ rfl
          (by simp only [turn, keep, hr, hs]; rfl)
    · exact Move.of_setDial hx (.unkept hp (by simpa using hr)) rfl _ rfl
        (by simp only [turn, keep, hr]; rfl)
  | dropping g p => exact .inr (Move.of_setDial hx (.gaveBack hp) rfl _ rfl rfl)
  | leaving gated o => exact .inr (Move.of_setDial hx (.left hp) rfl _ rfl rfl)
  | reusing | establishing | exchanging | connecting | opening | ended => exact .inl rfl

/-- The end of a dial without a tunnel is a move. -/
theorem unwind_move {e : DialEvent} {p : Phase} {o : Outcome} (hx : h.dials[d]? = some x)
    (he : e.dial? = some d) (hp : x.phase = p) (hl : Loss p e o) :
    ∃ x' s, Move now accepts h d x e x' s ∧ h.unwind d p o = s.setDial d fun _ => x' := by
  subst hp
  exact Move.of_setDial hx (.lost he hl) rfl _ rfl rfl

theorem answered_move {e : DialEvent} {a : Answer} (hx : h.dials[d]? = some x)
    (he : e = .answered d a ∨ e = .expired d ∧ a = .failed (.deadline "read")) :
    h.answered d a x.phase = h ∨
      ∃ x' s, Move now accepts h d x e x' s ∧ h.answered d a x.phase = s.setDial d fun _ => x' := by
  have hd : e.dial? = some d := by rcases he with rfl | ⟨rfl, _⟩ <;> rfl
  cases hp : x.phase with
  | reusing gated g t =>
    right
    have hfail (hk : KeptFailure e) :
        ∃ x' s, Move now accepts h d x e x' s ∧
          h.setPhase d (.dropping g (.evicting gated g)) = s.setDial d fun _ => x' :=
      Move.of_setDial hx (.reuseFailed hp hd hk) rfl _ rfl rfl
    rcases he with rfl | ⟨rfl, rfl⟩
    · cases a with
      | granted => exact Move.of_setDial hx (.reuseGranted hp) rfl _ rfl rfl
      | refused code => exact hfail .refused
      | failed f =>
        by_cases hf : f = .cancelled
        · subst hf
          exact unwind_move hx rfl hp .reuseCancelled
        · have hr : h.reuseAnswered d gated g t (.failed f) =
              h.setPhase d (.dropping g (.evicting gated g)) := by
            cases f <;> first | exact absurd rfl hf | rfl
          rw [answered, hr]
          exact hfail (.failed hf)
    · exact hfail .expired
  | opening gated g t =>
    right
    rcases he with rfl | ⟨rfl, rfl⟩
    · cases a with
      | granted => exact Move.of_setDial hx (.openGranted hp) rfl _ rfl rfl
      | refused code => exact unwind_move hx rfl hp .openRefused
      | failed f => exact unwind_move hx rfl hp .openFailed
    · exact unwind_move hx rfl hp .openExpired
  | seeking | evicting | passing | entering | queued | establishing | exchanging | connecting
  | keeping | dropping | leaving | ended => exact .inl rfl

theorem established_move {r : Except Failure Connection} (hx : h.dials[d]? = some x) :
    h.established d r x.phase = h ∨
      ∃ x' s, Move now accepts h d x (.established d r) x' s ∧
        h.established d r x.phase = s.setDial d fun _ => x' := by
  cases hp : x.phase with
  | establishing gated =>
    right
    cases r with
    | error f => exact unwind_move hx rfl hp .unreached
    | ok c =>
      cases hc : Protocol.ofName c.protocol with
      | error f =>
        simp only [established, hc]
        exact Move.of_setDial hx (.reachedOther hp hc) rfl _ rfl rfl
      | ok protocol =>
        simp only [established, hc]
        cases protocol with
        | http1 => exact Move.of_setDial hx (.reachedHttp1 hp hc) rfl _ rfl rfl
        | http2 => exact Move.of_setDial hx (.reachedHttp2 hp hc) rfl _ rfl rfl
  | seeking | reusing | evicting | passing | entering | queued | exchanging | connecting | opening
  | keeping | dropping | leaving | ended => exact .inl rfl

theorem exchanged_move {r : Except Failure Unit} (hx : h.dials[d]? = some x) :
    h.exchanged d r x.phase = h ∨
      ∃ x' s, Move now accepts h d x (.exchanged d r) x' s ∧
        h.exchanged d r x.phase = s.setDial d fun _ => x' := by
  cases hp : x.phase with
  | exchanging gated k =>
    right
    cases r with
    | error f => exact unwind_move hx rfl hp .exchangeFailed
    | ok u => exact Move.of_setDial hx (.exchanged hp) rfl _ rfl rfl
  | seeking | reusing | evicting | passing | entering | queued | establishing | connecting | opening
  | keeping | dropping | leaving | ended => exact .inl rfl

theorem connected_move {r : Except Failure Nat} (hx : h.dials[d]? = some x) :
    h.connected now d r x.phase = h ∨
      ∃ x' s, Move now accepts h d x (.connected d r) x' s ∧
        h.connected now d r x.phase = s.setDial d fun _ => x' := by
  cases hp : x.phase with
  | connecting gated =>
    right
    cases r with
    | error f => exact unwind_move hx rfl hp .unbuilt
    | ok transport => exact Move.of_setDial hx (.built hp) rfl _ rfl rfl
  | seeking | reusing | evicting | passing | entering | queued | establishing | exchanging | opening
  | keeping | dropping | leaving | ended => exact .inl rfl

/-- An event about a dial changes nothing, or is a move of that dial. -/
theorem onDial_move {e : DialEvent} (hx : h.dials[d]? = some x) (he : e.dial? = some d) :
    h.onDial now accepts x.phase e = h ∨
      ∃ x' s, Move now accepts h d x e x' s ∧
        h.onDial now accepts x.phase e = s.setDial d fun _ => x' := by
  cases e with
  | arrive | cleared => cases he
  | turn d' => cases he; exact turn_move hx
  | answered d' a => cases he; exact answered_move hx (.inl rfl)
  | established d' r => cases he; exact established_move hx
  | exchanged d' r => cases he; exact exchanged_move hx
  | connected d' r => cases he; exact connected_move hx
  | expired d' => cases he; exact answered_move hx (.inr ⟨rfl, rfl⟩)
  | cancelled d' =>
    cases he
    by_cases hc : x.phase.heedsCancel = true
    · have hu : h.onDial now accepts x.phase (.cancelled d) =
          h.unwind d x.phase (.failed .cancelled) := if_pos hc
      rw [hu]
      exact .inr (unwind_move hx rfl rfl (.cancelled hc))
    · exact .inl (if_neg hc)
  | abandoned d' =>
    cases he
    by_cases hr : x.phase.isResting = true
    · have hu : h.onDial now accepts x.phase (.abandoned d) = h.unwind d x.phase .givenUp :=
        if_pos hr
      rw [hu]
      exact .inr (unwind_move hx rfl rfl (.abandoned hr))
    · exact .inl (if_neg hr)

theorem handed_eq_some {e : DialEvent} {y : HeldTunnel} (hh : h.handed e = some y) :
    ∃ d x gated g, e = .turn d ∧ h.dials[d]? = some x ∧ x.phase = .leaving gated (.stream g) ∧
      y = ⟨.ofLease g, .fresh⟩ := by
  cases e with
  | turn d =>
    simp only [handed] at hh
    split at hh
    · rename_i gated g hp
      obtain ⟨x, hx, hp⟩ := phase?_eq_some.mp hp
      exact ⟨d, x, gated, g, rfl, hx, hp, (Option.some.inj hh).symm⟩
    · cases hh
  | _ => cases hh

/-- A dial starts at its end, or looks for a transport, in the slot first or not. -/
theorem entry_eq (h : Hub) (cancelled : Bool) :
    h.entry cancelled = .ended (.failed .cancelled) ∨ h.entry cancelled = .seeking false ∨
      h.entry cancelled = .passing false := by
  unfold entry
  cases cancelled with
  | true => exact .inl rfl
  | false =>
    cases h.reuse with
    | true => exact .inr (.inl rfl)
    | false => exact .inr (.inr rfl)

theorem step_of_phase {e : DialEvent} (hx : h.dials[d]? = some x) (he : e.dial? = some d) :
    h.step now accepts e = h.onDial now accepts x.phase e := by
  have hp : h.phase? d = some x.phase := by simp [phase?, hx]
  cases e with
  | arrive | cleared => cases he
  | _ =>
    cases he
    simp [step, DialEvent.dial?, hp]

theorem step_of_absent {e : DialEvent} (hx : h.dials[d]? = none) (he : e.dial? = some d) :
    h.step now accepts e = h := by
  have hp : h.phase? d = none := by simp [phase?, hx]
  cases e with
  | arrive | cleared => cases he
  | _ =>
    cases he
    simp [step, DialEvent.dial?, hp]

/-- Every event changes nothing, adds a dial, empties the slot, or is a move of its dial. -/
theorem step_cases (now : Nat) (accepts : Nat → Bool) (h : Hub) (e : DialEvent) :
    (h.step now accepts e = h ∧ h.handed e = none) ∨
    (∃ cancelled request, e = .arrive cancelled request ∧
      h.step now accepts e =
        { h with dials := h.dials ++ [.start request (h.entry cancelled)] }) ∨
    (e = .cleared ∧ h.step now accepts e = { h with pool := h.pool.clear }) ∨
    ∃ d x x' s, e.dial? = some d ∧ h.dials[d]? = some x ∧ Move now accepts h d x e x' s ∧
      h.step now accepts e = s.setDial d fun _ => x' := by
  have hdial (d : Nat) (he : e.dial? = some d) :
      (h.step now accepts e = h ∧ h.handed e = none) ∨
        ∃ d x x' s, e.dial? = some d ∧ h.dials[d]? = some x ∧ Move now accepts h d x e x' s ∧
          h.step now accepts e = s.setDial d fun _ => x' := by
    cases hx : h.dials[d]? with
    | none =>
      refine .inl ⟨step_of_absent hx he, Option.eq_none_iff_forall_ne_some.mpr fun y hy => ?_⟩
      obtain ⟨d', x, _, _, rfl, hx', _⟩ := handed_eq_some hy
      cases he
      rw [hx] at hx'
      cases hx'
    | some x =>
      rw [step_of_phase hx he]
      cases hy : h.handed e with
      | none =>
        rcases onDial_move hx he with hh | ⟨x', s, hm, hh⟩
        · exact .inl ⟨hh, rfl⟩
        · exact .inr ⟨d, x, x', s, he, hx, hm, hh⟩
      | some y =>
        obtain ⟨d', x', _, _, rfl, hx', hl, _⟩ := handed_eq_some hy
        cases he
        cases hx.symm.trans hx'
        obtain ⟨x', s, hm, hh⟩ : ∃ x' s, Move now accepts h d x (.turn d) x' s ∧
            h.onDial now accepts x.phase (.turn d) = s.setDial d fun _ => x' :=
          Move.of_setDial hx (.left hl) rfl _ rfl (by rw [hl]; rfl)
        exact .inr ⟨d, x, x', s, rfl, hx, hm, hh⟩
  cases e with
  | arrive cancelled request => exact .inr (.inl ⟨cancelled, request, rfl, rfl⟩)
  | cleared => exact .inr (.inr (.inl ⟨rfl, rfl⟩))
  | turn d | answered d | established d | exchanged d | connected d | expired d | cancelled d
  | abandoned d => exact (hdial d rfl).imp_right fun hm => .inr (.inr hm)

section

variable {s : Hub} {x' : Dial} {e : DialEvent}

theorem Move.dials_eq (hm : Move now accepts h d x e x' s) : s.dials = h.dials := by
  cases hm <;> rfl

theorem Move.reuse_eq (hm : Move now accepts h d x e x' s) : s.reuse = h.reuse := by
  cases hm <;> rfl

/-- A dial other than that of the event stays, and its own has become another one. -/
theorem getElem?_setDial (hx : s.dials[d]? = some x) (x' : Dial) (i : Nat) :
    (s.setDial d fun _ => x').dials[i]? = if d = i then some x' else s.dials[i]? := by
  rw [setDial, List.getElem?_modify]
  by_cases hi : d = i
  · subst hi
    simp [hx]
  · simp [hi]

/-- A move leaves all other dials as they were. -/
theorem Move.getElem?_eq (hm : Move now accepts h d x e x' s) (hx : h.dials[d]? = some x)
    (i : Nat) :
    (s.setDial d fun _ => x').dials[i]? = if d = i then some x' else h.dials[i]? := by
  rw [getElem?_setDial (by rw [hm.dials_eq]; exact hx), hm.dials_eq]

/-- A dial after an event is new, or was there and is the same, or made the move. -/
theorem getElem?_step {i : Nat} {y : Dial} (hy : (h.step now accepts e).dials[i]? = some y) :
    (∃ cancelled request, e = .arrive cancelled request ∧ i = h.dials.length ∧
      y = .start request (h.entry cancelled)) ∨
    (h.dials[i]? = some y ∧ (h.step now accepts e = h ∨ e.dial? ≠ some i)) ∨
    ∃ x s, e.dial? = some i ∧ h.dials[i]? = some x ∧ Move now accepts h i x e y s ∧
      h.step now accepts e = s.setDial i fun _ => y := by
  rcases step_cases now accepts h e with
    ⟨hs, _⟩ | ⟨cancelled, request, rfl, hs⟩ | ⟨rfl, hs⟩ | ⟨d, x, x', s, hd, hx, hm, hs⟩
  · exact .inr (.inl ⟨hs ▸ hy, .inl hs⟩)
  · rw [hs, List.getElem?_append] at hy
    split at hy
    · exact .inr (.inl ⟨hy, .inr (by simp [DialEvent.dial?])⟩)
    · rename_i hlt
      rw [List.getElem?_singleton] at hy
      split at hy
      · exact .inl ⟨cancelled, request, rfl, by omega, (Option.some.inj hy).symm⟩
      · cases hy
  · exact .inr (.inl ⟨by rwa [hs] at hy, .inr (by simp [DialEvent.dial?])⟩)
  · rw [hs, hm.getElem?_eq hx] at hy
    by_cases hdi : d = i
    · subst hdi
      rw [if_pos rfl] at hy
      cases hy
      exact .inr (.inr ⟨x, s, hd, hx, hm, hs⟩)
    · rw [if_neg hdi] at hy
      exact .inr (.inl ⟨hy, .inr fun he => hdi (Option.some.inj (hd.symm.trans he))⟩)

end

end Hub
end TunnelDial
