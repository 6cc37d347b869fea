import TunnelDial.Proofs.Dial.Socket
import TunnelDial.Proofs.Dial.Stalling
import TunnelDial.Request.Exchange

/-! Cancelled dials. Each dial has a token, cancelled at some instant or never. A dial that was
cancelled before it came ends at once. One that waits as it is cancelled ends then, and begins
nothing else, unless what it waits for comes at the same instant. No other dial ends as cancelled.
-/
namespace TunnelDial

/-- Until some instant a token that is cancelled later, or never, is not seen cancelled. -/
theorem not_seen {token : Option Nat} {now last : Nat} (hown : ∀ t ∈ token, last < t)
    (hle : now ≤ last) : ¬Seen token now true := by
  rintro ⟨hs, -⟩
  obtain ⟨s, hs, hst⟩ := hs rfl
  exact absurd (hown s hs) (Nat.not_lt.mpr (Nat.le_trans hst hle))

namespace SocketDial

variable {x y : SocketDial} {token : Option Nat} {now last t : Nat} {e : SocketEvent}
  {es : List (Nat × SocketEvent)}

theorem Heeding.le (h : x.Heeding token now last es) : now ≤ last := by
  induction es generalizing x now with
  | nil => exact h.1
  | cons e es ih => exact Nat.le_trans h.1.1 (ih h.2.2)

/-- The stage of a dial: the way to the host of its connection, the part with the proxy, or past
that. -/
def stage (x : SocketDial) : Nat :=
  match x.phase with
  | .resolving => 0
  | .trying .. => 0
  | .locating _ => 1
  | .shaking .. => 1
  | .ended .. => 2

theorem stage_eq_two : x.stage = 2 ↔ x.IsOver := by
  unfold stage IsOver
  cases x.phase <;> simp

theorem Passes.of_le (hle : now ≤ t) (hdeadline : t ≤ x.deadline) (htoken : ∀ s ∈ token, t ≤ s) :
    x.Passes token now t :=
  ⟨hle, fun _ => ⟨fun _ => hdeadline, fun s hs _ => htoken s hs⟩⟩

theorem Passes.of_isOver (hx : x.IsOver) (hle : now ≤ t) : x.Passes token now t :=
  ⟨hle, fun _ => ⟨fun h => absurd (step_ended hx ..) h, fun _ _ h => absurd (step_ended hx ..) h⟩⟩

theorem heeding_cancelled (hx : ¬x.IsOver) (hle : t ≤ last) :
    x.Heeding (some t) t last [(t, .cancelled)] := by
  refine ⟨⟨Nat.le_refl t, fun h => absurd h (Nat.lt_irrefl t)⟩, fun _ => ?_, ?_⟩
  · exact ⟨fun _ => ⟨t, rfl, Nat.le_refl t⟩, nofun⟩
  · rw [step_cancelled hx]
    exact .of_isOver ⟨_, _, rfl⟩ hle

/-- A dial that is under way as it is cancelled. -/
theorem Heeding.head {e : Nat × SocketEvent} (h : x.Heeding token now last (e :: es))
    (hx : ¬x.IsOver) (htoken : token = some now) :
    e.1 = now ∧ (x.step e.1 e.2).Heeding token now last es := by
  obtain ⟨hpass, -, hrest⟩ := h
  have ht : e.1 = now := by
    by_contra hne
    have hlater : now < e.1 := Nat.lt_of_le_of_ne hpass.1 (Ne.symm hne)
    have hle := (hpass.2 hlater).2 now htoken (step_cancelled_ne hx now)
    exact absurd hle (Nat.not_le.mpr hlater)
  exact ⟨ht, ht ▸ hrest⟩

theorem Heeding.not_nil (h : x.Heeding token now last []) (htoken : token = some now)
    (hlt : now < last) : x.IsOver := by
  by_contra hx
  have hle := (h.2 hlt).2 now htoken (step_cancelled_ne hx now)
  exact absurd hle (Nat.not_le.mpr hlt)

/-- Whatever comes at the instant at which a dial is cancelled, it has ended at that. -/
theorem Heeding.ended (h : x.Heeding token now last es) (hx : ¬x.IsOver)
    (htoken : token = some now) (hlt : now < last) :
    ∃ r, (x.after es).phase = .ended r now := by
  induction es generalizing x with
  | nil => exact absurd (h.not_nil htoken hlt) hx
  | cons e es ih =>
    obtain ⟨ht, hrest⟩ := h.head hx htoken
    show ∃ r, ((x.step e.1 e.2).after es).phase = _
    by_cases hy : (x.step e.1 e.2).IsOver
    · obtain ⟨r, t, hphase⟩ := hy
      rw [after_ended ⟨r, t, hphase⟩]
      rcases x.step_cases e.1 e.2 with hsame | hmove
      · rw [hsame] at hphase
        exact absurd ⟨r, t, hphase⟩ hx
      · rw [← ht]
        generalize x.step e.1 e.2 = y at hmove hphase ⊢
        cases hmove.leads with
        | ended x r => exact ⟨r, rfl⟩
        | live hlive => exact absurd ⟨r, t, hphase⟩ hlive
    · exact ih hrest hy

/-- A dial that is under way as it is cancelled ends so, and comes to no further stage, unless its
stage is over at the same instant. -/
theorem Heeding.heeded (h : x.Heeding token now last es) (hx : ¬x.IsOver)
    (htoken : token = some now) (hlt : now < last) :
    ((x.after es).phase = .ended (.error .cancelled) now ∧
      ∀ pre, pre <+: es → (x.after pre).stage = x.stage ∨
        (x.after pre).phase = .ended (.error .cancelled) now) ∨
    ∃ pre e post, es = pre ++ (now, e) :: post ∧ e ≠ .cancelled ∧
      (x.after pre).stage = x.stage ∧ ((x.after pre).step now e).stage ≠ x.stage := by
  induction es generalizing x with
  | nil => exact absurd (h.not_nil htoken hlt) hx
  | cons e es ih =>
    obtain ⟨ht, hrest⟩ := h.head hx htoken
    obtain ⟨t, e⟩ := e
    obtain rfl : t = now := ht
    have hcons (pre : List (Nat × SocketEvent)) :
        x.after ((t, e) :: pre) = (x.step t e).after pre := rfl
    by_cases he : e = .cancelled
    · subst he
      have hend (pre : List (Nat × SocketEvent)) :
          x.after ((t, .cancelled) :: pre) = x.finish t (.error .cancelled) := by
        rw [hcons, step_cancelled hx]
        exact after_ended ⟨_, _, rfl⟩ pre
      refine .inl ⟨congrArg phase (hend es), fun pre hpre => ?_⟩
      rcases List.prefix_cons_iff.mp hpre with rfl | ⟨pre, rfl, -⟩
      · exact .inl rfl
      · exact .inr (congrArg phase (hend pre))
    by_cases hstage : (x.step t e).stage = x.stage
    · have hy : ¬(x.step t e).IsOver := by
        rw [← stage_eq_two, hstage, stage_eq_two]
        exact hx
      rcases ih hrest hy with ⟨hend, hpre⟩ | ⟨pre, e', post, rfl, he', hpre, hnext⟩
      · refine .inl ⟨hend, fun pre hpre' => ?_⟩
        rcases List.prefix_cons_iff.mp hpre' with rfl | ⟨pre, rfl, hle⟩
        · exact .inl rfl
        · rw [hcons, ← hstage]
          exact hpre pre hle
      · rw [hstage] at hpre hnext
        exact .inr ⟨(t, e) :: pre, e', post, rfl, he', hpre, hnext⟩
    · exact .inr ⟨[], e, es, rfl, he, rfl, hstage⟩

/-- The dial ended as cancelled. -/
def WasCancelled (x : SocketDial) : Prop := ∃ t, x.phase = .ended (.error .cancelled) t

/-- Only a cancellation makes a dial end so. -/
theorem Move.eq_cancelled (hm : x.Move now e y) (hy : y.WasCancelled) : e = .cancelled := by
  obtain ⟨t, hy⟩ := hy
  cases hm.leads with
  | ended x r hr =>
    cases hy
    exact hr rfl
  | live hlive => exact absurd ⟨_, t, hy⟩ hlive

theorem Heeding.not_wasCancelled (h : x.Heeding token now last es) (hown : ∀ t ∈ token, last < t)
    (hx : ¬x.WasCancelled) : ¬(x.after es).WasCancelled := by
  induction es generalizing x now with
  | nil => exact hx
  | cons e es ih =>
    obtain ⟨t, e⟩ := e
    obtain ⟨-, hcancelled, hrest⟩ := h
    refine ih hrest fun hy => ?_
    rcases x.step_cases t e with hsame | hmove
    · have hy : (x.step t e).WasCancelled := hy
      rw [hsame] at hy
      exact hx hy
    · exact not_seen hown hrest.le (hcancelled (hmove.eq_cancelled hy))

/-- A dial whose token is not cancelled does not end so. -/
theorem Heeding.not_wasCancelled_start {o : DirectOptions} {via : Option Proxy} {n : Network}
    {a : Address} {began : Nat} {cancelled : Bool} (hseen : Seen token began cancelled)
    (h : (start o via n a began cancelled).Heeding token began last es)
    (hown : ∀ t ∈ token, last < t) :
    ¬((start o via n a began cancelled).after es).WasCancelled := by
  refine h.not_wasCancelled hown ?_
  unfold start
  dsimp only
  split
  · rename_i hcancelled
    exact absurd (hcancelled ▸ hseen) (not_seen hown h.le)
  · split
    · rename_i ip _
      cases hr : o.suitable n (hop _) [ip] with
      | error f =>
        rintro ⟨t, ⟨⟩⟩
        exact DirectOptions.suitable_ne hr rfl
      | ok r => exact nofun
    · exact nofun

/-- By that instant a direct dial with that token fails so. -/
def FailsBy (token : Option Nat) (last : Nat) (f : Failure) : Prop :=
  ∃ o n a began cancelled es t, Seen token began cancelled ∧
    (start o none n a began cancelled).Heeding token began last es ∧
    ((start o none n a began cancelled).after es).phase = .ended (.error f) t

theorem FailsBy.ne_cancelled {f : Failure} (h : FailsBy token last f)
    (hown : ∀ t ∈ token, last < t) : f ≠ .cancelled := by
  obtain ⟨o, n, a, began, cancelled, es, t, hseen, hrun, hphase⟩ := h
  rintro rfl
  exact hrun.not_wasCancelled_start hseen hown ⟨t, hphase⟩

end SocketDial

namespace Custody

variable {token : Nat → Option Nat} {c : Custody} {now last t d : Nat} {x y : Dial}
  {es : List (Nat × CustodyEvent)}

theorem Heeding.timely (h : c.Heeding token now last es) : c.Timely now last es := by
  induction es generalizing c now with
  | nil => exact h.1
  | cons e es ih =>
    obtain ⟨⟨hpass, -⟩, htime, -, -, hrest⟩ := h
    exact ⟨hpass, htime, ih hrest⟩

/-- A run up to an event, the event, and the run from there on. -/
theorem Heeding.split {pre post : List (Nat × CustodyEvent)} {e : CustodyEvent}
    (h : c.Heeding token now last (pre ++ (t, e) :: post)) :
    (c.after (pre.map Prod.snd)).Heeding token t last ((t, e) :: post) := by
  induction pre generalizing c now with
  | nil =>
    obtain ⟨-, htime, hseen, hcancels, hrest⟩ := h
    exact ⟨⟨⟨Nat.le_refl t, fun hlt => absurd hlt (Nat.lt_irrefl t)⟩,
      fun hlt => absurd hlt (Nat.lt_irrefl t)⟩, htime, hseen, hcancels, hrest⟩
  | cons e' pre ih => exact ih h.2.2.2.2

theorem Timely.le {es : List (Nat × CustodyEvent)} (h : c.Timely now last es) : now ≤ last := by
  induction es generalizing c now with
  | nil => exact h.1
  | cons e es ih => exact Nat.le_trans h.1.1 (ih h.2.2)

end Custody

/-- What a dial did so far: the requests that it made, the connections and transports that it tried
to get, and those that it got. -/
def Dial.efforts (x : Dial) : List Nat × Nat × Nat × Option Connection × Option Nat :=
  (x.asked, x.established, x.connects, x.reached, x.own)

/-- A dial whose outcome is sure does nothing more for it. -/
theorem Hub.Move.efforts_eq {now : Nat} {accepts : Nat → Bool} {h s : Hub} {d : Nat} {x y : Dial}
    {e : DialEvent} {o : Outcome} (hm : h.Move now accepts d x e y s)
    (ho : x.phase.sure = some o) : y.efforts = x.efforts := by
  cases hm with
  | found hp | built hp | wentFresh hp | reachedHttp1 hp | reachedHttp2 hp | reachedOther hp =>
    rw [hp] at ho
    cases ho
  | _ => rfl

namespace Custody

variable {token : Nat → Option Nat} {c : Custody} {now last t d : Nat} {x y : Dial}
  {es : List (Nat × CustodyEvent)} {o : Outcome}

theorem efforts_after (hx : c.hub.dials[d]? = some x) (ho : x.phase.sure = some o)
    (es : List CustodyEvent) : ∃ y, (c.after es).hub.dials[d]? = some y ∧
      y.phase.sure = some o ∧ y.efforts = x.efforts := by
  induction es generalizing c x with
  | nil => exact ⟨x, hx, ho, rfl⟩
  | cons e es ih =>
    obtain ⟨y, hy, rfl | ⟨_, _, _, _, hm⟩⟩ := dial_step hx e
    · exact ih hy ho
    · obtain ⟨z, hz, hsure, hefforts⟩ := ih hy (hm.sure ho)
      exact ⟨z, hz, hsure, hefforts.trans (hm.efforts_eq ho)⟩

/-- Once time passes, a dial whose outcome is sure has ended with it. -/
theorem settled_of_sure (ht : c.Timely now last es) (hx : c.hub.dials[d]? = some x)
    (ho : x.phase.sure = some o) (hlt : now < last) :
    ∃ y, (c.after (es.map Prod.snd)).hub.dials[d]? = some y ∧ y.phase = .ended o ∧
      y.efforts = x.efforts := by
  obtain ⟨y, hy, hsure, hefforts⟩ := efforts_after hx ho (es.map Prod.snd)
  have hdue : Hub.Due now now x.phase := .inr ⟨Nat.le_refl now, .inl ⟨o, ho⟩⟩
  obtain ⟨z, hz, hdue⟩ := due_after ht hx hdue
  cases hy.symm.trans hz
  rcases hdue with ⟨o', ho'⟩ | ⟨hle, -⟩
  · rw [ho'] at hsure
    cases hsure
    exact ⟨y, hy, ho', hefforts⟩
  · exact absurd hle (Nat.not_le.mpr hlt)

end Custody

theorem Phase.unwind_ne {p : Phase} (hp : p.heedsCancel = true) (o : Outcome) :
    p.unwind o ≠ p := by
  cases p with
  | leaving => cases hp
  | _ => simp [unwind]

theorem Phase.turns_unwind_le (p : Phase) (o : Outcome) : (p.unwind o).turns ≤ 3 := by
  cases p <;> simp [unwind, turns]

/-- The event is one that a dial waits for: an answer to its request or the end of the time for it,
the end of its connecting, or its turn at the gate. -/
def DialEvent.isAwaited : DialEvent → Bool
  | answered .. => true
  | expired _ => true
  | established .. => true
  | connected .. => true
  | turn _ => true
  | _ => false

namespace Hub

variable {h : Hub} {d : Nat} {x : Dial}

theorem dials_cancelled (hx : h.dials[d]? = some x) (hp : x.phase.heedsCancel = true) (now : Nat)
    (accepts : Nat → Bool) :
    (h.step now accepts (.cancelled d)).dials[d]? =
      some { x with phase := x.phase.unwind (.failed .cancelled) } := by
  rw [step_of_phase hx rfl]
  simp [onDial, cancel, hp, unwind, setPhase, setDial, hx]

theorem phase?_cancelled_ne (hx : h.dials[d]? = some x) (hp : x.phase.heedsCancel = true)
    (now : Nat) (accepts : Nat → Bool) :
    (h.step now accepts (.cancelled d)).phase? d ≠ h.phase? d := by
  rw [phase?, phase?, dials_cancelled hx hp, hx]
  intro he
  exact Phase.unwind_ne hp _ (Option.some.inj he)

end Hub

theorem Hub.Move.of_heedsCancel {now : Nat} {accepts : Nat → Bool} {h s : Hub} {d : Nat}
    {x y : Dial} {e : DialEvent} (hm : h.Move now accepts d x e y s) (hd : e.dial? = some d)
    (hp : x.phase.heedsCancel = true) :
    e.isAwaited = true ∨ e = .abandoned d ∨
      e = .cancelled d ∧ y.phase.sure = some (.failed .cancelled) ∧ y.efforts = x.efforts := by
  cases e with
  | arrive | cleared => cases hd
  | answered | expired | established | connected | turn => exact .inl rfl
  | abandoned i =>
    cases hd
    exact .inr (.inl rfl)
  | exchanged i r =>
    -- an exchange is the one stage that does not heed the token
    cases hm with
    | exchanged hp' =>
      rw [hp'] at hp
      cases hp
    | reuseFailed _ _ hk => cases hk
    | lost _ hl =>
      generalize x.phase = p at hl hp
      cases hl
      cases hp
  | cancelled i =>
    cases hd
    refine .inr (.inr ⟨rfl, ?_⟩)
    cases hm with
    | reuseFailed _ _ hk => cases hk
    | lost _ hl =>
      refine ⟨?_, rfl⟩
      generalize x.phase = p at hl
      cases hl
      exact Phase.sure_unwind _ _

namespace Custody

variable {token : Nat → Option Nat} {c : Custody} {now last t d : Nat} {x y : Dial}
  {es : List (Nat × CustodyEvent)} {o : Outcome}

/-- A dial that waits as it is cancelled ends then, and does nothing else, unless what it waits for
comes at the same instant. -/
theorem Heeding.heeded (h : c.Heeding token now last es) (hx : c.hub.dials[d]? = some x)
    (hp : x.phase.heedsCancel = true) (htoken : token d = some now) (hlt : now < last)
    (hkeep : ∀ e ∈ es, e.2.abandons d = false) :
    (∃ y, (c.after (es.map Prod.snd)).hub.dials[d]? = some y ∧
      y.phase = .ended (.failed .cancelled) ∧ y.efforts = x.efforts) ∨
    ∃ pre accepts e post y s, es = pre ++ (now, .dial now accepts e) :: post ∧
      e.dial? = some d ∧ e.isAwaited = true ∧
      (c.after (pre.map Prod.snd)).hub.dials[d]? = some x ∧
      (c.after (pre.map Prod.snd)).hub.Move now accepts d x e y s := by
  have hlength : d < c.hub.dials.length := (List.getElem?_eq_some_iff.mp hx).1
  induction es generalizing c with
  | nil =>
    have hle := h.2 hlt d hlength now htoken (Hub.phase?_cancelled_ne hx hp _ _)
    exact absurd hle (Nat.not_le.mpr hlt)
  | cons e es ih =>
    obtain ⟨t, e⟩ := e
    obtain ⟨⟨hpass, hheeds⟩, htime, -, -, hrest⟩ := h
    have ht : t = now := by
      by_contra hne
      have hlater : now < t := Nat.lt_of_le_of_ne hpass.1 (Ne.symm hne)
      have hle := hheeds hlater d hlength now htoken (Hub.phase?_cancelled_ne hx hp _ _)
      exact absurd hle (Nat.not_le.mpr hlater)
    subst ht
    obtain ⟨y, hy, -⟩ := dial_step hx e
    rcases getElem?_step hy with
      ⟨_, _, _, _, _, hd, _⟩ | ⟨hy', _⟩ | ⟨now, accepts, e', _, s, rfl, hd, hx', hm, _⟩
    · exact absurd hlength (by omega)
    · cases hx.symm.trans hy'
      have hkeep' : ∀ e ∈ es, e.2.abandons d = false :=
        fun e he => hkeep e (List.mem_cons_of_mem _ he)
      have hnext := ih hrest hy hkeep' (List.getElem?_eq_some_iff.mp hy).1
      refine hnext.imp_right ?_
      rintro ⟨pre, accepts, e', post, y, s, rfl, hd, hawaited, hx', hm⟩
      exact ⟨(t, e) :: pre, accepts, e', post, y, s, rfl, hd, hawaited, hx', hm⟩
    · cases hx.symm.trans hx'
      obtain rfl : now = t := htime now rfl
      rcases hm.of_heedsCancel hd hp with hawaited | rfl | ⟨rfl, hsure, hefforts⟩
      · exact .inr ⟨[], accepts, e', es, y, s, rfl, hd, hawaited, hx, hm⟩
      · have := hkeep _ List.mem_cons_self
        simp [CustodyEvent.abandons] at this
      · obtain ⟨z, hz, hphase, hz'⟩ := settled_of_sure hrest.timely hy hsure hlt
        exact .inl ⟨z, hz, hphase, hz'.trans hefforts⟩

/-- A cancellation ends a dial that heeds it, in turns of its own and without a further effort. -/
theorem ended_of_cancelled (hx : c.hub.dials[d]? = some x) (hp : x.phase.heedsCancel = true)
    (now : Nat) (accepts : Nat → Bool) :
    let cancelled := c.step (.dial now accepts (.cancelled d))
    let turns := List.replicate 3 (.dial now accepts (.turn d))
    ∃ y, (cancelled.after turns).hub.dials[d]? = some y ∧ y.phase = .ended (.failed .cancelled) ∧
      y.efforts = x.efforts := by
  intro cancelled turns
  have hy : cancelled.hub.dials[d]? = some _ := Hub.dials_cancelled hx hp now accepts
  obtain ⟨z, hz, -, hefforts⟩ := efforts_after hy (Phase.sure_unwind ..) turns
  have hended := ended_of_sure hy (Phase.sure_unwind ..) now accepts (Phase.turns_unwind_le ..)
  obtain ⟨z', hz', hphase⟩ := Hub.phase?_eq_some.mp hended
  cases hz.symm.trans hz'
  exact ⟨z, hz, hphase, hefforts⟩

/-- A dial that ended as it came stays as it is. -/
theorem ended_stays (hx : c.hub.dials[d]? = some x) (ho : x.phase = .ended o)
    (es : List CustodyEvent) : (c.after es).hub.dials[d]? = some x := by
  induction es generalizing c with
  | nil => exact hx
  | cons e es ih =>
    obtain ⟨y, hy, rfl | ⟨_, _, _, _, hm⟩⟩ := dial_step hx e
    · exact ih hy
    · have hlive := hm.isLive
      rw [ho] at hlive
      cases hlive

/-- A dial whose token was cancelled before has ended as it comes, and changes nothing. -/
theorem Heeding.of_arrive {accepts : Nat → Bool} {cancelled : Bool} {r : ConnectRequest}
    (h : c.Heeding token now last ((t, .dial t accepts (.arrive cancelled r)) :: es))
    {s : Nat} (htoken : token c.hub.dials.length = some s) (hs : s < t) :
    let ended := Dial.start r (.ended (.failed .cancelled))
    c.step (.dial t accepts (.arrive cancelled r)) =
        { c with hub := { c.hub with dials := c.hub.dials ++ [ended] } } ∧
      (c.after (((t, .dial t accepts (.arrive cancelled r)) :: es).map Prod.snd)).hub.dials[
        c.hub.dials.length]? = some ended := by
  intro ended
  obtain ⟨-, -, hseen, -⟩ := h
  have hcancelled : cancelled = true := by
    by_contra hne
    have hle := (hseen cancelled rfl).2 (by simpa using hne) s htoken
    exact absurd hle (Nat.not_le.mpr hs)
  subst hcancelled
  have hstep : c.step (.dial t accepts (.arrive true r)) =
      { c with hub := { c.hub with dials := c.hub.dials ++ [ended] } } := by
    show Custody.mk _ (c.tunnels ++ []) _ = _
    rw [List.append_nil]
    rfl
  refine ⟨hstep, ?_⟩
  show ((c.step _).after _).hub.dials[_]? = _
  rw [hstep]
  exact ended_stays (by simp) rfl _

end Custody

/-- An exchange does not fail as cancelled. -/
theorem Exchange.failed_ne {σ : Type} [ByteStream σ] {now : Nat} {e : Exchange} {s s' : σ}
    {f : Failure} (h : e.attend now s = (.failed f, s')) : f ≠ .cancelled := by
  have hretry (g : IoFault) : e.retry g ≠ .failed .cancelled := by
    unfold Exchange.retry
    split <;> exact nofun
  have hconclude (status : Status) (rest : Bytes) :
      Exchange.conclude status rest ≠ .failed .cancelled := by
    unfold Exchange.conclude
    split <;> exact nofun
  have hstep : (e.step now s).1 ≠ .failed .cancelled := by
    fun_cases e.step now s with
    | case4 | case13 => exact hretry _
    | case11 => exact hconclude _ _
    | _ => exact nofun
  rintro rfl
  unfold Exchange.attend at h
  split at h
  · split at h <;> cases h
  · exact hstep (congrArg Prod.fst h)

/-- What an event reports is no cancellation of others: transports, those who open TLS and those who
build transports do not fail so; a direct dial has the token of the dial that it is for; and an
exchange fails as exchanges do. -/
def DialEvent.IsPlain (token : Nat → Option Nat) (last : Nat) : DialEvent → Prop
  | answered _ (.failed f) => f ≠ .cancelled
  | established d (.error f) => f ≠ .cancelled ∨ SocketDial.FailsBy (token d) last f
  | connected _ (.error f) => f ≠ .cancelled
  | exchanged _ (.error f) => ∃ (σ : Type) (_ : ByteStream σ) (now : Nat) (e : Exchange) (s s' : σ),
      e.attend now s = (.failed f, s')
  | _ => True

def CustodyEvent.IsPlain (token : Nat → Option Nat) (last : Nat) : CustodyEvent → Prop
  | dial _ _ e => e.IsPlain token last
  | _ => True

theorem Loss.ne_cancelled {p : Phase} {e : DialEvent} {o : Outcome} {token : Nat → Option Nat}
    {last d : Nat} (hl : Loss p e o) (hd : e.dial? = some d) (hplain : e.IsPlain token last)
    (htoken : ∀ t ∈ token d, last < t) (hown : e ≠ .cancelled d) : o ≠ .failed .cancelled := by
  cases hl with
  | reuseCancelled => exact absurd rfl hplain
  | openRefused | openExpired | abandoned => exact nofun
  | openFailed | unbuilt =>
    rintro ⟨⟩
    exact hplain rfl
  | unreached =>
    cases hd
    rintro ⟨⟩
    exact hplain.elim (· rfl) fun h => h.ne_cancelled htoken rfl
  | exchangeFailed =>
    rintro ⟨⟩
    obtain ⟨_, _, _, _, _, _, hfailed⟩ := hplain
    exact Exchange.failed_ne hfailed rfl
  | cancelled =>
    cases hd
    exact absurd rfl hown

theorem Protocol.ofName_ne {name : String} {f : Failure} (h : Protocol.ofName name = .error f) :
    f ≠ .cancelled := by
  unfold Protocol.ofName at h
  split at h
  · cases h
  split at h
  · cases h
  · cases h
    exact nofun

/-- Without a cancellation of its own a dial does not come to that end. -/
theorem Hub.Move.sure_ne {now : Nat} {accepts : Nat → Bool} {h s : Hub} {d : Nat} {x y : Dial}
    {e : DialEvent} {token : Nat → Option Nat} {last : Nat} (hm : h.Move now accepts d x e y s)
    (hd : e.dial? = some d) (hplain : e.IsPlain token last) (htoken : ∀ t ∈ token d, last < t)
    (hown : e ≠ .cancelled d) (hx : x.phase.sure ≠ some (.failed .cancelled)) :
    y.phase.sure ≠ some (.failed .cancelled) := by
  cases hsure : x.phase.sure with
  | some o =>
    rw [hm.sure hsure, ← hsure]
    exact hx
  | none =>
    cases hm with
    | lost _ hl =>
      rw [Phase.sure_unwind]
      exact fun h => hl.ne_cancelled hd hplain htoken hown (Option.some.inj h)
    | reachedOther _ hprotocol =>
      rintro ⟨⟩
      exact Protocol.ofName_ne hprotocol rfl
    | gaveBack hp =>
      rw [hp] at hsure
      exact fun h => nomatch hsure.symm.trans h
    | left hp | replaced hp | kept hp | unkept hp =>
      rw [hp] at hsure
      cases hsure
    | _ => exact nofun

namespace Custody

variable {token : Nat → Option Nat} {c : Custody} {now last t d : Nat} {x : Dial}
  {es : List (Nat × CustodyEvent)}

/-- A dial whose token is not cancelled does not end so. -/
theorem Heeding.sure_ne (h : c.Heeding token now last es) (hown : ∀ t ∈ token d, last < t)
    (hplain : ∀ e ∈ es, e.2.IsPlain token last)
    (hc : ∀ x, c.hub.dials[d]? = some x → x.phase.sure ≠ some (.failed .cancelled)) :
    ∀ x, (c.after (es.map Prod.snd)).hub.dials[d]? = some x →
      x.phase.sure ≠ some (.failed .cancelled) := by
  induction es generalizing c now with
  | nil => exact hc
  | cons e es ih =>
    obtain ⟨t, e⟩ := e
    obtain ⟨-, -, hseen, hcancels, hrest⟩ := h
    have hunseen : ¬Seen (token d) t true := not_seen hown hrest.timely.le
    refine ih hrest (fun e he => hplain e (List.mem_cons_of_mem _ he)) fun y hy => ?_
    rcases getElem?_step hy with
      ⟨_, _, cancelled, _, rfl, rfl, rfl⟩ | ⟨hy', _⟩ | ⟨_, _, e', x, s, rfl, hd, hx, hm, _⟩
    · have hfalse : cancelled = false := by
        by_contra hne
        obtain rfl : cancelled = true := by simpa using hne
        exact hunseen (hseen true rfl)
      subst hfalse
      unfold Dial.start Hub.entry
      cases c.hub.reuse <;> exact nofun
    · exact hc y hy'
    · refine hm.sure_ne hd (hplain _ List.mem_cons_self) hown ?_ (hc x hx)
      rintro rfl
      exact hunseen (hcancels d rfl)

end Custody

/-- Wherever a dial waits, except in an exchange on its own connection, it heeds its token. -/
theorem Phase.heedsCancel_of_isResting {p : Phase} (hp : p.isResting = true)
    (hne : ∀ gated k, p ≠ .exchanging gated k) : p.heedsCancel = true := by
  cases p with
  | exchanging gated k => exact absurd rfl (hne gated k)
  | reusing | queued | establishing | connecting | opening => rfl
  | _ => cases hp

/-- Cancellation is heeded at once, by the dials of a dialer and by those with a socket of their
own. A dial that was cancelled before it came ends without any effort. Wherever a dial waits, except
in an exchange, a cancellation ends it, in turns of its own and without a further effort; one whose
token is cancelled as it waits has ended so when time goes on, unless what it waits for came at the
same instant. And a dial whose token is not cancelled never ends so, if nothing is reported to it
that was cancelled elsewhere. -/
theorem cancellation_prompt :
    (∀ (timeout : Nat) (reuse : Bool) (token : Nat → Option Nat) (last : Nat),
      let new := Custody.start timeout reuse
      (∀ pre t accepts cancelled r post s,
        let c := new.after (pre.map Prod.snd)
        let arrival : CustodyEvent := .dial t accepts (.arrive cancelled r)
        let ended := Dial.start r (.ended (.failed .cancelled))
        new.Heeding token 0 last (pre ++ (t, arrival) :: post) →
        token c.hub.dials.length = some s → s < t →
        c.step arrival = { c with hub := { c.hub with dials := c.hub.dials ++ [ended] } } ∧
        (new.after ((pre ++ (t, arrival) :: post).map Prod.snd)).hub.dials[c.hub.dials.length]? =
          some ended) ∧
      (∀ es t accepts d x,
        let c := new.after es
        c.hub.dials[d]? = some x → x.phase.isResting = true →
        (∀ gated k, x.phase ≠ .exchanging gated k) →
        let cancelled := c.step (.dial t accepts (.cancelled d))
        ∃ y, (cancelled.after (List.replicate 3 (.dial t accepts (.turn d)))).hub.dials[d]? =
          some y ∧ y.phase = .ended (.failed .cancelled) ∧ y.efforts = x.efforts) ∧
      (∀ pre post t d x,
        let c := new.after (pre.map Prod.snd)
        new.Heeding token 0 t pre → c.Heeding token t last post → token d = some t → t < last →
        c.hub.dials[d]? = some x → x.phase.isResting = true →
        (∀ gated k, x.phase ≠ .exchanging gated k) → (∀ e ∈ post, e.2.abandons d = false) →
        (∃ y, (c.after (post.map Prod.snd)).hub.dials[d]? = some y ∧
          y.phase = .ended (.failed .cancelled) ∧ y.efforts = x.efforts) ∨
        ∃ before accepts e later y h, post = before ++ (t, .dial t accepts e) :: later ∧
          e.dial? = some d ∧ e.isAwaited = true ∧
          (c.after (before.map Prod.snd)).hub.dials[d]? = some x ∧
          (c.after (before.map Prod.snd)).hub.Move t accepts d x e y h) ∧
      (∀ es d, new.Heeding token 0 last es → (∀ t ∈ token d, last < t) →
        (∀ e ∈ es, e.2.IsPlain token last) →
        (new.after (es.map Prod.snd)).hub.phase? d ≠ some (.ended (.failed .cancelled)))) ∧
    (∀ (o : DirectOptions) (via : Option Proxy) (n : Network) (a : Address) (began : Nat)
      (cancelled : Bool) (token : Option Nat) (last : Nat), Seen token began cancelled →
      let new := SocketDial.start o via n a began cancelled
      (∀ es s, new.Heeding token began last es → token = some s → s < began →
        let x := new.after es
        x.phase = .ended (.error .cancelled) began ∧ x.asked = [] ∧ x.tried = [] ∧ x.sent = []) ∧
      (∀ es t,
        let x := new.after es
        ¬x.IsOver →
        let y := x.step t .cancelled
        y.phase = .ended (.error .cancelled) t ∧ y.asked = x.asked ∧ y.tried = x.tried ∧
          y.sent = x.sent) ∧
      (∀ pre post t,
        let x := new.after pre
        new.Heeding token began t pre → x.Heeding token t last post → token = some t → t < last →
        ¬x.IsOver →
        (∃ r, (x.after post).phase = .ended r t) ∧
        (((x.after post).phase = .ended (.error .cancelled) t ∧
            ∀ before, before <+: post → (x.after before).stage = x.stage ∨
              (x.after before).phase = .ended (.error .cancelled) t) ∨
          ∃ before e later, post = before ++ (t, e) :: later ∧ e ≠ .cancelled ∧
            (x.after before).stage = x.stage ∧ ((x.after before).step t e).stage ≠ x.stage)) ∧
      (∀ es, new.Heeding token began last es → (∀ t ∈ token, last < t) →
        ¬(new.after es).WasCancelled)) := by
  constructor
  · intro timeout reuse token last new
    refine ⟨?_, ?_, ?_, ?_⟩
    · intro pre t accepts cancelled r post s c arrival ended hrun htoken hs
      obtain ⟨hstep, hafter⟩ := hrun.split.of_arrive htoken hs
      refine ⟨hstep, ?_⟩
      rw [List.map_append]
      have happend : new.after (pre.map Prod.snd ++ ((t, arrival) :: post).map Prod.snd) =
          c.after (((t, arrival) :: post).map Prod.snd) := List.foldl_append
      rw [happend]
      exact hafter
    · intro es t accepts d x c hx hrest hne
      exact Custody.ended_of_cancelled hx (Phase.heedsCancel_of_isResting hrest hne) t accepts
    · intro pre post t d x c _ hpost htoken hlt hx hrest hne hkeep
      exact hpost.heeded hx (Phase.heedsCancel_of_isResting hrest hne) htoken hlt hkeep
    · intro es d hrun hown hplain hended
      obtain ⟨x, hx, hphase⟩ := Hub.phase?_eq_some.mp hended
      refine hrun.sure_ne hown hplain (fun y hy => ?_) x hx (by rw [hphase]; rfl)
      simp [new, Custody.start, Hub.start] at hy
  · intro o via n a began cancelled token last hseen new
    refine ⟨?_, ?_, ?_, ?_⟩
    · intro es s _ htoken hs
      obtain rfl : cancelled = true := by
        by_contra hne
        have hle := hseen.2 (by simpa using hne) s htoken
        exact absurd hle (Nat.not_le.mpr hs)
      have hx : new.after es = new := SocketDial.after_ended ⟨_, _, rfl⟩ es
      intro x
      rw [show x = new from hx]
      exact ⟨rfl, rfl, rfl, rfl⟩
    · intro es t x hx y
      have hy : y = x.finish t (.error .cancelled) := SocketDial.step_cancelled hx t
      rw [hy]
      exact ⟨rfl, rfl, rfl, rfl⟩
    · intro pre post t x _ hpost htoken hlt hx
      exact ⟨hpost.ended hx htoken hlt, hpost.heeded hx htoken hlt⟩
    · intro es hrun hown
      exact hrun.not_wasCancelled_start hseen hown

/-- The second of three dials is cancelled as it waits at the gate. -/
def cancelledAtGate : List (Nat × CustodyEvent) :=
  [(4, .dial 4 (fun _ => true) (.cancelled 1)), (4, .dial 4 (fun _ => true) (.turn 1))]

theorem cancellation_prompt_waiting :
    let token (d : Nat) : Option Nat := if d = 1 then some 4 else none
    let c := (Custody.start 10 true).after (Custody.linedUp.map Prod.snd)
    let direct := SocketDial.start .standard none .any ⟨"a.org", 443⟩ 0 false
    let socks := (SocketDial.start .standard (some ⟨.socks5h, ⟨"10.0.0.1", 1080⟩, none⟩) .any
      ⟨"a.org", 443⟩ 0 false).after [(2, .met (.ok ()))]
    (Custody.start 10 true).Heeding token 0 4 Custody.linedUp ∧
    c.Heeding token 4 9 cancelledAtGate ∧ c.hub.phase? 1 = some .queued ∧
    (c.after (cancelledAtGate.map Prod.snd)).hub.phase? 1 = some (.ended (.failed .cancelled)) ∧
    direct.phase = .resolving ∧
    (direct.after [(4, .cancelled)]).phase = .ended (.error .cancelled) 4 ∧
    (∃ peer h, socks.phase = .shaking peer h) ∧
    (socks.after [(4, .cancelled)]).phase = .ended (.error .cancelled) 4 := by
  intro token c direct socks
  obtain ⟨hdials, hsockets⟩ := cancellation_prompt
  have hpre : (Custody.start 10 true).Heeding token 0 4 Custody.linedUp := by decide
  have hpost : c.Heeding token 4 9 cancelledAtGate := by decide
  have hqueued : c.hub.phase? 1 = some .queued := by decide
  obtain ⟨x, hx, hp⟩ := Hub.phase?_eq_some.mp hqueued
  have hgate : (c.after (cancelledAtGate.map Prod.snd)).hub.phase? 1 =
      some (.ended (.failed .cancelled)) := by
    obtain ⟨y, hy, hphase, -⟩ | ⟨before, _, e, later, _, _, hes, hd, he, hbefore, -⟩ :=
      (hdials 10 true token 9).2.2.1 Custody.linedUp cancelledAtGate 4 1 x hpre hpost rfl
        (by decide) hx (by rw [hp]; rfl) (by rw [hp]; exact nofun) (by decide)
    · exact Hub.phase?_eq_some.mpr ⟨y, hy, hphase⟩
    · -- the one event that it could wait for comes when it is about to end
      cases before with
      | nil =>
        cases hes
        cases he
      | cons _ before =>
        cases before with
        | nil =>
          cases hes
          have hnext : (c.after ((cancelledAtGate.take 1).map Prod.snd)).hub.phase? 1 =
              some (.leaving false (.failed .cancelled)) := by decide
          cases (Hub.phase?_eq_some.mpr ⟨x, hbefore, hp⟩).symm.trans hnext
        | cons _ before => cases before <;> cases hes
  -- the dials with a socket have nothing else to wait for at that instant
  have alone {e : SocketEvent} {before later : List (Nat × SocketEvent)}
      (hes : [(4, .cancelled)] = before ++ (4, e) :: later) : e = .cancelled := by
    have hmem : (4, e) ∈ [((4 : Nat), SocketEvent.cancelled)] := by
      rw [hes]
      simp
    simpa using hmem
  have hseen : Seen (some 4) 0 false := by decide
  have hdirect := (hsockets .standard none .any ⟨"a.org", 443⟩ 0 false (some 4) 9 hseen).2.2.1
    [] [(4, .cancelled)] 4 (.of_le (by decide) (by decide) (by decide))
    (SocketDial.heeding_cancelled (by exact nofun) (by decide)) rfl (by decide) (by exact nofun)
  have hsocks := (hsockets .standard (some ⟨.socks5h, ⟨"10.0.0.1", 1080⟩, none⟩) .any
    ⟨"a.org", 443⟩ 0 false (some 4) 9 hseen).2.2.1 [(2, .met (.ok ()))] [(4, .cancelled)] 4
    ⟨.of_le (by decide) (by decide) (by decide), nofun,
      .of_le (by decide) (by decide) (by decide)⟩
    (SocketDial.heeding_cancelled (by exact nofun) (by decide)) rfl (by decide) (by exact nofun)
  refine ⟨hpre, hpost, hqueued, hgate, rfl, ?_, ⟨_, _, rfl⟩, ?_⟩
  · obtain ⟨hend, -⟩ | ⟨_, _, _, hes, he, -⟩ := hdirect.2
    · exact hend
    · exact absurd (alone hes) he
  · obtain ⟨hend, -⟩ | ⟨_, _, _, hes, he, -⟩ := hsocks.2
    · exact hend
    · exact absurd (alone hes) he

end TunnelDial
