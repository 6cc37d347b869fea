import TunnelDial.Dial.Socket

/-! What each event does to a dial with a socket of its own. -/
namespace TunnelDial

namespace DirectOptions

theorem suitable_ne {o : DirectOptions} {n : Network} {a : Address} {ips : List Ip} {f : Failure}
    (h : o.suitable n a ips = .error f) : f ≠ .cancelled := by
  unfold suitable at h
  split at h
  · cases h
    exact nofun
  · cases h

theorem located_ne {o : DirectOptions} {n : Network} {a : Address}
    {r : Except String (List Ip)} {f : Failure} (h : o.located n a r = .error f) :
    f ≠ .cancelled := by
  cases r with
  | error e =>
    cases h
    exact nofun
  | ok ips => exact suitable_ne h

end DirectOptions

namespace SocketDial

/-- The dial has come to its end. -/
def IsOver (x : SocketDial) : Prop := ∃ r t, x.phase = .ended r t

variable {x : SocketDial}

theorem step_ended (hx : x.IsOver) (now : Nat) (e : SocketEvent) : x.step now e = x := by
  obtain ⟨r, t, hp⟩ := hx
  unfold step
  rw [hp]

/-- A dial that has ended stays as it is. -/
theorem after_ended (hx : x.IsOver) (es : List (Nat × SocketEvent)) : x.after es = x := by
  induction es with
  | nil => rfl
  | cons e es ih =>
    show (x.step e.1 e.2).after es = x
    rw [step_ended hx]
    exact ih

theorem step_cancelled (hx : ¬ x.IsOver) (now : Nat) :
    x.step now .cancelled = x.finish now (.error .cancelled) := by
  cases hp : x.phase with
  | ended r t => exact absurd ⟨r, t, hp⟩ hx
  | resolving | trying | locating | shaking =>
    unfold step
    rw [hp]

theorem step_cancelled_ne (hx : ¬ x.IsOver) (now : Nat) : x.step now .cancelled ≠ x := by
  intro h
  rw [step_cancelled hx] at h
  exact hx ⟨_, now, (congrArg phase h).symm⟩

theorem after_append (x : SocketDial) (es es' : List (Nat × SocketEvent)) :
    x.after (es ++ es') = (x.after es).after es' :=
  List.foldl_append

theorem after_concat (x : SocketDial) (es : List (Nat × SocketEvent)) (e : Nat × SocketEvent) :
    x.after (es ++ [e]) = (x.after es).step e.1 e.2 :=
  x.after_append es [e]

/-- All that an event can do to a dial, each with the phase that it does this in. -/
inductive Move (now : Nat) (x : SocketDial) : SocketEvent → SocketDial → Prop
  | cancel : ¬ x.IsOver → Move now x .cancelled (x.finish now (.error .cancelled))
  | expire : ¬ x.IsOver → x.deadline ≤ now → Move now x .expired (x.finish now (.error x.overdue))
  | lookup {r} : x.phase = .resolving →
      Move now x (.resolved r) (x.approach now (x.options.located x.network x.hop r))
  | connect {ip left} : x.phase = .trying ip left →
      Move now x (.met (.ok ())) (x.connected now ⟨ip, x.hop.port⟩)
  | refuse {ip left act text} : x.phase = .trying ip left →
      Move now x (.met (.error (act, text))) (x.refused now (act.failure text) left)
  | locate {peer r} : x.phase = .locating peer →
      Move now x (.resolved r) (x.locate now peer (x.options.located x.network x.target r))
  | shake {peer h r} : x.phase = .shaking peer h → Move now x (.answered r) (x.shake now peer h r)

theorem step_cases (x : SocketDial) (now : Nat) (e : SocketEvent) :
    x.step now e = x ∨ x.Move now e (x.step now e) := by
  fun_cases x.step now e with
  | case1 | case4 | case10 => exact .inl rfl
  | case2 hx => exact .inr (.cancel fun ⟨r, t, hp⟩ => hx r t hp)
  | case3 hle hx => exact .inr (.expire (fun ⟨r, t, hp⟩ => hx r t hp) hle)
  | case5 r hp => exact .inr (.lookup hp)
  | case6 ip left _ hp => exact .inr (.connect hp)
  | case7 ip left act text hp => exact .inr (.refuse hp)
  | case8 peer r hp => exact .inr (.locate hp)
  | case9 peer h r hp => exact .inr (.shake hp)

variable {now : Nat} {e : SocketEvent} {y : SocketDial}

/-- The event ends the dial, as cancelled only by a cancellation, or the dial goes on. -/
inductive Leads (now : Nat) (e : SocketEvent) : SocketDial → Prop
  | ended (x : SocketDial) (r : Except Failure Socket) :
      (r = .error .cancelled → e = .cancelled) → Leads now e (x.finish now r)
  | live {y : SocketDial} : ¬y.IsOver → y.phase ≠ .resolving → Leads now e y

theorem leads_finish {f : Failure} (hf : f ≠ .cancelled) (x : SocketDial) (now : Nat)
    (e : SocketEvent) : Leads now e (x.finish now (.error f)) := by
  refine .ended x _ ?_
  rintro ⟨⟩
  exact absurd rfl hf

theorem leads_live {p : SocketPhase} (hy : y.phase = p) (hlive : ∀ r t, p ≠ .ended r t)
    (hp : p ≠ .resolving) : Leads now e y := by
  subst hy
  exact .live (fun ⟨r, t, h⟩ => hlive r t h) hp

theorem leads_approach {r : Except Failure (Ip × List Ip)}
    (hr : ∀ f, r = .error f → f ≠ .cancelled) : Leads now e (x.approach now r) := by
  cases r with
  | error f => exact leads_finish (hr f rfl) x now e
  | ok r => exact leads_live rfl nofun nofun

theorem leads_locate {peer : Socket} {r : Except Failure (Ip × List Ip)}
    (hr : ∀ f, r = .error f → f ≠ .cancelled) : Leads now e (x.locate now peer r) := by
  cases r with
  | error f => exact leads_finish (hr f rfl) x now e
  | ok r => exact leads_live rfl nofun nofun

theorem leads_connected (x : SocketDial) (now : Nat) (peer : Socket) (e : SocketEvent) :
    Leads now e (x.connected now peer) := by
  unfold connected
  split
  · exact .ended x _ nofun
  · dsimp only
    split
    · split
      · exact leads_locate fun _ => DirectOptions.suitable_ne
      · exact leads_live rfl nofun nofun
    · split
      · exact leads_live rfl nofun nofun
      · exact leads_finish (by exact nofun) _ now e

theorem leads_shake {peer : Socket} {h : Socks.Handshake} (hp : x.phase = .shaking peer h)
    (r : StreamAnswer) : Leads now e (x.shake now peer h r) := by
  unfold shake
  dsimp only
  split
  · exact leads_live rfl nofun nofun
  · exact leads_live hp nofun nofun
  · exact .ended _ _ nofun
  · exact leads_finish (by exact nofun) _ now e

theorem Move.leads (hm : x.Move now e y) : Leads now e y := by
  cases hm with
  | cancel => exact .ended x _ fun _ => rfl
  | expire =>
    refine leads_finish ?_ x now .expired
    unfold overdue
    split <;> exact nofun
  | lookup => exact leads_approach fun _ => DirectOptions.located_ne
  | connect => exact leads_connected x now _ _
  | @refuse _ left =>
    cases left with
    | nil => exact leads_finish (by exact nofun) x now _
    | cons => exact leads_live rfl nofun nofun
  | locate => exact leads_locate fun _ => DirectOptions.located_ne
  | shake hp => exact leads_shake hp _

end SocketDial

end TunnelDial
