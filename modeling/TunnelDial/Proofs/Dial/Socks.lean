import Mathlib.Data.List.Induction
import TunnelDial.Proofs.Dial.Socket
import TunnelDial.Proofs.Proxy.Secrecy

/-! Dials through SOCKS5 proxies. What a proxy is told are the messages of the handshake, and their
only target is the one that the dial asks for: with `socks5h` the host as it is, which the resolver
never hears of; with `socks5` an address of it that suits. -/
namespace TunnelDial

namespace Socks

/-- The messages before the request, with the login if the proxy asks for it. -/
inductive Opening (c : Option Credentials) : Bytes → Prop
  | open : Opening c (offer c)
  | login {cr : Credentials} : c = some cr → Opening c (offer c ++ Socks.login cr)

/-- An address is sent as such, with its kind, its bytes and the port. -/
theorem request_socket (ip : Ip) (port : UInt16) : request (.socket ⟨ip, port⟩) =
    [5, 1, 0, if ip.isV4 then 1 else 4] ++ ip.toBytes ++ portBytes port := rfl

/-- A name is sent as it is, with its length and the port. -/
theorem request_of_name {a : Address} {t : Target} (hip : a.ip? = none)
    (ht : Target.ofAddress a = .ok t) : request t =
      [5, 1, 0, 3, UInt8.ofNat a.host.utf8ByteSize] ++ Bytes.ofText a.host ++ portBytes a.port := by
  unfold Target.ofAddress at ht
  rw [hip] at ht
  dsimp only at ht
  split at ht <;> cases ht
  rfl

/-- Bytes with which the messages for a target begin. -/
def Spoken (c : Option Credentials) (t : Target) (bs : Bytes) : Prop :=
  ∃ opening, Opening c opening ∧ bs <+: opening ++ request t

namespace Handshake

variable {h h' : Handshake} {sent bs : Bytes}

/-- What was sent, and what is still to be sent now, are the messages up to the one whose answer is
awaited. -/
def Said (h : Handshake) (sent : Bytes) : Prop :=
  match h.awaited with
  | .method => sent ++ h.unsent = offer h.credentials
  | .verdict => ∃ c, h.credentials = some c ∧
      sent ++ h.unsent = offer h.credentials ++ login c
  | _ => ∃ opening, Opening h.credentials opening ∧
      sent ++ h.unsent = opening ++ request h.target

theorem Said.spoken (hs : h.Said sent) (hbs : bs <+: h.unsent) :
    Spoken h.credentials h.target (sent ++ bs) := by
  have hle : sent ++ bs <+: sent ++ h.unsent := (List.prefix_append_right_inj sent).mpr hbs
  unfold Said at hs
  split at hs
  · exact ⟨_, .open, (hs ▸ hle).trans (List.prefix_append _ _)⟩
  · obtain ⟨c, hc, hs⟩ := hs
    exact ⟨_, .login hc, (hs ▸ hle).trans (List.prefix_append _ _)⟩
  · obtain ⟨opening, ho, hs⟩ := hs
    exact ⟨opening, ho, hs ▸ hle⟩

theorem accepted_prefix (h : Handshake) (r : StreamAnswer) : h.accepted r <+: h.unsent := by
  unfold accepted RecordedStream.accepted
  split
  · split
    · exact List.take_prefix _ _
    · exact List.nil_prefix
  · exact List.nil_prefix

theorem start_said (c : Option Credentials) (t : Target) : (start c t).Said [] := rfl

/-- A handshake goes on for the same target, with the messages up to its next one. -/
def Continues (h : Handshake) (sent : Bytes) (h' : Handshake) : Prop :=
  h'.credentials = h.credentials ∧ h'.target = h.target ∧ h'.Said sent

theorem chosen_cases {version method : UInt8} (hn : h.chosen version method = .more h') :
    h' = h.say (request h.target) .reply ∨
      ∃ c, h.credentials = some c ∧ h' = h.say (login c) .verdict := by
  revert hn
  fun_cases h.chosen version method with
  | case2 =>
    rintro ⟨⟩
    exact .inl rfl
  | case4 _ _ _ _ c hc =>
    rintro ⟨⟩
    exact .inr ⟨c, hc, rfl⟩
  | _ => exact nofun

theorem judged_cases {version code : UInt8} (hn : h.judged version code = .more h') :
    h' = h.say (request h.target) .reply := by
  revert hn
  fun_cases h.judged version code with
  | case3 =>
    rintro ⟨⟩
    rfl
  | _ => exact nofun

theorem replied_cases {version code reserved kind : UInt8}
    (hn : h.replied version code reserved kind = .more h') :
    h' = h.say [] .nameLength ∨ ∃ size, h' = h.say [] (.rest size) := by
  revert hn
  fun_cases h.replied version code reserved kind with
  | case4 =>
    rintro ⟨⟩
    exact .inr ⟨6, rfl⟩
  | case5 =>
    rintro ⟨⟩
    exact .inr ⟨18, rfl⟩
  | case6 =>
    rintro ⟨⟩
    exact .inl rfl
  | _ => exact nofun

/-- The next message is the one that follows on those before. -/
theorem Said.answer (hs : h.Said sent) (hu : h.unsent = []) (ha : h.answer = .more h') :
    h.Continues sent h' := by
  unfold Said at hs
  rw [hu, List.append_nil] at hs
  unfold Handshake.answer at ha
  split at ha
  · rename_i hawaited _
    rw [hawaited] at hs
    rcases chosen_cases ha with rfl | ⟨c, hc, rfl⟩
    · exact ⟨rfl, rfl, offer h.credentials, .open, congrArg (· ++ request h.target) hs⟩
    · exact ⟨rfl, rfl, c, hc, congrArg (· ++ login c) hs⟩
  · rename_i hawaited _
    rw [hawaited] at hs
    obtain ⟨c, hc, hs⟩ := hs
    obtain rfl := judged_cases ha
    exact ⟨rfl, rfl, _, .login hc, congrArg (· ++ request h.target) hs⟩
  · rename_i hawaited _
    rw [hawaited] at hs
    obtain ⟨opening, ho, hs⟩ := hs
    obtain rfl | ⟨size, rfl⟩ := replied_cases ha
    · exact ⟨rfl, rfl, opening, ho, (List.append_nil _).trans hs⟩
    · exact ⟨rfl, rfl, opening, ho, (List.append_nil _).trans hs⟩
  · rename_i hawaited _
    rw [hawaited] at hs
    obtain ⟨opening, ho, hs⟩ := hs
    cases ha
    exact ⟨rfl, rfl, opening, ho, (List.append_nil _).trans hs⟩
  · cases ha

theorem chosen_ne_done (version method : UInt8) : h.chosen version method ≠ .done := by
  fun_cases h.chosen version method with
  | _ => exact nofun

theorem judged_ne_done (version code : UInt8) : h.judged version code ≠ .done := by
  fun_cases h.judged version code with
  | _ => exact nofun

theorem replied_ne_done (version code reserved kind : UInt8) :
    h.replied version code reserved kind ≠ .done := by
  fun_cases h.replied version code reserved kind with
  | _ => exact nofun

/-- Only the last part of the reply, once all of it came, leads to the end. -/
theorem rest_of_answer (hgot : h.awaited.size ≤ h.got.length) (ha : h.answer = .done) :
    ∃ size, h.awaited = .rest size := by
  obtain ⟨c, t, unsent, awaited, got⟩ := h
  match awaited, got, hgot with
  | .rest size, _, _ => exact ⟨size, rfl⟩
  | .method, v :: m :: _, _ => exact absurd ha (chosen_ne_done v m)
  | .verdict, v :: c :: _, _ => exact absurd ha (judged_ne_done v c)
  | .reply, v :: c :: r :: k :: _, _ => exact absurd ha (replied_ne_done v c r k)
  | .nameLength, _ :: _, _ => cases ha

theorem rest_of_hear (hd : h.hear bs = .done) : ∃ size, h.awaited = .rest size := by
  unfold hear at hd
  dsimp only at hd
  split at hd
  · cases hd
  · rename_i hlength
    split at hd
    · cases hd
    · rename_i ha
      exact rest_of_answer (h := { h with got := h.got ++ bs }) (not_lt.mp hlength) ha
    · cases hd

/-- It makes no difference how much of the messages was sent already. -/
theorem Said.moved {sent' unsent' got' : Bytes} (hs : h.Said sent)
    (hall : sent' ++ unsent' = sent ++ h.unsent) :
    { h with unsent := unsent', got := got' }.Said sent' := by
  unfold Said at hs ⊢
  rw [← hall] at hs
  exact hs

theorem Said.hear (hs : h.Said sent) (hu : h.unsent = []) (ht : h.hear bs = .next h') :
    h.Continues sent h' := by
  have hs' : { h with got := h.got ++ bs }.Said sent := hs.moved rfl
  unfold Handshake.hear at ht
  dsimp only at ht
  split at ht
  · cases ht
    exact ⟨rfl, rfl, hs'⟩
  · split at ht
    · rename_i ha
      cases ht
      exact hs'.answer hu ha
    all_goals cases ht

/-- What is sent by a call of the handshake follows on what was sent before. -/
theorem Said.take {r : StreamAnswer} (hs : h.Said sent) (ht : h.take r = .next h') :
    h.Continues (sent ++ h.accepted r) h' := by
  revert ht
  fun_cases h.take r with
  | case3 _ n _ =>
    rintro ⟨⟩
    refine ⟨rfl, rfl, hs.moved ?_⟩
    show sent ++ h.unsent.take n ++ h.unsent.drop n = sent ++ h.unsent
    rw [List.append_assoc, List.take_append_drop]
  | case8 hu bs _ =>
    intro ht
    have hu : h.unsent = [] := by simpa using hu
    show h.Continues (sent ++ []) h'
    rw [List.append_nil]
    exact hs.hear hu ht
  | _ => exact nofun

/-- At its end all the messages were sent. -/
theorem Said.done {r : StreamAnswer} (hs : h.Said sent) (hd : h.take r = .done) :
    ∃ opening, Opening h.credentials opening ∧
      sent ++ h.accepted r = opening ++ request h.target := by
  revert hd
  fun_cases h.take r with
  | case8 hu bs _ =>
    intro hd
    have hu : h.unsent = [] := by simpa using hu
    obtain ⟨size, hawaited⟩ := rest_of_hear hd
    unfold Said at hs
    rwa [hawaited, hu] at hs
  | _ => exact nofun

theorem accepted_of_waiting {r : StreamAnswer} (ht : h.take r = .waiting) : h.accepted r = [] := by
  revert ht
  fun_cases h.take r with
  | case1 r hu =>
    have hu : h.unsent = [] := List.isEmpty_iff.mp hu
    cases r <;> simp [accepted, RecordedStream.accepted, hu]
  | case2 | case3 => exact nofun
  | case11 =>
    rename_i hwrite _
    cases r with
    | write r => exact absurd rfl (hwrite r)
    | _ => exact fun _ => rfl
  | _ => exact fun _ => rfl

end Handshake

end Socks

/-- An answer of the resolver. -/
def SocketEvent.isResolved : SocketEvent → Bool
  | resolved _ => true
  | _ => false

namespace SocketDial

open Socks

variable {p : Proxy} {o : DirectOptions} {n : Network} {a : Address} {x y : SocketDial}
  {now : Nat} {e : SocketEvent} {peer : Socket} {r : Except Failure (Ip × List Ip)} {t : Target}

/-- What a dial is for. -/
def errand (x : SocketDial) : DirectOptions × Option Proxy × Network × Address :=
  (x.options, x.via, x.network, x.target)

theorem errand_approach : (x.approach now r).errand = x.errand := by
  unfold approach
  split <;> rfl

theorem goal_approach : (x.approach now r).goal = x.goal := by
  unfold approach
  split <;> rfl

theorem asked_approach : (x.approach now r).asked = x.asked := by
  unfold approach
  split <;> rfl

theorem phase_approach : (x.approach now r).phase ≠ .resolving := by
  unfold approach
  split <;> exact nofun

theorem errand_locate : (x.locate now peer r).errand = x.errand := by
  unfold locate
  split <;> rfl

theorem errand_connected : (x.connected now peer).errand = x.errand := by
  unfold connected
  split
  · rfl
  · dsimp only
    split
    · split
      · exact errand_locate
      · rfl
    · split <;> rfl

/-- A dial stays what it is for. -/
theorem Move.errand_eq (hm : x.Move now e y) : y.errand = x.errand := by
  cases hm with
  | cancel | expire => rfl
  | lookup => exact errand_approach
  | connect => exact errand_connected
  | @refuse _ left =>
    cases left <;> rfl
  | locate => exact errand_locate
  | shake =>
    unfold SocketDial.shake
    dsimp only
    split <;> rfl

/-- Nothing was asked of the proxy. -/
def Quiet (x : SocketDial) : Prop := x.goal = none ∧ x.sent = []

/-- The proxy was told all the messages for the target that it was asked for. -/
def Told (p : Proxy) (x : SocketDial) : Prop :=
  ∃ t opening, x.goal = some t ∧ Opening p.credentials opening ∧ x.sent = opening ++ request t

/-- The proxy was told something for the target that it was asked for. -/
def Spoke (p : Proxy) (x : SocketDial) : Prop :=
  ∃ t, x.goal = some t ∧ Spoken p.credentials t x.sent

theorem Told.spoke (hx : x.Told p) : x.Spoke p := by
  obtain ⟨t, opening, hg, ho, hs⟩ := hx
  exact ⟨t, hg, opening, ho, hs ▸ List.prefix_refl _⟩

/-- What a dial through a proxy has told it in each phase. -/
def Tells (p : Proxy) (a : Address) (x : SocketDial) : Prop :=
  match x.phase with
  | .resolving => x.Quiet
  | .trying .. => x.Quiet
  | .locating _ => x.Quiet ∧ p.scheme = .socks5 ∧ a.ip? = none
  | .shaking _ h => x.goal = some h.target ∧ h.credentials = p.credentials ∧ h.Said x.sent
  | .ended (.error _) _ => x.Quiet ∨ x.Spoke p
  | .ended (.ok _) _ => x.Told p

/-! What it has told the proxy, phase by phase. -/

theorem Tells.of_resolving (hx : x.Tells p a) (h : x.phase = .resolving) : x.Quiet := by
  unfold Tells at hx
  rwa [h] at hx

theorem Tells.of_trying {ip : Ip} {left : List Ip} (hx : x.Tells p a)
    (h : x.phase = .trying ip left) : x.Quiet := by
  unfold Tells at hx
  rwa [h] at hx

theorem Tells.of_locating (hx : x.Tells p a) (h : x.phase = .locating peer) :
    x.Quiet ∧ p.scheme = .socks5 ∧ a.ip? = none := by
  unfold Tells at hx
  rwa [h] at hx

theorem Tells.of_ok {t : Nat} (hx : x.Tells p a) (h : x.phase = .ended (.ok peer) t) :
    x.Told p := by
  unfold Tells at hx
  rwa [h] at hx

theorem Tells.of_shaking {h : Handshake} (hx : x.Tells p a) (hp : x.phase = .shaking peer h) :
    x.goal = some h.target ∧ h.credentials = p.credentials ∧ h.Said x.sent := by
  unfold Tells at hx
  rwa [hp] at hx

/-- Nothing was asked of the proxy yet, or what it was told is for the target. -/
theorem Tells.live (hx : x.Tells p a) : x.Quiet ∨ x.Spoke p := by
  unfold Tells at hx
  split at hx
  · exact .inl hx
  · exact .inl hx
  · exact .inl hx.1
  · obtain ⟨hg, hc, hs⟩ := hx
    have hspoken := hs.spoken List.nil_prefix
    rw [List.append_nil, hc] at hspoken
    exact .inr ⟨_, hg, hspoken⟩
  · exact hx
  · exact .inr hx.spoke

theorem Tells.fail (hx : x.Quiet ∨ x.Spoke p) (now : Nat) (f : Failure) :
    (x.finish now (.error f)).Tells p a :=
  hx

theorem Quiet.approach (hx : x.Quiet) : (x.approach now r).Tells p a := by
  unfold SocketDial.approach
  split
  · exact Tells.fail (.inl hx) _ _
  · exact hx

theorem Quiet.refused (hx : x.Quiet) (f : Failure) (left : List Ip) :
    (x.refused now f left).Tells p a := by
  cases left with
  | nil => exact Tells.fail (.inl hx) _ _
  | cons => exact hx

theorem Quiet.greet (hx : x.Quiet) (hp : x.via = some p) : (x.greet peer t).Tells p a := by
  refine ⟨rfl, ?_, ?_⟩
  · show x.via.bind Proxy.credentials = _
    rw [hp]
    rfl
  · show (Handshake.start _ _).Said x.sent
    rw [hx.2]
    exact Handshake.start_said _ _

theorem Quiet.locate (hx : x.Quiet) (hp : x.via = some p) : (x.locate now peer r).Tells p a := by
  unfold SocketDial.locate
  split
  · exact Tells.fail (.inl hx) _ _
  · exact hx.greet hp

theorem Quiet.connected (hx : x.Quiet) (hp : x.via = some p) (ha : x.target = a) :
    (x.connected now peer).Tells p a := by
  have hq : Quiet { x with via := some p, deadline := now + x.options.timeout } := hx
  unfold SocketDial.connected
  rw [hp]
  dsimp only
  split
  · rename_i hscheme
    split
    · exact hq.locate rfl
    · rename_i hip
      exact ⟨hx, hscheme, ha ▸ hip⟩
  · split
    · exact hq.greet rfl
    · exact Tells.fail (.inl hq) _ _

theorem Tells.shake {h : Handshake} (hx : x.Tells p a) (hp : x.phase = .shaking peer h)
    (r : StreamAnswer) : (x.shake now peer h r).Tells p a := by
  obtain ⟨hg, hc, hs⟩ := hx.of_shaking hp
  have hspoken : Spoke p { x with sent := x.sent ++ h.accepted r } :=
    ⟨_, hg, hc ▸ hs.spoken (h.accepted_prefix r)⟩
  unfold SocketDial.shake
  dsimp only
  split
  · rename_i ht
    obtain ⟨hc', ht', hs'⟩ := hs.take ht
    exact ⟨ht' ▸ hg, hc'.trans hc, hs'⟩
  · rename_i ht
    unfold Tells
    rw [hp, Handshake.accepted_of_waiting ht, List.append_nil]
    exact ⟨hg, hc, hs⟩
  · rename_i hd
    obtain ⟨opening, ho, hall⟩ := hs.done hd
    exact ⟨_, opening, hg, hc ▸ ho, hall⟩
  · exact Tells.fail (.inr hspoken) _ _

theorem Tells.move (hx : x.Tells p a) (hp : x.via = some p) (ha : x.target = a)
    (hm : x.Move now e y) : y.Tells p a := by
  cases hm with
  | cancel => exact Tells.fail hx.live _ _
  | expire => exact Tells.fail hx.live _ _
  | lookup hphase => exact (hx.of_resolving hphase).approach
  | connect hphase => exact (hx.of_trying hphase).connected hp ha
  | refuse hphase => exact (hx.of_trying hphase).refused _ _
  | locate hphase => exact (hx.of_locating hphase).1.locate hp
  | shake hphase => exact hx.shake hphase _

theorem errand_start (cancelled : Bool) :
    (start o (some p) n a now cancelled).errand = (o, some p, n, a) := by
  unfold start
  dsimp only
  split
  · rfl
  · split
    · exact errand_approach
    · rfl

theorem tells_start (cancelled : Bool) : (start o (some p) n a now cancelled).Tells p a := by
  unfold start
  dsimp only
  split
  · exact Tells.fail (.inl ⟨rfl, rfl⟩) _ _
  · split
    · exact Quiet.approach ⟨rfl, rfl⟩
    · exact ⟨rfl, rfl⟩

theorem goal_start (cancelled : Bool) : (start o (some p) n a now cancelled).goal = none := by
  unfold start
  dsimp only
  split
  · rfl
  · split
    · exact goal_approach
    · rfl

theorem asked_start (cancelled : Bool) : (start o (some p) n a now cancelled).asked =
    if cancelled || p.address.ip?.isSome then [] else [p.address.host] := by
  cases cancelled with
  | true => rfl
  | false =>
    cases hip : p.address.ip? with
    | none => simp [start, hop, hip]
    | some ip => simp [start, hop, hip, asked_approach]

theorem phase_start (hip : p.address.ip?.isSome) (cancelled : Bool) :
    (start o (some p) n a now cancelled).phase ≠ .resolving := by
  obtain ⟨ip, hip⟩ := Option.isSome_iff_exists.mp hip
  cases cancelled with
  | true => exact nofun
  | false => simp [start, hop, hip, phase_approach]

/-- In every run a dial is for its target, and tells the proxy nothing else. -/
theorem tells_after (hx : x.errand = (o, some p, n, a)) (ht : x.Tells p a)
    (es : List (Nat × SocketEvent)) :
    (x.after es).errand = (o, some p, n, a) ∧ (x.after es).Tells p a := by
  induction es generalizing x with
  | nil => exact ⟨hx, ht⟩
  | cons e es ih =>
    show ((x.step e.1 e.2).after es).errand = _ ∧ ((x.step e.1 e.2).after es).Tells p a
    rcases x.step_cases e.1 e.2 with hstep | hmove
    · rw [hstep]
      exact ih hx ht
    · simp only [errand, Prod.mk.injEq] at hx
      exact ih (hmove.errand_eq.trans (by simp [errand, hx])) (ht.move hx.2.1 hx.2.2.2 hmove)

/-- The first address that suits is the one that is asked for. -/
theorem find?_of_suitable {ips left : List Ip} {ip : Ip}
    (h : o.suitable n a ips = .ok (ip, left)) :
    ips.find? (fun ip => n.allows ip && o.fits ip) = some ip ∧
      (n.allows ip && o.fits ip) = true := by
  have hfind : ips.find? (fun ip => n.allows ip && o.fits ip) = some ip := by
    unfold DirectOptions.suitable at h
    rw [← List.head?_filter]
    split at h
    · cases h
    · rename_i hfilter
      cases h
      rw [hfilter]
      rfl
  have hsuits := List.find?_some hfind
  exact ⟨hfind, hsuits⟩

/-- What an event makes a dial ask for: the host as it is, or by an address that suits, which is the
host itself or the first one that the resolver names. -/
def Aims (p : Proxy) (x : SocketDial) (e : SocketEvent) (t : Target) : Prop :=
  p.scheme ≠ .socks5 ∧ Target.ofAddress x.target = .ok t ∨
    p.scheme = .socks5 ∧ ∃ ip, t = .socket ⟨ip, x.target.port⟩ ∧
      (x.network.allows ip && x.options.fits ip) = true ∧
      (x.target.ip? = some ip ∨ x.target.ip? = none ∧ ∃ peer ips, x.phase = .locating peer ∧
        e = .resolved (.ok ips) ∧
        ips.find? (fun ip => x.network.allows ip && x.options.fits ip) = some ip)

theorem goal_locate (hg : (x.locate now peer r).goal = some t) :
    x.goal = some t ∨ ∃ ip left, r = .ok (ip, left) ∧ t = .socket ⟨ip, x.target.port⟩ := by
  unfold locate at hg
  split at hg
  · exact .inl hg
  · cases hg
    exact .inr ⟨_, _, rfl, rfl⟩

theorem goal_connected (hp : x.via = some p) (hg : (x.connected now peer).goal = some t) :
    x.goal = some t ∨ x.Aims p e t := by
  unfold connected at hg
  rw [hp] at hg
  dsimp only at hg
  split at hg
  · rename_i hscheme
    split at hg
    · rename_i ip hip
      refine (goal_locate hg).imp_right ?_
      rintro ⟨ip', left, hr, rfl⟩
      obtain ⟨hfind, hsuits⟩ := find?_of_suitable hr
      obtain rfl : ip' = ip := by simpa using List.mem_of_find?_eq_some hfind
      exact .inr ⟨hscheme, ip', rfl, hsuits, .inl hip⟩
    · exact .inl hg
  · rename_i hscheme
    split at hg
    · rename_i t' ht
      cases hg
      exact .inr (.inl ⟨hscheme, ht⟩)
    · exact .inl hg

/-- A dial asks for what it aims at, and for nothing else later on. -/
theorem Tells.goal_move (hx : x.Tells p a) (hp : x.via = some p) (ha : x.target = a)
    (hm : x.Move now e y) (hg : y.goal = some t) : x.goal = some t ∨ x.Aims p e t := by
  cases hm with
  | cancel => exact .inl hg
  | expire => exact .inl hg
  | lookup => exact .inl (goal_approach.symm.trans hg)
  | connect => exact goal_connected hp hg
  | @refuse _ left => cases left <;> exact .inl hg
  | @locate peer answer hphase =>
    obtain ⟨-, hscheme, hnone⟩ := hx.of_locating hphase
    refine (goal_locate hg).imp_right ?_
    rintro ⟨ip, left, hr, rfl⟩
    cases answer with
    | error => cases hr
    | ok ips =>
      obtain ⟨hfind, hsuits⟩ := find?_of_suitable hr
      exact .inr ⟨hscheme, ip, rfl, hsuits,
        .inr ⟨ha ▸ hnone, peer, ips, hphase, rfl, hfind⟩⟩
  | shake =>
    unfold SocketDial.shake at hg
    dsimp only at hg
    split at hg <;> exact .inl hg

/-- Only a proxy that takes addresses lets a dial ask for those of its target. -/
theorem Move.asked_eq (hm : x.Move now e y) (hp : x.via = some p) (hscheme : p.scheme ≠ .socks5) :
    y.asked = x.asked := by
  cases hm with
  | cancel | expire => rfl
  | lookup => exact asked_approach
  | connect =>
    unfold connected
    rw [hp]
    dsimp only
    rw [if_neg hscheme]
    split <;> rfl
  | @refuse _ left => cases left <;> rfl
  | locate =>
    unfold SocketDial.locate
    split <;> rfl
  | shake =>
    unfold SocketDial.shake
    dsimp only
    split <;> rfl

/-- The resolver is asked for the host of the connection at the beginning only. -/
theorem Move.phase_ne (hm : x.Move now e y) : y.phase ≠ .resolving := by
  cases hm.leads with
  | ended => exact nofun
  | live _ hphase => exact hphase

/-- An answer of the resolver reaches only a dial that waits for it. -/
theorem Move.awaited {answer : Except String (List Ip)} (hm : x.Move now (.resolved answer) y) :
    x.phase = .resolving ∨ ∃ peer, x.phase = .locating peer := by
  cases hm with
  | lookup hphase => exact .inl hphase
  | locate hphase => exact .inr ⟨_, hphase⟩

/-- Answers of the resolver change nothing once the proxy is known by its address, if it is not
sent addresses. -/
theorem after_filter (hx : x.errand = (o, some p, n, a)) (ht : x.Tells p a)
    (hscheme : p.scheme ≠ .socks5) (hr : x.phase ≠ .resolving) (es : List (Nat × SocketEvent)) :
    x.after (es.filter (!·.2.isResolved)) = x.after es := by
  induction es generalizing x with
  | nil => rfl
  | cons e es ih =>
    have hstep : (x.step e.1 e.2).errand = (o, some p, n, a) ∧ (x.step e.1 e.2).Tells p a :=
      tells_after hx ht [e]
    have hphase : (x.step e.1 e.2).phase ≠ .resolving := by
      rcases x.step_cases e.1 e.2 with hsame | hmove
      · rwa [hsame]
      · exact hmove.phase_ne
    have hnext := ih hstep.1 hstep.2 hphase
    obtain ⟨now, e⟩ := e
    cases e with
    | resolved answer =>
      have hsame : x.step now (.resolved answer) = x := by
        refine (x.step_cases now (.resolved answer)).resolve_right fun hmove => ?_
        rcases hmove.awaited with h | ⟨peer, h⟩
        · exact hr h
        · exact hscheme (ht.of_locating h).2.1
      rw [List.filter_cons_of_neg (by simp [SocketEvent.isResolved])]
      show _ = (x.step now (.resolved answer)).after es
      rw [hsame] at hnext ⊢
      exact hnext
    | met | answered | expired | cancelled =>
      rw [List.filter_cons_of_pos rfl]
      exact hnext

theorem asked_after (hx : x.errand = (o, some p, n, a)) (ht : x.Tells p a)
    (hscheme : p.scheme ≠ .socks5) (es : List (Nat × SocketEvent)) :
    (x.after es).asked = x.asked := by
  induction es using List.reverseRecOn with
  | nil => rfl
  | append_singleton es e ih =>
    have hvia := congrArg (·.2.1) (tells_after hx ht es).1
    rw [after_concat]
    rcases (x.after es).step_cases e.1 e.2 with hsame | hmove
    · rw [hsame, ih]
    · rw [hmove.asked_eq hvia hscheme, ih]

/-- Whatever a dial asks for, an event of the run made it aim at that. -/
theorem goal_after (hx : x.errand = (o, some p, n, a)) (ht : x.Tells p a) (hg : x.goal = none)
    {es : List (Nat × SocketEvent)} (hgoal : (x.after es).goal = some t) :
    ∃ pre now e post, es = pre ++ (now, e) :: post ∧ (x.after pre).Aims p e t := by
  induction es using List.reverseRecOn with
  | nil => cases hg.symm.trans hgoal
  | append_singleton es e ih =>
    obtain ⟨herrand, htells⟩ := tells_after hx ht es
    simp only [errand, Prod.mk.injEq] at herrand
    rw [after_concat] at hgoal
    have hlast : (x.after es).goal = some t ∨ (x.after es).Aims p e.2 t := by
      rcases (x.after es).step_cases e.1 e.2 with hsame | hmove
      · rw [hsame] at hgoal
        exact .inl hgoal
      · exact htells.goal_move herrand.2.1 herrand.2.2.2 hmove hgoal
    rcases hlast with hbefore | haims
    · obtain ⟨pre, now, e', post, rfl, haims⟩ := ih hbefore
      exact ⟨pre, now, e', post ++ [e], by simp, haims⟩
    · exact ⟨es, e.1, e.2, [], rfl, haims⟩

/-- An event that ends a dial ends every run that goes on from it. -/
theorem after_of_step {pre post : List (Nat × SocketEvent)} (hy : y.IsOver)
    (hstep : (x.after pre).step now e = y) : x.after (pre ++ (now, e) :: post) = y := by
  rw [after_append]
  show ((x.after pre).step now e).after post = y
  rw [hstep]
  exact after_ended hy post

theorem scheme_of_ofText {url : String} {options : DialerOptions}
    (hurl : Dialer.ofText url options = .ok (.socks p o)) :
    p.scheme = .socks5 ∨ p.scheme = .socks5h := by
  obtain ⟨q, -, hd⟩ := bind_eq_ok.mp hurl
  have hq := Dialer.eq_of_ofProxy hd
  split at hq
  · rename_i hsocks
    cases hq
    unfold Scheme.isSocks at hsocks
    split at hsocks
    · exact .inl ‹_›
    · exact .inr ‹_›
    · cases hsocks
  · cases hq

/-- Without an address that suits a dial fails before the handshake. -/
theorem locate_of_error {f : Failure} (hr : r = .error f) :
    x.locate now peer r = x.finish now (.error f) := by
  rw [hr]
  rfl

theorem unsuitable_of_ip {ip : Ip} (hsuits : (n.allows ip && o.fits ip) = false) :
    o.suitable n a [ip] = .error (DirectOptions.unsuitable n a) := by
  unfold DirectOptions.suitable
  rw [List.filter_cons_of_neg (by simp [hsuits]), List.filter_nil]

theorem step_met_of_error {hop ip : Ip} {left : List Ip} (hx : x.errand = (o, some p, n, a))
    (hscheme : p.scheme = .socks5) (hip : a.ip? = some ip)
    (hsuits : (n.allows ip && o.fits ip) = false) (hphase : x.phase = .trying hop left) :
    ∃ y : SocketDial, y.sent = x.sent ∧
      x.step now (.met (.ok ())) = y.finish now (.error (DirectOptions.unsuitable n a)) := by
  simp only [errand, Prod.mk.injEq] at hx
  obtain ⟨rfl, hvia, rfl, rfl⟩ := hx
  refine ⟨{ x with via := some p, deadline := now + x.options.timeout }, rfl, ?_⟩
  unfold step
  rw [hphase]
  dsimp only
  unfold connected
  rw [hvia]
  dsimp only
  rw [if_pos hscheme, hip]
  exact locate_of_error (unsuitable_of_ip hsuits)

theorem step_resolved_of_error (now : Nat) {answer : Except String (List Ip)} {f : Failure}
    (hx : x.errand = (o, some p, n, a)) (hphase : x.phase = .locating peer)
    (hf : o.located n a answer = .error f) :
    x.step now (.resolved answer) = x.finish now (.error f) := by
  simp only [errand, Prod.mk.injEq] at hx
  obtain ⟨rfl, -, rfl, rfl⟩ := hx
  unfold step
  rw [hphase]
  exact locate_of_error hf

/-- The name of a target is looked up on the right side. Through `socks5h` the resolver is asked for
the proxy at most, and with a proxy whose address is known no answer of the resolver makes any
difference. Through `socks5` the proxy is told an address: the target itself or the first one of the
resolver's answer that suits; without one the dial fails, and the proxy is told nothing. -/
theorem run_resolution {url : String} {options : DialerOptions}
    (hurl : Dialer.ofText url options = .ok (.socks p o)) (n : Network) (a : Address) (began : Nat)
    (cancelled : Bool) (es : List (Nat × SocketEvent)) :
    let first := start o (some p) n a began cancelled
    let x := first.after es
    let suits := fun ip => n.allows ip && o.fits ip
    (p.scheme = .socks5 ∨ p.scheme = .socks5h) ∧
    (x.Quiet ∨ x.Spoke p) ∧ (∀ peer t, x.phase = .ended (.ok peer) t → x.Told p) ∧
    (p.scheme = .socks5h →
      x.asked = (if cancelled || p.address.ip?.isSome then [] else [p.address.host]) ∧
      (∀ t, x.goal = some t → Target.ofAddress a = .ok t ∧ (a.ip? = none → request t =
        [5, 1, 0, 3, UInt8.ofNat a.host.utf8ByteSize] ++ Bytes.ofText a.host ++
          portBytes a.port)) ∧
      (p.address.ip?.isSome → ∀ es' : List (Nat × SocketEvent),
        es'.filter (!·.2.isResolved) = es.filter (!·.2.isResolved) → first.after es' = x)) ∧
    (p.scheme = .socks5 →
      (∀ t, x.goal = some t → ∃ ip, t = .socket ⟨ip, a.port⟩ ∧
        request t = [5, 1, 0, if ip.isV4 then 1 else 4] ++ ip.toBytes ++ portBytes a.port ∧
        suits ip = true ∧
        (a.ip? = some ip ∨ a.ip? = none ∧ ∃ pre now ips post peer,
          es = pre ++ (now, .resolved (.ok ips)) :: post ∧
          (first.after pre).phase = .locating peer ∧ ips.find? suits = some ip)) ∧
      (∀ ip, a.ip? = some ip → suits ip = false → ∀ pre now post hop left,
        es = pre ++ (now, .met (.ok ())) :: post → (first.after pre).phase = .trying hop left →
        x.phase = .ended (.error (DirectOptions.unsuitable n a)) now ∧ x.sent = []) ∧
      (∀ pre now answer post peer f,
        es = pre ++ (now, .resolved answer) :: post → (first.after pre).phase = .locating peer →
        o.located n a answer = .error f → x.phase = .ended (.error f) now ∧ x.sent = [])) := by
  intro first x suits
  have hfirst : first.errand = (o, some p, n, a) := errand_start cancelled
  have htold : first.Tells p a := tells_start cancelled
  obtain ⟨herrand, htells⟩ := tells_after hfirst htold es
  refine ⟨scheme_of_ofText hurl, htells.live, fun peer t hphase => htells.of_ok hphase, ?_, ?_⟩
  · intro hscheme
    have hne : p.scheme ≠ .socks5 := by
      rw [hscheme]
      decide
    refine ⟨?_, ?_, ?_⟩
    · rw [show x.asked = _ from asked_after hfirst htold hne es]
      exact asked_start cancelled
    · intro t hgoal
      obtain ⟨pre, now, e, post, -, haims⟩ := goal_after hfirst htold (goal_start cancelled) hgoal
      rcases haims with ⟨-, ht⟩ | ⟨h, -⟩
      · rw [show (first.after pre).target = a from
          congrArg (·.2.2.2) (tells_after hfirst htold pre).1] at ht
        exact ⟨ht, fun hip => request_of_name hip ht⟩
      · exact absurd h hne
    · intro hip es' hsame
      have hphase : first.phase ≠ .resolving := phase_start hip cancelled
      rw [← after_filter hfirst htold hne hphase es', hsame]
      exact after_filter hfirst htold hne hphase es
  · intro hscheme
    refine ⟨?_, ?_, ?_⟩
    · intro t hgoal
      obtain ⟨pre, now, e, post, hes, haims⟩ := goal_after hfirst htold (goal_start cancelled) hgoal
      have hpre := (tells_after hfirst htold pre).1
      simp only [errand, Prod.mk.injEq] at hpre
      obtain ⟨ho, -, hn, ha⟩ := hpre
      unfold Aims at haims
      rw [ho, hn, ha] at haims
      obtain ⟨-, ip, ht, hsuits, hname⟩ := haims.resolve_left fun h => h.1 hscheme
      refine ⟨ip, ht, ht ▸ request_socket ip a.port, hsuits, hname.imp_right ?_⟩
      rintro ⟨hnone, peer, ips, hphase, rfl, hfind⟩
      exact ⟨hnone, pre, now, ips, post, peer, hes, hphase, hfind⟩
    · intro ip hip hsuits pre now post hop left hes hphase
      obtain ⟨herrand, htells⟩ := tells_after hfirst htold pre
      obtain ⟨y, hsent, hstep⟩ := step_met_of_error herrand hscheme hip hsuits hphase
      have hx : x = _ := (congrArg first.after hes).trans (after_of_step ⟨_, _, rfl⟩ hstep)
      rw [hx]
      exact ⟨rfl, hsent.trans (htells.of_trying hphase).2⟩
    · intro pre now answer post peer f hes hphase hf
      obtain ⟨herrand, htells⟩ := tells_after hfirst htold pre
      have hstep := step_resolved_of_error now herrand hphase hf
      have hx : x = _ := (congrArg first.after hes).trans (after_of_step ⟨_, _, rfl⟩ hstep)
      rw [hx]
      exact ⟨rfl, (htells.of_locating hphase).1.2⟩

deriving instance DecidableEq for SocketPhase

/-- With the name at the proxy, whether the resolver knows it makes no difference. With addresses
the first one in IPv4 is asked for, as the network wants, and once the proxy took it the whole
request was sent. -/
theorem run_resolution_alike :
    let p : Proxy := ⟨.socks5h, ⟨"10.0.0.1", 1080⟩, none⟩
    let q : Proxy := ⟨.socks5, ⟨"10.0.0.1", 1080⟩, none⟩
    let a : Address := ⟨"a.org", 443⟩
    let first := start .standard (some p) .any a 0 false
    let second := start .standard (some q) .v4Only a 0 false
    let es (answer : Except String (List Ip)) : List (Nat × SocketEvent) :=
      [(1, .met (.ok ())), (2, .resolved answer), (3, .answered (.write (.ready 3)))]
    let ips : List Ip := [.v6 ⟨.replicate 8 1, rfl⟩, .v4 ⟨10, 0, 0, 2⟩, .v4 ⟨10, 0, 0, 3⟩]
    let rest : List (Nat × SocketEvent) :=
      [(4, .answered (.read (.ready [5, 0]))), (5, .answered (.write (.ready 10))),
       (6, .answered (.read (.ready [5, 0, 0, 1]))),
       (7, .answered (.read (.ready [0, 0, 0, 0, 0, 0])))]
    Dialer.ofText "socks5h://10.0.0.1:1080" .standard = .ok (.socks p .standard) ∧
    Dialer.ofText "socks5://10.0.0.1:1080" .standard = .ok (.socks q .standard) ∧
    first.after (es (.error "no such host")) = first.after (es (.ok [.v4 ⟨10, 0, 0, 2⟩])) ∧
    (first.after (es (.error "no such host"))).sent = [5, 1, 0] ∧
    (first.after (es (.error "no such host"))).goal = some (.name "a.org" 443) ∧
    (second.after (es (.ok ips) ++ rest)).phase = .ended (.ok ⟨.v4 ⟨10, 0, 0, 1⟩, 1080⟩) 7 ∧
    (second.after (es (.ok ips) ++ rest)).Told q ∧
    (second.after (es (.ok ips) ++ rest)).sent = [5, 1, 0] ++ [5, 1, 0, 1, 10, 0, 0, 2, 1, 187] ∧
    (second.after (es (.error "no such host"))).sent = [] := by
  intro p q a first second es ips rest
  have hp : Dialer.ofText "socks5h://10.0.0.1:1080" .standard = .ok (.socks p .standard) := rfl
  have hq : Dialer.ofText "socks5://10.0.0.1:1080" .standard = .ok (.socks q .standard) := rfl
  have hnamed := run_resolution hp .any a 0 false (es (.ok [.v4 ⟨10, 0, 0, 2⟩]))
  have hsent := run_resolution hq .v4Only a 0 false (es (.ok ips) ++ rest)
  have hnone := run_resolution hq .v4Only a 0 false (es (.error "no such host"))
  have hended : (second.after (es (.ok ips) ++ rest)).phase =
      .ended (.ok ⟨.v4 ⟨10, 0, 0, 1⟩, 1080⟩) 7 := by decide
  exact ⟨hp, hq, (hnamed.2.2.2.1 rfl).2.2 (by decide) _ rfl, by decide, by decide, hended,
    hsent.2.2.1 _ _ hended, by decide,
    ((hnone.2.2.2.2 rfl).2.2 [(1, .met (.ok ()))] 2 _ [(3, .answered (.write (.ready 3)))]
      ⟨.v4 ⟨10, 0, 0, 1⟩, 1080⟩ _ rfl (by decide) rfl).2⟩

end SocketDial

end TunnelDial
