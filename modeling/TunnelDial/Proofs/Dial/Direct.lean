import TunnelDial.Dial.Surroundings
import TunnelDial.Proofs.Dial.Socket

/-! Direct dials in their surroundings. The addresses of the host that suit are tried one by one, in
the order in which the resolver names them, up to the first one that takes the connection; the time
of the dial is for all of this together. -/
namespace TunnelDial

namespace Surroundings

variable {s : Surroundings} {x : SocketDial} {o : DirectOptions} {n : Network} {a : Address}
  {began now first k t delay : Nat}

theorem course_answered {e : SocketEvent} (ha : s.answer? x = some (delay, e))
    (hle : now + delay ≤ x.deadline) :
    s.course (k + 1) now x = s.course k (now + delay) (x.step (now + delay) e) := by
  rw [course, ha]
  exact if_pos hle

theorem course_late (hlate : ∀ delay e, s.answer? x = some (delay, e) → x.deadline < now + delay) :
    s.course (k + 1) now x = x.step x.deadline .expired := by
  rw [course]
  cases ha : s.answer? x with
  | none => rfl
  | some r => exact if_neg (Nat.not_le.mpr (hlate r.1 r.2 ha))

theorem course_ended {r : Except Failure Socket} (hx : x.phase = .ended r t) :
    s.course k now x = x := by
  cases k with
  | zero => rfl
  | succ k =>
    have ha : s.answer? x = none := by rw [answer?, hx]
    rw [course_late fun delay e h => absurd (ha.symm.trans h) (by simp)]
    exact SocketDial.step_ended ⟨r, t, hx⟩ _ _

end Surroundings

namespace SocketDial

/-- The dial as it tries an address, after others and before those left. -/
def atAttempt (x : SocketDial) (done : List Ip) (ip : Ip) (left : List Ip) : SocketDial :=
  { x with phase := .trying ip left, tried := (done ++ [ip]).map fun ip => ⟨ip, x.hop.port⟩ }

/-- After a failure the next address is tried. -/
theorem step_atAttempt_error (x : SocketDial) (done : List Ip) (ip next : Ip) (left : List Ip)
    (now : Nat) (f : SocketAct × String) :
    (x.atAttempt done ip (next :: left)).step now (.met (.error f)) =
      x.atAttempt (done ++ [ip]) next left := by
  show attempt next left (x.atAttempt done ip (next :: left)) = _
  simp only [attempt, atAttempt, hop, List.map_append, List.map_cons, List.map_nil]

end SocketDial

namespace Surroundings

variable {s : Surroundings} {x : SocketDial} {o : DirectOptions} {n : Network} {a : Address}
  {began now first k t delay : Nat}

theorem answer?_atAttempt (x : SocketDial) (done : List Ip) (ip : Ip) (left : List Ip) :
    s.answer? (x.atAttempt done ip left) =
      (s.attempts done.length).map fun r => (r.1, .met r.2) := by
  simp [answer?, SocketDial.atAttempt]

/-- Attempts that fail in time lead on to the next one. -/
theorem FailsUntil.course {ip ip' : Ip} {done left left' : List Ip} (hk : s.FailsUntil first k t)
    (ht : t ≤ x.deadline) (hdone : done.length = k) (hall : ip' :: left' = done ++ ip :: left)
    (m : Nat) :
    s.course (m + k) first (x.atAttempt [] ip' left') =
      s.course m t (x.atAttempt done ip left) := by
  induction hk generalizing done ip left m with
  | none =>
    obtain rfl := List.eq_nil_of_length_eq_zero hdone
    cases hall
    rfl
  | @one k t delay f _ hf ih =>
    rcases List.eq_nil_or_concat done with rfl | ⟨before, last, rfl⟩
    · cases hdone
    rw [List.concat_eq_append] at hdone hall ⊢
    have hbefore : before.length = k := by simpa using hdone
    have hlast : ip' :: left' = before ++ last :: (ip :: left) := by simpa using hall
    have hanswer := answer?_atAttempt (s := s) x before last (ip :: left)
    rw [hbefore, hf] at hanswer
    calc s.course (m + (k + 1)) first (x.atAttempt [] ip' left')
        = s.course (m + 1 + k) first (x.atAttempt [] ip' left') := by
          rw [Nat.add_assoc, Nat.add_comm 1 k]
      _ = s.course (m + 1) t (x.atAttempt before last (ip :: left)) :=
          ih (Nat.le_of_add_right_le ht) hbefore hlast (m + 1)
      _ = s.course m (t + delay) (x.atAttempt (before ++ [last]) ip left) := by
          rw [course_answered hanswer ht, SocketDial.step_atAttempt_error]

/-- A dial that tries an address ends with the answer, or its time is over. -/
theorem course_connected {ip : Ip} {done left : List Ip} (hx : x.via = none)
    (hk : s.attempts done.length = some (delay, .ok ())) (ht : t + delay ≤ x.deadline) (m : Nat) :
    s.course (m + 1) t (x.atAttempt done ip left) =
      (x.atAttempt done ip left).finish (t + delay) (.ok ⟨ip, x.hop.port⟩) := by
  have hanswer := answer?_atAttempt (s := s) x done ip left
  rw [hk] at hanswer
  have hstep : (x.atAttempt done ip left).step (t + delay) (.met (.ok ())) =
      (x.atAttempt done ip left).finish (t + delay) (.ok ⟨ip, x.hop.port⟩) := by
    show (x.atAttempt done ip left).connected (t + delay) ⟨ip, x.hop.port⟩ = _
    unfold SocketDial.connected
    rw [show (x.atAttempt done ip left).via = none from hx]
  rw [course_answered hanswer ht, hstep]
  exact course_ended rfl

theorem course_refused {ip : Ip} {done : List Ip} {act : SocketAct} {text : String}
    (hk : s.attempts done.length = some (delay, .error (act, text))) (ht : t + delay ≤ x.deadline)
    (m : Nat) :
    s.course (m + 1) t (x.atAttempt done ip []) =
      (x.atAttempt done ip []).finish (t + delay) (.error (act.failure text)) := by
  have hanswer := answer?_atAttempt (s := s) x done ip []
  rw [hk] at hanswer
  rw [course_answered hanswer ht]
  exact course_ended rfl

theorem course_overdue {ip : Ip} {done left : List Ip}
    (hk : ∀ delay r, s.attempts done.length = some (delay, r) → x.deadline < t + delay) (m : Nat) :
    s.course (m + 1) t (x.atAttempt done ip left) =
      (x.atAttempt done ip left).finish x.deadline (.error (DirectOptions.timedOut x.hop)) := by
  rw [course_late]
  · show ite .. = _
    exact if_pos (Nat.le_refl x.deadline)
  · intro delay e he
    rw [answer?_atAttempt, Option.map_eq_some_iff] at he
    obtain ⟨r, hr, he⟩ := he
    cases he
    exact hk r.1 r.2 hr

end Surroundings

/-- A direct dial before its first attempt. -/
def SocketDial.seeking (o : DirectOptions) (n : Network) (a : Address) (began : Nat) : SocketDial :=
  let asked := if a.ip?.isSome then [] else [a.host]
  ⟨o, none, n, a, began + o.timeout, .resolving, asked, [], none, []⟩

namespace Surroundings

variable {s : Surroundings} {o : DirectOptions} {n : Network} {a : Address} {began k t u : Nat}

open SocketDial (seeking)

theorem start_of_ip {ip : Ip} (hip : a.ip? = some ip) :
    SocketDial.start o none n a began false =
      (seeking o n a began).approach began (o.suitable n a [ip]) := by
  simp [SocketDial.start, SocketDial.hop, seeking, hip]

theorem start_of_name (hip : a.ip? = none) :
    SocketDial.start o none n a began false = seeking o n a began := by
  simp [SocketDial.start, SocketDial.hop, seeking, hip]

/-- Once the addresses are known, there are answers left for each of them. -/
theorem direct_of_located (n : Network) {r : Except String (List Ip)}
    (hr : s.located a began = some (t, r)) (ht : t ≤ began + o.timeout) :
    ∃ m, (∀ ips, r = .ok ips → ips.length < m) ∧
      s.direct o n a began = s.course m t ((seeking o n a began).approach t (o.located n a r)) := by
  unfold located at hr
  cases hip : a.ip? with
  | some ip =>
    rw [hip] at hr
    cases hr
    refine ⟨s.answers, ?_, ?_⟩
    · rintro ips ⟨⟩
      unfold answers
      split <;> simp
    · unfold direct
      rw [start_of_ip hip]
      rfl
  | none =>
    rw [hip, Option.map_eq_some_iff] at hr
    obtain ⟨⟨delay, r⟩, hl, hr⟩ := hr
    obtain ⟨rfl, rfl⟩ := Prod.mk.inj hr
    have hanswer : s.answer? (seeking o n a began) = some (delay, .resolved r) := by
      show s.lookup.map _ = _
      rw [hl]
      rfl
    have hcourse (m : Nat) : s.course (m + 1) began (seeking o n a began) =
        s.course m (began + delay)
          ((seeking o n a began).approach (began + delay) (o.located n a r)) :=
      course_answered hanswer ht
    unfold direct answers
    rw [start_of_name hip, hl]
    cases r with
    | error e => exact ⟨1, by simp, hcourse 1⟩
    | ok ips => exact ⟨ips.length + 1, by simp, hcourse _⟩

/-- Without the addresses in time no attempt is made. -/
theorem direct_of_late (hr : ∀ t r, s.located a began = some (t, r) → began + o.timeout < t) :
    s.direct o n a began = (seeking o n a began).finish (began + o.timeout)
      (.error (DirectOptions.timedOut a)) := by
  cases hip : a.ip? with
  | some ip =>
    have hlt := hr began (.ok [ip]) (by rw [located, hip])
    exact absurd hlt (Nat.not_lt.mpr (Nat.le_add_right _ _))
  | none =>
    have hanswers : s.answers = s.answers - 1 + 1 := by
      unfold answers
      split <;> rfl
    unfold direct
    rw [start_of_name hip, hanswers, course_late]
    · show ite .. = _
      exact if_pos (Nat.le_refl (began + o.timeout))
    · intro delay e he
      obtain ⟨r, hl, he⟩ := Option.map_eq_some_iff.mp he
      cases he
      exact hr _ r.2 (by rw [located, hip, hl]; rfl)

/-- What a dial tries as it comes to its next attempt. -/
theorem direct_at_attempt {ips : List Ip} {peer : Socket}
    (hr : s.located a began = some (t, .ok ips)) (ht : t ≤ began + o.timeout)
    (hpeer : (o.candidates n a ips)[k]? = some peer) (hk : s.FailsUntil t k u)
    (hu : u ≤ began + o.timeout) : ∃ m done ip left, peer = ⟨ip, a.port⟩ ∧ done.length = k ∧
      o.candidates n a ips = (done ++ ip :: left).map (⟨·, a.port⟩) ∧
      s.direct o n a began = s.course (m + 1) u ((seeking o n a began).atAttempt done ip left) := by
  obtain ⟨m, hm, hdirect⟩ := direct_of_located n hr ht
  specialize hm ips rfl
  unfold DirectOptions.candidates at hpeer ⊢
  generalize hS : (ips.filter fun ip => n.allows ip && o.fits ip) = S at hpeer ⊢
  rw [List.getElem?_map, Option.map_eq_some_iff] at hpeer
  obtain ⟨ip, hip, rfl⟩ := hpeer
  obtain ⟨hlt, rfl⟩ := List.getElem?_eq_some_iff.mp hip
  have hsplit : S = S.take k ++ S[k] :: S.drop (k + 1) := by simp
  have hdone : (S.take k).length = k := List.length_take_of_le (Nat.le_of_lt hlt)
  have hle : S.length ≤ ips.length := hS ▸ List.length_filter_le _ _
  obtain ⟨m, rfl⟩ : ∃ i, m = i + 1 + k := ⟨m - k - 1, by omega⟩
  refine ⟨m, S.take k, S[k], S.drop (k + 1), rfl, hdone, by rw [← hsplit], ?_⟩
  obtain ⟨ip', left', hS'⟩ := List.exists_cons_of_length_pos (Nat.zero_lt_of_lt hlt)
  have hbegin : (seeking o n a began).approach t (o.located n a (.ok ips)) =
      (seeking o n a began).atAttempt [] ip' left' := by
    have hsuitable : o.suitable n a ips = .ok (ip', left') := by
      unfold DirectOptions.suitable
      rw [hS, hS']
    rw [DirectOptions.located, hsuitable]
    rfl
  rw [hdirect, hbegin]
  exact hk.course (x := seeking o n a began) hu hdone (hS'.symm.trans hsplit) _

theorem direct_unresolved (n : Network) {e : String} (hr : s.located a began = some (t, .error e))
    (ht : t ≤ began + o.timeout) : s.direct o n a began =
      (seeking o n a began).finish t (.error (DirectOptions.unresolved a.host e)) := by
  obtain ⟨m, -, hdirect⟩ := direct_of_located n hr ht
  rw [hdirect]
  exact course_ended rfl

theorem direct_unsuitable {ips : List Ip} (hr : s.located a began = some (t, .ok ips))
    (ht : t ≤ began + o.timeout) (hnone : o.candidates n a ips = []) : s.direct o n a began =
      (seeking o n a began).finish t (.error (DirectOptions.unsuitable n a)) := by
  obtain ⟨m, -, hdirect⟩ := direct_of_located n hr ht
  have hsuitable : o.suitable n a ips = .error (DirectOptions.unsuitable n a) := by
    unfold DirectOptions.suitable
    rw [List.map_eq_nil_iff.mp hnone]
  rw [hdirect, DirectOptions.located, hsuitable]
  exact course_ended rfl

/-- An attempt takes the connection in time, or it fails in time, or it is not over in time. -/
theorem attempt_cases (s : Surroundings) (k t d : Nat) :
    (∃ delay, s.attempts k = some (delay, .ok ()) ∧ t + delay ≤ d) ∨
      (∃ delay f, s.attempts k = some (delay, .error f) ∧ t + delay ≤ d) ∨
      ∀ delay r, s.attempts k = some (delay, r) → d < t + delay := by
  cases hk : s.attempts k with
  | none => exact .inr (.inr fun _ _ h => nomatch h)
  | some x =>
    by_cases hle : t + x.1 ≤ d
    · match x with
      | (delay, .ok _) => exact .inl ⟨delay, rfl, hle⟩
      | (delay, .error f) => exact .inr (.inl ⟨delay, f, rfl, hle⟩)
    · refine .inr (.inr ?_)
      rintro delay r ⟨⟩
      exact Nat.lt_of_not_le hle

/-- Attempts that fail in time come to one that does not, or to the last one. -/
theorem FailsUntil.exists_last {first d : Nat} (hk : s.FailsUntil first k t) (ht : t ≤ d)
    (j : Nat) : ∃ i u, i ≤ k + j ∧ s.FailsUntil first i u ∧ u ≤ d ∧
      ((∃ delay f, s.attempts i = some (delay, .error f) ∧ u + delay ≤ d) → i = k + j) := by
  induction j generalizing k t with
  | zero => exact ⟨k, t, Nat.le_refl k, hk, ht, fun _ => rfl⟩
  | succ j ih =>
    by_cases hfail : ∃ delay f, s.attempts k = some (delay, .error f) ∧ t + delay ≤ d
    · obtain ⟨delay, f, hf, hle⟩ := hfail
      have := ih (hk.one hf) hle
      rwa [Nat.add_right_comm, Nat.add_assoc] at this
    · exact ⟨k, t, Nat.le_add_right k _, hk, ht, fun h => absurd h hfail⟩

/-- However a direct dial goes, it ends in time, and it has tried the first of the addresses. -/
theorem direct_cases (s : Surroundings) (o : DirectOptions) (n : Network) (a : Address)
    (began : Nat) : ∃ v r, v ≤ began + o.timeout ∧
      (s.direct o n a began = (seeking o n a began).finish v r ∨
        ∃ t ips done ip left, s.located a began = some (t, .ok ips) ∧
          o.candidates n a ips = (done ++ ip :: left).map (⟨·, a.port⟩) ∧
          s.direct o n a began = ((seeking o n a began).atAttempt done ip left).finish v r) := by
  by_cases hlate : ∀ t r, s.located a began = some (t, r) → began + o.timeout < t
  · exact ⟨_, _, Nat.le_refl _, .inl (direct_of_late hlate)⟩
  obtain ⟨t, r, hr, ht⟩ : ∃ t r, s.located a began = some (t, r) ∧ t ≤ began + o.timeout := by
    simpa using hlate
  cases r with
  | error e => exact ⟨t, _, ht, .inl (direct_unresolved n hr ht)⟩
  | ok ips =>
    rcases hS : o.candidates n a ips with _ | ⟨peer, others⟩
    · exact ⟨t, _, ht, .inl (direct_unsuitable hr ht hS)⟩
    obtain ⟨k, u, hk, hfails, hu, hlast⟩ := (FailsUntil.none (s := s)).exists_last ht others.length
    rw [Nat.zero_add] at hk hlast
    have hlt : k < (o.candidates n a ips).length := by
      rw [hS]
      exact Nat.lt_succ_of_le hk
    obtain ⟨m, done, ip, left, -, rfl, hsplit, hdirect⟩ :=
      direct_at_attempt hr ht (List.getElem?_eq_getElem hlt) hfails hu
    rcases s.attempt_cases done.length u (began + o.timeout) with
      ⟨delay, hok, hle⟩ | ⟨delay, ⟨act, text⟩, herror, hle⟩ | hnever
    · have hend := hdirect.trans (course_connected (x := seeking o n a began) rfl hok hle m)
      exact ⟨_, _, hle, .inr ⟨t, ips, done, ip, left, hr, hsplit, hend⟩⟩
    · have hleft : left = [] := by
        have hlength := congrArg List.length (hS.symm.trans hsplit)
        rw [List.length_cons, ← hlast ⟨delay, _, herror, hle⟩] at hlength
        simpa using hlength
      subst hleft
      have hend := hdirect.trans (course_refused (x := seeking o n a began) herror hle m)
      exact ⟨_, _, hle, .inr ⟨t, ips, done, ip, [], hr, hsplit, hend⟩⟩
    · have hend := hdirect.trans (course_overdue (x := seeking o n a began) hnever m)
      exact ⟨_, _, Nat.le_refl _, .inr ⟨t, ips, done, ip, left, hr, hsplit, hend⟩⟩

/-- A host that is an address is not looked up. -/
theorem direct_of_ip {ip : Ip} (hip : a.ip? = some ip)
    (lookup : Option (Nat × Except String (List Ip))) :
    { s with lookup := lookup }.direct o n a began = s.direct o n a began := by
  have hlocated (s : Surroundings) : s.located a began = some (began, .ok [ip]) := by
    rw [located, hip]
  have hle : began ≤ began + o.timeout := Nat.le_add_right _ _
  by_cases hfits : n.allows ip && o.fits ip
  · have hS : o.candidates n a [ip] = [⟨ip, a.port⟩] := by
      simp [DirectOptions.candidates, hfits]
    have hpeer : (o.candidates n a [ip])[0]? = some ⟨ip, a.port⟩ := by
      rw [hS]
      rfl
    -- the only attempt begins at once, whatever the resolver would answer
    have hattempt (s : Surroundings) : ∃ m, s.direct o n a began =
        s.course (m + 1) began ((seeking o n a began).atAttempt [] ip []) := by
      obtain ⟨m, done, ip', left, hip', hdone, hsplit, hdirect⟩ :=
        direct_at_attempt (hlocated s) hle hpeer .none hle
      obtain rfl := List.eq_nil_of_length_eq_zero hdone
      cases hip'
      rw [hS] at hsplit
      obtain rfl : left = [] := by simpa using hsplit
      exact ⟨m, hdirect⟩
    obtain ⟨m, hm⟩ := hattempt s
    obtain ⟨m', hm'⟩ := hattempt { s with lookup := lookup }
    rw [hm, hm']
    rcases s.attempt_cases 0 began (began + o.timeout) with
      ⟨delay, hok, hd⟩ | ⟨delay, ⟨act, text⟩, herror, hd⟩ | hnever
    · rw [course_connected rfl hok hd, course_connected rfl (by exact hok) hd]
    · rw [course_refused herror hd, course_refused (by exact herror) hd]
    · rw [course_overdue hnever, course_overdue (by exact hnever)]
  · have hS : o.candidates n a [ip] = [] := by
      simp [DirectOptions.candidates, hfits]
    rw [direct_unsuitable (hlocated _) hle hS, direct_unsuitable (hlocated _) hle hS]

/-- Direct dials try the right addresses in their order. A host that is an address is not resolved.
The dial ends by its deadline: when the addresses are not known by then, for want of one that suits,
or as its attempts go. Those are made in the order of the addresses, up to the first one that takes
the connection. The last one that fails gives its failure, and the one under way at the deadline is
the last one. -/
theorem direct_candidates (s : Surroundings) (o : DirectOptions) (n : Network) (a : Address)
    (began : Nat) :
    let x := s.direct o n a began
    let deadline := began + o.timeout
    let late := SocketPhase.ended (.error (DirectOptions.timedOut a)) deadline
    x.asked = (if a.ip?.isSome then [] else [a.host]) ∧
    (a.ip?.isSome → ∀ lookup, { s with lookup := lookup }.direct o n a began = x) ∧
    (∃ r t, x.phase = .ended r t ∧ t ≤ deadline) ∧
    ((∀ t r, s.located a began = some (t, r) → deadline < t) → x.phase = late ∧ x.tried = []) ∧
    (∀ t e, s.located a began = some (t, .error e) → t ≤ deadline →
      x.phase = .ended (.error (DirectOptions.unresolved a.host e)) t ∧ x.tried = []) ∧
    ∀ t ips, s.located a began = some (t, .ok ips) → t ≤ deadline →
      let suitable := o.candidates n a ips
      x.tried <+: suitable ∧
      (suitable = [] → x.phase = .ended (.error (DirectOptions.unsuitable n a)) t) ∧
      ∀ k u peer, suitable[k]? = some peer → s.FailsUntil t k u → u ≤ deadline →
        (∀ delay, s.attempts k = some (delay, .ok ()) → u + delay ≤ deadline →
          x.phase = .ended (.ok peer) (u + delay) ∧ x.tried = suitable.take (k + 1)) ∧
        (∀ delay act text, s.attempts k = some (delay, .error (act, text)) →
          u + delay ≤ deadline → k + 1 = suitable.length →
          x.phase = .ended (.error (act.failure text)) (u + delay) ∧ x.tried = suitable) ∧
        ((∀ delay r, s.attempts k = some (delay, r) → deadline < u + delay) →
          x.phase = late ∧ x.tried = suitable.take (k + 1)) := by
  intro x deadline late
  obtain ⟨v, r, hv, hx⟩ := direct_cases s o n a began
  refine ⟨?_, ?_, ?_, ?_, ?_, ?_⟩
  · rcases hx with hx | ⟨_, _, _, _, _, -, -, hx⟩ <;> exact congrArg SocketDial.asked hx
  · intro hip lookup
    obtain ⟨ip, hip⟩ := Option.isSome_iff_exists.mp hip
    exact direct_of_ip hip lookup
  · refine ⟨r, v, ?_, hv⟩
    rcases hx with hx | ⟨_, _, _, _, _, -, -, hx⟩ <;> exact congrArg SocketDial.phase hx
  · intro hlate
    have hlate := direct_of_late (n := n) hlate
    exact ⟨congrArg SocketDial.phase hlate, congrArg SocketDial.tried hlate⟩
  · intro t e hr ht
    have he := direct_unresolved n hr ht
    exact ⟨congrArg SocketDial.phase he, congrArg SocketDial.tried he⟩
  intro t ips hr ht suitable
  refine ⟨?_, ?_, ?_⟩
  · rcases hx with hx | ⟨t', ips', done, ip, left, hr', hsplit, hx⟩
    · rw [show x.tried = [] from congrArg SocketDial.tried hx]
      exact List.nil_prefix
    · cases hr.symm.trans hr'
      rw [show x.tried = _ from congrArg SocketDial.tried hx, show suitable = _ from hsplit]
      exact ⟨left.map (⟨·, a.port⟩), by simp [SocketDial.finish, SocketDial.atAttempt]; rfl⟩
  · intro hnone
    exact congrArg SocketDial.phase (direct_unsuitable hr ht hnone)
  · intro k u peer hpeer hk hu
    obtain ⟨m, done, ip, left, rfl, rfl, hsplit, hdirect⟩ := direct_at_attempt hr ht hpeer hk hu
    have htake : suitable.take (done.length + 1) = (done ++ [ip]).map (⟨·, a.port⟩) := by
      rw [show suitable = _ from hsplit, ← List.map_take, List.append_cons, ← List.length_concat]
      rw [List.concat_eq_append, List.take_left]
    refine ⟨?_, ?_, ?_⟩
    · intro delay hok hle
      have hend := hdirect.trans (course_connected (x := seeking o n a began) rfl hok hle m)
      exact ⟨congrArg SocketDial.phase hend, (congrArg SocketDial.tried hend).trans htake.symm⟩
    · intro delay act text herror hle hlength
      have hleft : left = [] := by
        rw [show suitable = _ from hsplit] at hlength
        simpa using hlength
      subst hleft
      have hend := hdirect.trans (course_refused (x := seeking o n a began) herror hle m)
      exact ⟨congrArg SocketDial.phase hend, (congrArg SocketDial.tried hend).trans hsplit.symm⟩
    · intro hnever
      have hend := hdirect.trans (course_overdue (x := seeking o n a began) hnever m)
      exact ⟨congrArg SocketDial.phase hend, (congrArg SocketDial.tried hend).trans htake.symm⟩

/-- The network takes no IPv6 address, one of the others refuses, and the next one connects. -/
def refusedOnce : Surroundings where
  lookup := some (10, .ok [.v6 ⟨.replicate 8 1, rfl⟩, .v4 ⟨10, 0, 0, 1⟩, .v4 ⟨10, 0, 0, 2⟩])
  attempts k := if k = 0 then some (30, .error (.create, "no")) else some (5, .ok ())

theorem direct_candidates_refused :
    let x := refusedOnce.direct .standard .v4Only ⟨"a.org", 443⟩ 0
    refusedOnce.FailsUntil 10 1 40 ∧
    x.phase = .ended (.ok ⟨.v4 ⟨10, 0, 0, 2⟩, 443⟩) 45 ∧
    x.tried = [⟨.v4 ⟨10, 0, 0, 1⟩, 443⟩, ⟨.v4 ⟨10, 0, 0, 2⟩, 443⟩] ∧ x.asked = ["a.org"] := by
  intro x
  have hfails : refusedOnce.FailsUntil 10 (0 + 1) (10 + 30) := .one .none rfl
  obtain ⟨hasked, -, -, -, -, hattempts⟩ :=
    direct_candidates refusedOnce .standard .v4Only ⟨"a.org", 443⟩ 0
  obtain ⟨-, -, hattempt⟩ := hattempts 10 _ rfl (by decide)
  obtain ⟨hphase, htried⟩ := (hattempt 1 40 _ rfl hfails (by decide)).1 5 rfl (by decide)
  exact ⟨hfails, hphase, htried, hasked⟩

end Surroundings

end TunnelDial
