import TunnelDial.Proofs.Dial.Fares

/-! Dials that find nothing kept share one negotiation. As long as the proxy speaks HTTP/2 and
grants what it is asked, and nobody gives up, one dial establishes a connection and builds a
transport on it, and all others get their streams there, in whichever order they come and go on. -/
namespace TunnelDial
namespace Custody

variable {c : Custody} {e : CustodyEvent}

/-- What holds in every run. -/
structure Lawful (c : Custody) : Prop where
  accounted : c.Accounted
  owning : c.Owning
  guarded : c.hub.Guarded
  spent : ∀ g, c.hub.pool.slot = some g → c.Spent g

theorem lawful_run (timeout : Nat) (reuse : Bool) (es : List CustodyEvent) :
    (run timeout reuse es).Lawful where
  accounted := accounted_run timeout reuse es
  owning := owning_run timeout reuse es
  guarded := guarded_run timeout reuse es
  spent _ := spent_of_slot timeout reuse es

theorem Lawful.first (hl : c.Lawful) (hs : c.hub.Sharing) {g : Nat}
    (hg : c.hub.pool.slot = some g) : g = 0 := by
  obtain ⟨d, x, hx, hown, _⟩ := hl.spent g hg
  exact ((hs.fares d x hx).of_own hown).1

theorem Lawful.steady (hl : c.Lawful) (hs : c.hub.Sharing) {accepts : Nat → Bool}
    (hacc : ∀ t, accepts t = true) : c.hub.Steady accepts where
  reuse := hs.reuse
  known := hs.known
  first _ := hl.first hs
  usable g hg := by
    have hopen := hl.accounted.tidy.not_closed (hl.accounted.pos_of_slot hg)
    rw [ledger] at hopen
    simp [Pool.usable, hopen, hacc]
  fresh d x gated hx hp := by
    -- a transport that was there would have its dial past the gate too, or be kept
    by_contra hne
    obtain ⟨i, y, hy, hown⟩ := hl.owning.covered 0 (Nat.pos_of_ne_zero hne)
    have hxf := hs.fares d x hx
    have hslot : c.hub.pool.slot = none ∧ x.phase.gated = true := by
      cases hxf <;> simp_all [Phase.gated]
    rcases ((hs.fares i y hy).of_own hown).2.2.2 with ⟨hyg, hnot⟩ | hkept
    · obtain rfl := hl.guarded.unique hx hy hslot.2 hyg
      cases hx.symm.trans hy
      exact hnot gated hp
    · rw [hslot.1] at hkept
      cases hkept

theorem Lawful.sharing_step (hl : c.Lawful) (hs : c.hub.Sharing) (he : e.Smooth) :
    (c.step e).hub.Sharing := by
  rcases hub_step c e with ⟨now, accepts, e', rfl, hh⟩ | ⟨_, hh, _⟩
  · rw [hh]
    exact hs.step hl.guarded (hl.steady hs he.1) he.2 now
  · rw [hh]
    exact ⟨hs.reuse, hs.known, hs.fares⟩

theorem sharing_run (timeout : Nat) {es : List CustodyEvent} (hes : ∀ e ∈ es, e.Smooth) :
    (run timeout true es).hub.Sharing := by
  induction es using List.reverseRecOn with
  | nil => exact Hub.sharing_start timeout
  | append_singleton es e ih =>
    rw [run_concat]
    have hs := ih fun e' he' => hes e' (List.mem_append_left _ he')
    exact (lawful_run timeout true es).sharing_step hs (hes e (by simp))

/-- What is done with a dial when nothing fails leaves less to do, or changes nothing. -/
theorem Lawful.work_step (hl : c.Lawful) (hs : c.hub.Sharing) (he : e.Smooth)
    (hd : e.dial?.isSome = true) : c.step e = c ∨ (c.step e).hub.work < c.hub.work := by
  cases e with
  | dial now accepts e =>
    rcases hs.work_step (hl.steady hs he.1) he.2 hd now with ⟨hsame, hhanded⟩ | hlt
    · exact .inl (by simp [step, hsame, hhanded])
    · exact .inr hlt
  | close | closeTransport | clone | giveBack => cases hd

/-- Some dial that has not ended can go on. -/
theorem Lawful.progress (hl : c.Lawful) (hs : c.hub.Sharing) {d : Nat} {x : Dial}
    (hx : c.hub.dials[d]? = some x) (hnot : ∀ o, x.phase ≠ .ended o) :
    ∃ e : CustodyEvent, e.Smooth ∧ e.dial?.isSome = true ∧ (c.step e).hub.work < c.hub.work := by
  have ready {i : Nat} {y : Dial} (hy : c.hub.dials[i]? = some y)
      (hnot : ∀ o, y.phase ≠ .ended o) (hq : y.phase = .queued → c.hub.gate.holder = some i) :
      ∃ e : CustodyEvent, e.Smooth ∧ e.dial?.isSome = true ∧
        (c.step e).hub.work < c.hub.work := by
    have hsmooth := y.phase.next_smooth i
    have hdial : (y.phase.next i).dial?.isSome = true := by simp
    refine ⟨.dial 0 (fun _ => true) (y.phase.next i), ⟨fun _ => rfl, hsmooth⟩, hdial, ?_⟩
    rcases hs.work_step (hl.steady hs fun _ => rfl) hsmooth hdial 0 with ⟨hsame, _⟩ | hlt
    · have hne := Hub.step_next_ne 0 (fun _ => true) hy (hs.fares i y hy) hq hnot
      rw [hsame] at hne
      exact absurd (Hub.phase?_eq_some.mpr ⟨y, hy, rfl⟩) hne
    · exact hlt
  by_cases hq : x.phase = .queued
  · -- the dial at the head of the line can go on
    obtain ⟨i, y, hi, hy, hst⟩ := hl.guarded.holder_of_queued hx (by rw [hq]; rfl)
    refine ready hy (fun o ho => ?_) fun _ => hi
    rw [ho] at hst
    cases hst
  · exact ready hx hnot fun h => absurd h hq

theorem sum_le_one {f : Dial → Nat} {xs : List Dial} (hle : ∀ x ∈ xs, f x ≤ 1)
    (huniq : ∀ (i j : Nat) (x y : Dial), xs[i]? = some x → xs[j]? = some y → f x = 1 →
      f y = 1 → i = j) : (xs.map f).sum ≤ 1 := by
  induction xs with
  | nil => simp
  | cons x xs ih =>
    rw [List.map_cons, List.sum_cons]
    by_cases hx : f x = 1
    · have hzero : (xs.map f).sum = 0 := by
        rw [List.sum_eq_zero_iff_forall_eq_nat]
        intro n hn
        obtain ⟨y, hy, rfl⟩ := List.mem_map.mp hn
        obtain ⟨j, hj⟩ := List.mem_iff_getElem?.mp hy
        have hyle := hle y (List.mem_cons_of_mem _ hy)
        by_contra hne
        have := huniq 0 (j + 1) x y rfl (by simpa using hj) hx (by omega)
        omega
      omega
    · have hxle := hle x (List.mem_cons_self ..)
      have hrest : (xs.map f).sum ≤ 1 := by
        apply ih
        · intro y hy
          exact hle y (List.mem_cons_of_mem _ hy)
        · intro i j y z hy hz hfy hfz
          have := huniq (i + 1) (j + 1) y z (by simpa using hy) (by simpa using hz) hfy hfz
          omega
      omega

/-- Two dials do not both establish a connection. -/
theorem Lawful.established_unique (hl : c.Lawful) (hs : c.hub.Sharing) {i j : Nat} {x y : Dial}
    (hx : c.hub.dials[i]? = some x) (hy : c.hub.dials[j]? = some y) (hxe : x.established = 1)
    (hye : y.established = 1) : i = j := by
  have busy {z : Dial} (hf : z.Fares c.hub.pool.slot) (hz : z.established = 1) :
      z.phase.gated = true ∧ c.hub.pool.slot = none ∨
        z.own = some 0 ∧ c.hub.pool.slot = some 0 := by
    cases hf <;> simp_all [Dial.tally, Phase.gated]
  rcases busy (hs.fares i x hx) hxe with ⟨hxg, hn⟩ | ⟨hxo, hsome⟩ <;>
    rcases busy (hs.fares j y hy) hye with ⟨hyg, hn'⟩ | ⟨hyo, hsome'⟩
  · exact hl.guarded.unique hx hy hxg hyg
  · rw [hn] at hsome'
    cases hsome'
  · rw [hn'] at hsome
    cases hsome
  · exact hl.owning.own_unique i j x y 0 hx hy hxo hyo

/-- At most one dial establishes a connection and builds a transport. -/
theorem Lawful.sums_le_one (hl : c.Lawful) (hs : c.hub.Sharing) :
    (c.hub.dials.map (·.established)).sum ≤ 1 ∧ (c.hub.dials.map (·.connects)).sum ≤ 1 := by
  have htally (x : Dial) (hx : x ∈ c.hub.dials) :
      x.established ≤ 1 ∧ x.connects ≤ x.established := by
    obtain ⟨i, hi⟩ := List.mem_iff_getElem?.mp hx
    have hf := hs.fares i x hi
    cases hf <;> simp_all [Dial.tally] <;> grind
  constructor
  · apply sum_le_one
    · intro x hx
      exact (htally x hx).1
    · intro i j x y hx hy
      exact hl.established_unique hs hx hy
  · apply sum_le_one
    · intro x hx
      have := htally x hx
      omega
    · intro i j x y hx hy hxc hyc
      have h1 := htally x (List.mem_of_getElem? hx)
      have h2 := htally y (List.mem_of_getElem? hy)
      exact hl.established_unique hs hx hy (by omega) (by omega)

theorem Lawful.length_groups (hl : c.Lawful) (hs : c.hub.Sharing) : c.ledger.groups.length ≤ 1 := by
  by_contra hlt
  obtain ⟨d, x, hx, hown⟩ := hl.owning.covered 1 (by omega)
  have := ((hs.fares d x hx).of_own hown).1
  omega

theorem Lawful.served_step (hs : c.hub.Sharing) (he : e.Smooth)
    (hserved : c.tunnels.length = (c.hub.dials.map fun x => x.phase.served).sum) :
    (c.step e).tunnels.length = ((c.step e).hub.dials.map fun x => x.phase.served).sum := by
  rcases hub_step c e with ⟨now, accepts, e', rfl, hh⟩ | ⟨_, hh, _, hlen⟩
  · rw [hh, step, List.length_append, hserved]
    rcases Hub.step_cases now accepts c.hub e' with
      ⟨hn, hhanded⟩ | ⟨cancelled, request, rfl, hn⟩ | ⟨rfl, _⟩ | ⟨d, x, x', s, _, hx, hm, hn⟩
    · rw [hn, hhanded]
      rfl
    · obtain rfl : cancelled = false := he.2
      rw [hn]
      simp [Hub.handed, Dial.start, Hub.entry, hs.reuse, Phase.served]
    · cases he.2
    · have hsum := hm.sum_eq hx fun y => y.phase.served
      have hx' := hm.served hx (hs.fares d x hx)
      rw [hn]
      omega
  · rw [hlen, hh, hserved]

theorem served_run (timeout : Nat) {es : List CustodyEvent} (hes : ∀ e ∈ es, e.Smooth) :
    (run timeout true es).tunnels.length =
      ((run timeout true es).hub.dials.map fun x => x.phase.served).sum := by
  induction es using List.reverseRecOn with
  | nil => rfl
  | append_singleton es e ih =>
    have hes' : ∀ e' ∈ es, e'.Smooth := fun e' he' => hes e' (List.mem_append_left _ he')
    rw [run_concat]
    exact Lawful.served_step (sharing_run timeout hes') (hes e (by simp)) (ih hes')

/-- When all dials have ended, all have their streams on the transport that one of them built. -/
theorem Lawful.all_ended (hl : c.Lawful) (hs : c.hub.Sharing) (hne : c.hub.dials ≠ [])
    (hall : ∀ x ∈ c.hub.dials, ∃ o, x.phase = .ended o) :
    (∃ x ∈ c.hub.dials, x.established = 1 ∧ x.connects = 1) ∧ c.hub.pool.slot = some 0 ∧
      ∀ x ∈ c.hub.dials, x.phase = .ended (.stream 0) ∧ x.asked = [0] := by
  have hend (x : Dial) (hx : x ∈ c.hub.dials) :
      c.hub.pool.slot = some 0 ∧ x.phase = .ended (.stream 0) ∧ x.asked = [0] := by
    obtain ⟨i, hi⟩ := List.mem_iff_getElem?.mp hx
    obtain ⟨o, ho⟩ := hall x hx
    cases hs.fares i x hi with
    | ended hp hslot ht =>
      refine ⟨hslot, hp, ?_⟩
      rcases ht with ht | ht <;> simp_all [Dial.tally]
    | _ => simp_all
  obtain ⟨x, hx⟩ := List.exists_mem_of_ne_nil _ hne
  have hslot := (hend x hx).1
  obtain ⟨d, y, hy, hown, _⟩ := hl.spent 0 hslot
  have hbuilt := (hs.fares d y hy).of_own hown
  exact ⟨⟨y, List.mem_of_getElem? hy, hbuilt.2.1, hbuilt.2.2.1⟩, hslot, fun z hz => (hend z hz).2⟩

theorem Lawful.lease_eq (hl : c.Lawful) (hs : c.hub.Sharing) {g : Nat}
    (hg : 0 < c.ledger.holders g) : g = 0 := by
  have h1 := Ledger.lt_of_holders_pos hg
  have h2 := hl.length_groups hs
  omega

/-- When no dial holds a lease, the slot, the open tunnels and the clones hold the transport. -/
theorem Lawful.holders_of_kept (hl : c.Lawful) (hs : c.hub.Sharing)
    (hslot : c.hub.pool.slot = some 0) (hheld : c.hub.held 0 = 0) :
    c.ledger.holders 0 =
      1 + c.tunnels.countP (fun t => t.mux.lease.isSome) + c.leases.length := by
  have htunnels : c.tunnels.countP (fun t => t.mux.lease == some 0) =
      c.tunnels.countP fun t => t.mux.lease.isSome := by
    apply List.countP_congr
    intro t ht
    cases hg : t.mux.lease with
    | none => simp
    | some g =>
      obtain rfl := hl.lease_eq hs (hl.accounted.pos_of_tunnel ht hg)
      simp
  have hleases : c.leases.count 0 = c.leases.length := by
    apply List.count_eq_length.mpr
    intro g hg
    exact (hl.lease_eq hs (hl.accounted.pos_of_lease hg)).symm
  rw [hl.accounted.holders_eq, holdersOf, hslot, hheld, htunnels, hleases]
  rfl

/-- However many dials come and in whichever order they go on, as long as nothing fails: at most one
connection is established and one transport built, every dial ends with a stream on the first
transport, what is done with a dial leaves less to do, and some dial that has not ended can go on.
When all have ended there was one connection, one transport and one request of each dial on it, and
it is held by the slot, by every tunnel that is open and by every clone. -/
theorem run_sharing (timeout : Nat) (es : List CustodyEvent) (hes : ∀ e ∈ es, e.Smooth) :
    let c := run timeout true es
    (c.hub.dials.map (·.established)).sum ≤ 1 ∧ (c.hub.dials.map (·.connects)).sum ≤ 1 ∧
    (∀ x ∈ c.hub.dials, ∀ o, x.phase = .ended o → o = .stream 0) ∧
    (∀ e : CustodyEvent, e.Smooth → e.dial?.isSome = true →
      c.step e = c ∨ (c.step e).hub.work < c.hub.work) ∧
    ((∃ x ∈ c.hub.dials, ∀ o, x.phase ≠ .ended o) →
      ∃ e : CustodyEvent, e.Smooth ∧ e.dial?.isSome = true ∧ (c.step e).hub.work < c.hub.work) ∧
    (c.hub.dials ≠ [] → (∀ x ∈ c.hub.dials, ∃ o, x.phase = .ended o) →
      (c.hub.dials.map (·.established)).sum = 1 ∧ (c.hub.dials.map (·.connects)).sum = 1 ∧
      c.ledger.groups.length = 1 ∧
      c.hub.dials.flatMap (·.asked) = List.replicate c.hub.dials.length 0 ∧
      c.tunnels.length = c.hub.dials.length ∧ (∀ t ∈ c.tunnels, ∀ g, t.mux.lease = some g → g = 0) ∧
      c.ledger.holders 0 =
        1 + c.tunnels.countP (fun t => t.mux.lease.isSome) + c.leases.length) := by
  intro c
  have hl : c.Lawful := lawful_run timeout true es
  have hs : c.hub.Sharing := sharing_run timeout hes
  obtain ⟨hestablished, hconnects⟩ := hl.sums_le_one hs
  refine ⟨hestablished, hconnects, ?_, ?_, ?_, ?_⟩
  · intro x hx o ho
    obtain ⟨i, hi⟩ := List.mem_iff_getElem?.mp hx
    cases hs.fares i x hi <;> simp_all
  · intro e he hd
    exact hl.work_step hs he hd
  · rintro ⟨x, hx, hnot⟩
    obtain ⟨i, hi⟩ := List.mem_iff_getElem?.mp hx
    exact hl.progress hs hi hnot
  · intro hne hall
    obtain ⟨⟨y, hy, hye, hyc⟩, hslot, hend⟩ := hl.all_ended hs hne hall
    have hheld : c.hub.held 0 = 0 := by
      apply List.sum_eq_zero_iff_forall_eq_nat.mpr
      intro n hn
      obtain ⟨x, hx, rfl⟩ := List.mem_map.mp hn
      rw [(hend x hx).1]
      rfl
    have hlen : 0 < c.ledger.groups.length :=
      Ledger.lt_of_holders_pos (hl.accounted.pos_of_slot hslot)
    have hle := hl.length_groups hs
    have hasked : c.hub.dials.map (·.asked) = List.replicate c.hub.dials.length [0] :=
      List.map_eq_replicate_iff.mpr fun x hx => (hend x hx).2
    have hserved : c.hub.dials.map (fun x => x.phase.served) =
        List.replicate c.hub.dials.length 1 := by
      apply List.map_eq_replicate_iff.mpr
      intro x hx
      rw [(hend x hx).1]
      rfl
    have h1 : y.established ≤ (c.hub.dials.map (·.established)).sum :=
      List.le_sum_of_mem (List.mem_map_of_mem hy)
    have h2 : y.connects ≤ (c.hub.dials.map (·.connects)).sum :=
      List.le_sum_of_mem (List.mem_map_of_mem hy)
    refine ⟨by omega, by omega, by omega, ?_, ?_, ?_, hl.holders_of_kept hs hslot hheld⟩
    · rw [List.flatMap_def, hasked]
      simp
    · have hrun : c.tunnels.length = (c.hub.dials.map fun x => x.phase.served).sum :=
        served_run timeout hes
      rw [hrun, hserved]
      simp
    · intro t ht g hg
      exact hl.lease_eq hs (hl.accounted.pos_of_tunnel ht hg)

/-- Two dials at once: the second waits at the gate until the transport of the first is kept. -/
def sharedRun : List CustodyEvent :=
  let on (e : DialEvent) : CustodyEvent := .dial 0 (fun _ => true) e
  let come := on (.arrive false ⟨"example.org:443", .empty⟩)
  [come, come, on (.turn 0), on (.turn 1), on (.turn 0), on (.turn 1), on (.turn 0), on (.turn 1),
    on (.turn 0), on (.turn 0), on (.established 0 (.ok ⟨5, "h2"⟩)), on (.connected 0 (.ok 3)),
    on (.answered 0 .granted), on (.turn 0), on (.turn 0), on (.turn 1), on (.turn 1),
    on (.answered 1 .granted), on (.turn 1), on (.turn 1)]

theorem run_sharing_two :
    (run 10 true sharedRun).ledger.holders 0 =
      1 + (run 10 true sharedRun).tunnels.countP (fun t => t.mux.lease.isSome) +
        (run 10 true sharedRun).leases.length := by
  have hsmooth : ∀ e ∈ sharedRun, e.Smooth := by
    simp [sharedRun, CustodyEvent.Smooth, DialEvent.Smooth]
  have hne : (run 10 true sharedRun).hub.dials ≠ [] := by decide
  have hall : ∀ x ∈ (run 10 true sharedRun).hub.dials, ∃ o, x.phase = .ended o := by
    have hphases : ∀ x ∈ (run 10 true sharedRun).hub.dials, x.phase = .ended (.stream 0) := by
      decide
    exact fun x hx => ⟨_, hphases x hx⟩
  exact ((run_sharing 10 sharedRun hsmooth).2.2.2.2.2 hne hall).2.2.2.2.2.2

end Custody
end TunnelDial
