import TunnelDial.Proofs.Dial.Negotiation
import TunnelDial.Proofs.Request.Ending
import TunnelDial.Rehearsal.Dialing
import TunnelDial.Request.Head
import TunnelDial.Tunnel.Plain

/-! The deadline of an exchange. The writes, the flush and the reads share it, and nothing else
knows it: neither the calls on the tunnel nor the dial, which a cancellation does not touch any
more. What the exchange leads to is what it would lead to without a deadline, if that comes in time,
and else the failure of the deadline, at the deadline. -/
namespace TunnelDial

/-- The dial talks to the proxy on a connection of its own, or is about to end. -/
def Phase.isOwn : Phase → Bool
  | exchanging .. => true
  | leaving .. => true
  | ended _ => true
  | _ => false

/-- The event cancels the dial. -/
def CustodyEvent.cancels (d : Nat) : CustodyEvent → Bool
  | dial _ _ (.cancelled i) => i == d
  | _ => false

theorem Hub.Move.isOwn {now : Nat} {accepts : Nat → Bool} {h s : Hub} {d : Nat} {x y : Dial}
    {e : DialEvent} (hm : h.Move now accepts d x e y s) (hx : x.phase.isOwn = true) :
    y.phase.isOwn = true := by
  cases hm with
  | exchanged | left => rfl
  | lost =>
    cases hp : x.phase with
    | exchanging | leaving | ended => rfl
    | _ => simp [Phase.isOwn, hp] at hx
  | _ => simp_all [Phase.isOwn]

namespace Custody

variable {c : Custody} {d : Nat} {x : Dial}

theorem isOwn_step (hx : c.hub.dials[d]? = some x) (hp : x.phase.isOwn = true)
    (e : CustodyEvent) :
    ∃ y, (c.step e).hub.dials[d]? = some y ∧ y.phase.isOwn = true := by
  obtain ⟨y, hy, rfl | ⟨_, _, _, _, hm⟩⟩ := dial_step hx e
  · exact ⟨y, hy, hp⟩
  · exact ⟨y, hy, hm.isOwn hp⟩

/-- A dial that has its own connection is not cancelled any more. -/
theorem step_of_cancels (hx : c.hub.dials[d]? = some x) (hp : x.phase.isOwn = true)
    {e : CustodyEvent} (he : e.cancels d = true) : c.step e = c := by
  unfold CustodyEvent.cancels at he
  split at he
  · rename_i now accepts i
    obtain rfl : i = d := by simpa using he
    have hheeds : x.phase.heedsCancel = false := by
      cases hq : x.phase with
      | exchanging | leaving | ended => rfl
      | _ => simp [Phase.isOwn, hq] at hp
    have hhub : c.hub.step now accepts (.cancelled i) = c.hub := by
      rw [Hub.step_of_phase hx rfl]
      simp [Hub.onDial, Hub.cancel, hheeds]
    simp [step, hhub, Hub.handed]
  · cases he

/-- A dial that has ended has ended for good. -/
theorem ended_after {o : Outcome} (h : c.hub.phase? d = some (.ended o)) (es : List CustodyEvent) :
    (c.after es).hub.phase? d = some (.ended o) := by
  refine List.foldlRecOn (motive := fun c' : Custody => c'.hub.phase? d = some (.ended o)) es _ h
    fun c' hc' e _ => ?_
  obtain ⟨x, hx, hp⟩ := Hub.phase?_eq_some.mp hc'
  obtain ⟨y, hy, rfl | ⟨_, _, _, _, hm⟩⟩ := dial_step hx e
  · exact Hub.phase?_eq_some.mpr ⟨y, hy, hp⟩
  · have hlive := hm.isLive
    rw [hp] at hlive
    cases hlive

/-- Whenever a dial is cancelled that has its own connection, all goes on as if it were not. -/
theorem after_filter_cancels (hx : c.hub.dials[d]? = some x) (hp : x.phase.isOwn = true)
    (es : List CustodyEvent) : c.after (es.filter fun e => !e.cancels d) = c.after es := by
  induction es generalizing c x with
  | nil => rfl
  | cons e es ih =>
    obtain ⟨y, hy, hq⟩ := isOwn_step hx hp e
    cases he : e.cancels d with
    | true =>
      have hsame : c.step e = c := step_of_cancels hx hp he
      rw [List.filter_cons_of_neg (by simp [he])]
      exact (ih hx hp).trans (by rw [after, after, List.foldl_cons, hsame])
    | false =>
      rw [List.filter_cons_of_pos (by simp [he])]
      exact ih hy hq

end Custody

namespace Rehearsal.World

variable {w : World} {c : Caller} {e : Errand} {x : Exchange} {link : Nat} {s : ScriptedStream}

/-- The clock stops at an instant that is still to come, if anything may happen then. -/
theorem nextWakeOf_le {wakes : List Nat} {wake : Nat} (hmem : wake ∈ wakes) (hlt : w.now < wake) :
    w.now < w.nextWakeOf wakes ∧ w.nextWakeOf wakes ≤ wake := by
  have hlater : wake ∈ wakes.filter (w.now < ·) := List.mem_filter.mpr ⟨hmem, by simpa using hlt⟩
  refine ⟨?_, List.min?_getD_le_of_mem hlater⟩
  obtain ⟨first, hfirst⟩ := Option.isSome_iff_exists.mp (List.isSome_min?_of_mem hlater)
  have hcome : w.now < first := by simpa using (List.mem_filter.mp (List.min?_mem hfirst)).2
  rw [nextWakeOf, hfirst]
  exact hcome

/-- As the clock of the world goes on, an exchange that waits is called again in time. -/
theorem nextWakeOf_le_wakeAt {cs : List Caller} (hc : c ∈ cs) (hopen : c.outcome = none)
    (he : c.dial.bind (w.errands[·]?) = some e) (hx : e.work = .exchanging x)
    (hs : w.carriers[link]? = some (.scripted s)) (hlt : w.now < x.wakeAt s) (more : List Nat) :
    let next := w.nextWakeOf (cs.flatMap w.dialWakes ++ more ++ w.wakes)
    w.now < next ∧ next ≤ x.wakeAt s := by
  intro next
  have hdeadline : x.deadline ∈ cs.flatMap w.dialWakes := by
    refine List.mem_flatMap.mpr ⟨c, hc, ?_⟩
    simp [dialWakes, hopen, he, hx]
  have hstream (wake : Nat) (hw : ByteStream.wake? s = some wake) : wake ∈ w.wakes := by
    refine List.mem_append_left _ (List.mem_flatMap.mpr ⟨_, List.mem_of_getElem? hs, ?_⟩)
    have hw' : s.wake? = some wake := hw
    simp [Carrier.wakes, hw']
  obtain ⟨hearly, hwait⟩ := Exchange.lt_wakeAt_iff.mp hlt
  obtain ⟨hlater, hle⟩ := nextWakeOf_le
    (List.mem_append_left w.wakes (List.mem_append_left more hdeadline)) hearly
  exact ⟨hlater, Exchange.le_wakeAt_iff.mpr ⟨hle, fun wake hw =>
    (nextWakeOf_le (List.mem_append_right _ (hstream wake hw)) (hwait wake hw)).2⟩⟩

end Rehearsal.World

namespace Exchange

open Rehearsal

/-- On every scripted stream, the exchange of a request comes to just one end, and by its deadline,
which the writes, the flush and the reads share. If the stream lets it end by then, at whatever
instant, that is its end; else it ends at the deadline, and the failure says whether it was still to
write and flush. The calls on the tunnel know no deadline, and a cancellation of the dial changes
nothing of what follows. -/
theorem returns_by_deadline (r : ConnectRequest) (reads writes flushes shutdowns : List Act)
    (began timeout : Nat) :
    let e := start r.head (began + timeout)
    let s := ScriptedStream.ofActs reads writes flushes shutdowns
    (∃ o t s', ∀ o' t' s'', Returns began e s o' t' s'' ↔ o' = o ∧ t' = t ∧ s'' = s') ∧
    (∀ o t s', Returns began e s o t s' → began ≤ t ∧ t ≤ began + timeout ∧
      (Settles began e s o t s' ∨ t = began + timeout ∧
        o = .failed (.deadline (if s'.written = r.head ∧ s'.flushed = 1 then "read" else "write")) ∧
        ∀ o' t' s'', Settles began e s o' t' s'' → began + timeout < t')) ∧
    (∀ o t s', Settles began e s o t s' → t ≤ began + timeout → Returns began e s o t s') ∧
    (∀ (w : World) (cs : List Caller) (c : Caller) (errand : Errand) (x : Exchange) (link : Nat)
      (s' : ScriptedStream) (more : List Nat), c ∈ cs → c.outcome = none →
      c.dial.bind (w.errands[·]?) = some errand → errand.work = .exchanging x →
      w.carriers[link]? = some (.scripted s') → w.now < x.wakeAt s' →
      w.now < w.nextWakeOf (cs.flatMap w.dialWakes ++ more ++ w.wakes) ∧
        w.nextWakeOf (cs.flatMap w.dialWakes ++ more ++ w.wakes) ≤ x.wakeAt s') ∧
    (∀ (tunnel : PlainTunnel ScriptedStream) (now room : Nat) (bs : Bytes),
      ByteStream.read now room tunnel = (if tunnel.replay = [] then
        ((ByteStream.read now room tunnel.inner).1,
          { tunnel with inner := (ByteStream.read now room tunnel.inner).2 })
        else
          (.ready (tunnel.replay.take room), { tunnel with replay := tunnel.replay.drop room })) ∧
      ByteStream.write now bs tunnel = ((ByteStream.write now bs tunnel.inner).1,
        { tunnel with inner := (ByteStream.write now bs tunnel.inner).2 })) ∧
    ∀ (c : Custody) (d : Nat) (es : List CustodyEvent),
      (∀ gated link, c.hub.phase? d = some (.exchanging gated link) →
        c.after (es.filter fun e => !e.cancels d) = c.after es) ∧
      ∀ o, c.hub.phase? d = some (.ended o) → (c.after es).hub.phase? d = some (.ended o) := by
  intro e s
  have hready : Ready r.head e s := .writing rfl rfl rfl (fun _ => rfl) rfl rfl rfl
  have hle : began ≤ e.deadline := Nat.le_add_right _ _
  obtain ⟨o₁, t₁, s₁, hreturns⟩ := hready.exists_returns hle
  refine ⟨⟨o₁, t₁, s₁, fun o' t' s'' => ⟨Ends.unique (patient_attend r.head) hready hreturns, ?_⟩⟩,
    fun o t s' h => h.settles_or_expires hready hle, ?_, ?_, ?_, ?_⟩
  · rintro ⟨rfl, rfl, rfl⟩
    exact hreturns
  · intro o t s' hset ht
    obtain ⟨-, -, hset₁ | ⟨-, -, hlater⟩⟩ := hreturns.settles_or_expires hready hle
    · obtain ⟨rfl, rfl, rfl⟩ := Ends.unique (patient_step r.head) hready hset hset₁
      exact hreturns
    · have hlt : e.deadline < t := hlater o t s' hset
      exact absurd ht (Nat.not_le.mpr hlt)
  · intro w cs c errand x link s' more hc hopen he hx hs hlt
    exact World.nextWakeOf_le_wakeAt hc hopen he hx hs hlt more
  · intro tunnel now room bs
    refine ⟨?_, rfl⟩
    split
    · rename_i hempty
      exact if_pos (by simp [hempty])
    · rename_i hleft
      exact if_neg (by simp [hleft])
  · intro c d es
    refine ⟨fun gated link hp => ?_, fun o ho => Custody.ended_after ho es⟩
    obtain ⟨x, hx, hq⟩ := Hub.phase?_eq_some.mp hp
    exact Custody.after_filter_cancels hx (by rw [hq]; rfl) es

/-- The exchange on the slow stream is called at once and as its delays are over. In a world it
waits for the answer. -/
theorem returns_by_deadline_slow :
    let e := start (ConnectRequest.head ⟨"a:1", .empty⟩) (5 + 9)
    (∃ o t s', Settles 5 e slowStream o t s' ∧ t ≤ 8 ∧ Returns 5 e slowStream o t s') ∧
    let x : Exchange := ⟨.reading .start, 14⟩
    let s : ScriptedStream := { slowStream with reads := ⟨slowStream.reads.acts, some 5⟩ }
    let errand : Errand := { Errand.resting .any ⟨"a", 1⟩ with work := .exchanging x }
    let caller : Caller := ⟨⟨"c", 0, .any, ⟨"a", 1⟩, ⟨"a:1", .empty⟩, none, none⟩, 5, some 0, none⟩
    let w : World := { World.start (.start 9 true) [] .scripted [] with
      now := 5, carriers := [.scripted s], errands := [errand] }
    x.wakeAt s = 7 ∧ w.now < w.nextWakeOf ([caller].flatMap w.dialWakes ++ [] ++ w.wakes) ∧
      w.nextWakeOf ([caller].flatMap w.dialWakes ++ [] ++ w.wakes) ≤ x.wakeAt s := by
  intro e
  obtain ⟨-, -, hreturns, hworld, -⟩ := returns_by_deadline ⟨"a:1", .empty⟩ slowStream.reads.acts
    slowStream.writes.acts [] [] 5 9
  have hready : Ready (ConnectRequest.head ⟨"a:1", .empty⟩) e slowStream :=
    .writing rfl rfl rfl (fun _ => rfl) rfl rfl rfl
  have hsound : ScriptedStream.sound.good slowStream := ⟨rfl, rfl, rfl⟩
  obtain ⟨o, t, s', hsettles, ht⟩ := hready.exists_settles hsound 5
  refine ⟨⟨o, t, s', hsettles, ht, hreturns o t s' hsettles (Nat.le_trans ht (by decide))⟩, ?_⟩
  intro x s errand caller w
  exact ⟨rfl, hworld w [caller] caller errand x 0 s [] (by simp) rfl rfl rfl rfl (by decide)⟩

/-- On a stream that serves its calls, an exchange whose delays are over in time ends as the answer
says, and takes no longer than these. -/
theorem returns_verdict (r : ConnectRequest) (reads writes flushes shutdowns : List Act)
    (hr : reads.all Script.isServing = true) (hw : writes.all Script.isServing = true)
    (hf : flushes.all Script.isServing = true) (began timeout : Nat)
    (hin : Script.delays writes + Script.delays flushes + Script.delays reads ≤ timeout)
    {o : ExchangeStep} {t : Nat} {s' : ScriptedStream}
    (h : Returns began (start r.head (began + timeout))
      (ScriptedStream.ofActs reads writes flushes shutdowns) o t s') :
    t ≤ began + (Script.delays writes + Script.delays flushes + Script.delays reads) ∧
      o.andThen (Script.dataOf s'.reads.acts) = verdict (Script.dataOf reads) := by
  let e := start r.head (began + timeout)
  let s := ScriptedStream.ofActs reads writes flushes shutdowns
  have hready : Ready r.head e s := .writing rfl rfl rfl (fun _ => rfl) rfl rfl rfl
  have hgood : ScriptedStream.sound.good s := ⟨hr, hw, hf⟩
  have hlag : s.lag began =
      Script.delays writes + Script.delays flushes + Script.delays reads := by
    rw [ScriptedStream.lag, Script.lag_of_since rfl, Script.lag_of_since rfl,
      Script.lag_of_since rfl]
    rfl
  obtain ⟨o₁, t₁, s₁, hsettles, ht⟩ := hready.exists_settles hgood _
  rw [hlag] at ht
  obtain ⟨-, -, hnatural | ⟨-, -, hlate⟩⟩ := h.settles_or_expires hready (Nat.le_add_right ..)
  · obtain ⟨rfl, rfl, rfl⟩ := Ends.unique (patient_step r.head) hready hsettles hnatural
    have hstage : Stage ScriptedStream.sound r.head (Script.dataOf reads) e ⟨s, []⟩ :=
      .writing rfl (by simp) rfl rfl
    exact ⟨ht, hnatural.verdict hgood hstage⟩
  · have hlt : began + timeout < t₁ := hlate o₁ t₁ s₁ hsettles
    omega

end Exchange
end TunnelDial
