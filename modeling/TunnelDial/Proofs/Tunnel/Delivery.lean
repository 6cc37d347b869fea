import TunnelDial.Proofs.Lease.Holding
import TunnelDial.Proofs.Tunnel.Upload

/-! What comes to the proxy of a tunnel that was closed. While somebody holds the transport all that
was accepted comes, and the end after it. The last holder cuts the connection off, and what did not
come until then never comes. -/
namespace TunnelDial

/-- What the pump has to do, when the writing half is closed: each byte costs more than the piece it
becomes. -/
def Feed.work (f : Feed) : Nat :=
  3 * (f.pump.hand.length + f.channel.chunks.flatten.length) + 2 * f.channel.chunks.length +
    2 * f.pump.running.toNat

/-- What pump and connection have to do. -/
def Upload.work (u : Upload) : Nat := u.feed.work + (u.feed.sent.length - u.arrived)

namespace Feed

variable {f f' : Feed} {severed : Bool} {e : UploadEvent}

/-- When the writing half is closed, a move leaves less to do, unless pump and pieces stay as they
are. -/
theorem Move.work_lt (hm : Move severed f e f') (hc : f.channel.sending = false) :
    f'.pump = f.pump ∧ f'.sent = f.sent ∧ f'.work = f.work ∨
      f'.work + f'.sent.length < f.work + f.sent.length := by
  cases hm with
  | taken hsend =>
    rw [hc] at hsend
    cases hsend
  | shut => exact .inl ⟨rfl, rfl, rfl⟩
  | @handed bs rest hr hh hcs =>
    right
    simp only [Feed.work, hh, hcs, List.flatten_cons, List.length_append, List.length_cons,
      List.length_nil]
    omega
  | ended hr hh hcs =>
    right
    cases severed with
    | true => simp [Feed.work, hh, hcs, hr, Channel.abandon]
    | false =>
      simp only [Feed.work, hh, hcs, hr, Channel.abandon, List.length_append, List.length_nil,
        List.flatten_nil, Bool.toNat_true, Bool.toNat_false]
      simp
      omega
  | @sent n hn =>
    right
    have hlen := congrArg List.length (List.take_append_drop n f.pump.hand)
    have hpos := List.length_pos_iff.mpr hn
    rw [List.length_append] at hlen
    simp only [Feed.work, List.length_append, List.length_singleton]
    omega
  | lost hr =>
    right
    simp [Feed.work, hr, Channel.abandon]

theorem Move.length_sent_le (hm : Move severed f e f') : f.sent.length ≤ f'.sent.length := by
  cases hm with
  | taken | shut | handed | lost => exact Nat.le_refl _
  | ended | sent => simp

/-- Once the connection is cut off nothing is sent. -/
theorem Move.sent_of_severed (hm : Move true f e f') : f'.sent = f.sent := by
  cases hm with
  | taken | shut | handed | lost => rfl
  | ended => simp
  | sent _ hs => cases hs

/-- A pump that is done without having been halted sent the end, unless the connection was cut
off. -/
theorem Move.done (hm : Move severed f e f') (hs : f.Sound) (he : e ≠ .halted)
    (hr : f'.pump.running = false) :
    f.pump.running = false ∧ f'.sent = f.sent ∨
      (severed = false → f'.sent = f.sent ++ [.last]) := by
  cases hm with
  | taken | shut | handed => exact .inl ⟨hr, rfl⟩
  | ended =>
    right
    rintro rfl
    rfl
  | sent hn =>
    rw [(hs.idle hr).1, List.take_nil] at hn
    exact absurd rfl hn
  | lost => exact absurd rfl he

end Feed

namespace Upload

variable {u : Upload} {others : Nat} {es : List UploadEvent} {e : UploadEvent}

/-- The leases on the transport are those of the others and that of the tunnel. -/
structure Held (u : Upload) : Prop where
  tidy : u.pool.ledger.Tidy
  lease : ∀ g, u.mux.lease = some g → g = 0
  holders : u.pool.ledger.holders 0 = u.others + u.mux.lease.toList.length

theorem held_iff : u.Held ↔ u.pool.HeldBy u.mux.lease u.others :=
  ⟨fun h => ⟨h.tidy, h.lease, h.holders⟩, fun h => ⟨h.tidy, h.first, h.holders⟩⟩

theorem Held.severed_iff (hh : u.Held) :
    u.severed = true ↔ u.others = 0 ∧ u.mux.lease = none := (held_iff.mp hh).closed_iff

theorem held_start (others : Nat) : (start others).Held := held_iff.mpr (Pool.heldBy_start others)

theorem Held.close (hh : u.Held) : (u.step .close).Held := by
  have hlease : (u.step .close).mux.lease = none := MuxTunnel.lease_close ..
  refine held_iff.mpr ?_
  rw [hlease]
  exact (held_iff.mp hh).close u.feed.channel

/-- To close the transport as its sole holder is to close the tunnel. -/
theorem Held.closeTransport (hh : u.Held) :
    u.step .closeTransport = u ∨ u.step .closeTransport = u.step .close := by
  rcases u.mux.closeTransport_eq u.feed.channel hh.tidy with h | h
  · exact .inr (by simp only [Upload.step, h])
  · exact .inl (by simp only [Upload.step, h])

theorem Held.step (hh : u.Held) (e : UploadEvent) : (u.step e).Held := by
  cases e with
  | close => exact hh.close
  | closeTransport =>
    rcases hh.closeTransport with h | h
    · rw [h]
      exact hh
    · rw [h]
      exact hh.close
  | joined =>
    rw [Upload.step]
    split
    · next hsome => exact held_iff.mpr ((held_iff.mp hh).joined (by simpa using hsome))
    · exact hh
  | parted =>
    rw [Upload.step]
    split
    · next hpos => exact held_iff.mpr ((held_iff.mp hh).parted hpos)
    · exact hh
  | closeWrite =>
    have hlease : (u.step .closeWrite).mux.lease = u.mux.lease := by
      simp only [Upload.step, MuxTunnel.closeWrite]
      split <;> rfl
    exact ⟨hh.tidy, by rw [hlease]; exact hh.lease, by rw [hlease]; exact hh.holders⟩
  | write | closeRead | received | halted => exact ⟨hh.tidy, hh.lease, hh.holders⟩
  | granted =>
    rw [Upload.step]
    split
    · exact hh
    · exact ⟨hh.tidy, hh.lease, hh.holders⟩
  | carried =>
    rw [Upload.step]
    split
    · exact ⟨hh.tidy, hh.lease, hh.holders⟩
    · exact hh

theorem held_run (others : Nat) (es : List UploadEvent) : (run others es).Held := by
  induction es using List.reverseRecOn with
  | nil => exact held_start others
  | append_singleton es e ih =>
    rw [run_concat]
    exact ih.step e

theorem arrived_step (u : Upload) (e : UploadEvent) :
    (u.step e).arrived = u.arrived ∨
      u.arrived < u.feed.sent.length ∧ u.severed = false ∧
        u.step e = { u with arrived := u.arrived + 1 } := by
  cases e with
  | carried =>
    rw [Upload.step]
    split
    · rename_i h
      have h' : u.severed = false ∧ u.arrived < u.feed.sent.length := by simpa using h
      exact .inr ⟨h'.2, h'.1, rfl⟩
    · exact .inl rfl
  | granted | joined | parted =>
    left
    rw [Upload.step]
    split <;> rfl
  | write | closeWrite | closeRead | close | closeTransport | received | halted => exact .inl rfl

/-- A transport that was cut off stays so, and nothing more comes to the proxy. -/
theorem Held.severed_step (hh : u.Held) (hs : u.severed = true) (e : UploadEvent) :
    (u.step e).severed = true ∧ (u.step e).got = u.got := by
  obtain ⟨ho, hl⟩ := hh.severed_iff.mp hs
  have hholders : (u.step e).others = 0 ∧ (u.step e).mux.lease = none := by
    cases e with
    | closeTransport => simp [Upload.step, MuxTunnel.closeTransport, hl, ho]
    | close => simp [Upload.step, MuxTunnel.close, hl, ho]
    | closeWrite =>
      simp only [Upload.step, MuxTunnel.closeWrite]
      split <;> exact ⟨ho, hl⟩
    | joined | parted | granted | carried => simp [Upload.step, hl, ho, hs]
    | write | closeRead | received | halted => exact ⟨ho, hl⟩
  have harrived : (u.step e).arrived = u.arrived := by
    rcases arrived_step u e with h | ⟨_, hopen, _⟩
    · exact h
    · rw [hs] at hopen
      cases hopen
  have hsent : (u.step e).feed.sent = u.feed.sent := by
    rcases feed_step u e with h | hm
    · rw [h]
    · rw [hs] at hm
      exact hm.sent_of_severed
  exact ⟨(hh.step e).severed_iff.mpr hholders, by rw [got, got, hsent, harrived]⟩

theorem Held.severed_after (hh : u.Held) (hs : u.severed = true) (es : List UploadEvent) :
    (u.after es).got = u.got := by
  induction es generalizing u with
  | nil => rfl
  | cons e es ih =>
    obtain ⟨hs', hgot⟩ := hh.severed_step hs e
    exact (ih (hh.step e) hs').trans hgot

/-- No more comes to the proxy than was sent. -/
theorem arrived_run (others : Nat) (es : List UploadEvent) :
    (run others es).arrived ≤ (run others es).feed.sent.length := by
  induction es using List.reverseRecOn with
  | nil => exact Nat.le_refl 0
  | append_singleton es e ih =>
    rw [run_concat]
    rcases arrived_step (run others es) e with h | ⟨hlt, _, h⟩
    · rw [h]
      rcases feed_step (run others es) e with hf | hm
      · rw [hf]
        exact ih
      · exact Nat.le_trans ih hm.length_sent_le
    · rw [h]
      exact hlt

/-- The pump of a transport that is open ends the stream, unless it was halted. -/
theorem last_run (others : Nat) {es : List UploadEvent} (hes : .halted ∉ es)
    (hopen : (run others es).severed = false)
    (hr : (run others es).feed.pump.running = false) :
    ∃ pieces, (run others es).feed.sent = pieces ++ [.last] := by
  induction es using List.reverseRecOn with
  | nil => cases hr
  | append_singleton es e ih =>
    rw [List.mem_append, List.mem_singleton, not_or] at hes
    rw [run_concat] at hopen hr ⊢
    have hbefore : (run others es).severed = false := by
      by_contra hs
      rw [((held_run others es).severed_step (by simpa using hs) e).1] at hopen
      cases hopen
    rcases feed_step (run others es) e with h | hm
    · rw [h] at hr ⊢
      exact ih hes.1 hbefore hr
    · rcases hm.done (sound_run others es) (Ne.symm hes.2) hr with ⟨hrb, hsame⟩ | hlast
      · rw [hsame]
        exact ih hes.1 hbefore hrb
      · exact ⟨_, hlast hbefore⟩

theorem Tied.sending (ht : u.Tied) (hw : u.mux.writeClosed = true) :
    u.feed.channel.sending = false := by
  rw [Tied, hw] at ht
  simpa using ht.symm

/-- When the writing half is closed, nothing that happens leaves more to do, and what the pump does
leaves less. -/
theorem Tied.work_step (ht : u.Tied) (hle : u.arrived ≤ u.feed.sent.length)
    (hw : u.mux.writeClosed = true) (e : UploadEvent) :
    (u.step e).work ≤ u.work ∧
      ((u.step e).feed.pump ≠ u.feed.pump → (u.step e).work < u.work) := by
  rcases arrived_step u e with h | ⟨hlt, _, h⟩
  · rcases feed_step u e with hf | hm
    · have hsame : (u.step e).work = u.work := by rw [work, work, h, hf]
      exact ⟨Nat.le_of_eq hsame, fun hne => absurd (by rw [hf]) hne⟩
    · have hlen := hm.length_sent_le
      rcases hm.work_lt (ht.sending hw) with ⟨hpump, hsent, hwork⟩ | hlt
      · have hsame : (u.step e).work = u.work := by rw [work, work, h, hsent, hwork]
        exact ⟨Nat.le_of_eq hsame, fun hne => absurd hpump hne⟩
      · have hless : (u.step e).work < u.work := by
          rw [work, work, h]
          omega
        exact ⟨Nat.le_of_lt hless, fun _ => hless⟩
  · have hless : (u.step e).work < u.work := by
      rw [h, work, work]
      dsimp only
      omega
    exact ⟨Nat.le_of_lt hless, fun _ => hless⟩

/-- Some of what is left to do can be done, however little flow control grants. -/
theorem Tied.exists_work_lt (ht : u.Tied) (hf : u.feed.Sound)
    (hle : u.arrived ≤ u.feed.sent.length) (hw : u.mux.writeClosed = true)
    (hopen : u.severed = false) (n : Nat) (hwork : 0 < u.work) :
    ∃ e ∈ [.received, .granted (n + 1), .carried], (u.step e).work < u.work := by
  have moved {e : UploadEvent} (hp : (u.step e).feed.pump ≠ u.feed.pump) :
      (u.step e).work < u.work := (ht.work_step hle hw e).2 hp
  by_cases hh : u.feed.pump.hand = []
  · cases hr : u.feed.pump.running with
    | true =>
      refine ⟨.received, by simp, moved ?_⟩
      change (u.feed.receive u.severed).pump ≠ u.feed.pump
      cases hc : u.feed.channel.chunks with
      | cons bs rest =>
        have hpos := (hf.chunks bs (by simp [hc])).1
        rw [Feed.receive_cons hr hh hc]
        intro h
        have hbs : bs = u.feed.pump.hand := congrArg Pump.hand h
        simp [hbs, hh] at hpos
      | nil =>
        rw [Feed.receive_ended hr hh hc (ht.sending hw)]
        intro h
        have hrun : false = u.feed.pump.running := congrArg Pump.running h
        rw [hr] at hrun
        cases hrun
    | false =>
      have hleft : u.arrived < u.feed.sent.length := by
        have hc := (hf.idle hr).2
        simp [work, Feed.work, hh, hc, hr] at hwork
        omega
      refine ⟨.carried, by simp, ?_⟩
      have hstep : u.step .carried = { u with arrived := u.arrived + 1 } := by
        simp [Upload.step, hopen, hleft]
      rw [hstep, work, work]
      dsimp only
      omega
  · refine ⟨.granted (n + 1), by simp, moved ?_⟩
    have htake : u.feed.pump.hand.take (n + 1) ≠ [] := by simpa using hh
    have hstep : (u.step (.granted (n + 1))).feed = u.feed.grant (n + 1) := by
      simp [Upload.step, hopen]
    rw [hstep, Feed.grant_cons htake]
    intro h
    have hdrop : u.feed.pump.hand.drop (n + 1) = u.feed.pump.hand := congrArg Pump.hand h
    have hlen := congrArg List.length hdrop
    have hpos := List.length_pos_iff.mpr hh
    rw [List.length_drop] at hlen
    omega

theorem isComplete_iff :
    u.isComplete = true ↔
      u.got.flatMap Piece.bytes = u.feed.accepted ∧ u.got.getLast? = some .last := by
  simp [isComplete]

/-- When the end came, everything came. -/
theorem got_of_last (hf : u.feed.Sound) (hl : .last ∈ u.got) :
    u.feed.sent.length ≤ u.arrived ∧ u.isComplete = true := by
  have hall : u.feed.sent.length ≤ u.arrived := by
    by_contra hlt
    have hmem : .last ∈ u.feed.sent.dropLast := by
      rw [List.dropLast_eq_take]
      exact (List.take_subset_take_left _ (by omega)) hl
    exact hf.final hmem
  have hgot : u.got = u.feed.sent := List.take_of_length_le hall
  rw [hgot] at hl
  obtain ⟨_, _, hbytes⟩ := hf.last hl
  refine ⟨hall, isComplete_iff.mpr ⟨hgot ▸ hbytes, ?_⟩⟩
  have hne : u.feed.sent ≠ [] := List.ne_nil_of_mem hl
  have hsplit := List.dropLast_append_getLast hne
  rw [hgot, List.getLast?_eq_some_getLast hne]
  rw [← hsplit, List.mem_append, List.mem_singleton] at hl
  rw [← hl.resolve_left hf.final]

/-- While the transport is open, everything came exactly when nothing is left to do. -/
theorem isComplete_iff_work (others : Nat) {es : List UploadEvent} (hes : .halted ∉ es)
    (hopen : (run others es).severed = false) :
    (run others es).isComplete = true ↔ (run others es).work = 0 := by
  have hf := sound_run others es
  constructor
  · intro hc
    have hl : .last ∈ (run others es).got := List.mem_of_getLast? (isComplete_iff.mp hc).2
    have hall := (got_of_last hf hl).1
    obtain ⟨hr, _, _⟩ := hf.last (List.mem_of_mem_take hl)
    obtain ⟨hh, hcs⟩ := hf.idle hr
    simp [work, Feed.work, hh, hcs, hr]
    omega
  · intro h0
    have hr : (run others es).feed.pump.running = false := by
      cases hr : (run others es).feed.pump.running with
      | false => rfl
      | true => simp [work, Feed.work, hr] at h0
    obtain ⟨pieces, hsent⟩ := last_run others hes hopen hr
    have hall : (run others es).feed.sent.length ≤ (run others es).arrived := by
      rw [work] at h0
      omega
    have hgot : (run others es).got = (run others es).feed.sent := List.take_of_length_le hall
    refine (got_of_last hf ?_).2
    rw [hgot, hsent]
    simp

/-- What comes to the proxy is a beginning of what was accepted, and all of it when the end came.
The connection is cut off exactly when nobody holds the transport, and then no more comes. As long
as somebody does, and the stream is not halted, a tunnel whose writing half was closed has less and
less to do, can always do some of that, and has done it when everything came. -/
theorem run_delivery (others : Nat) (es : List UploadEvent) :
    let u := run others es
    u.got.flatMap Piece.bytes <+: u.feed.accepted ∧
    (.last ∈ u.got → u.isComplete = true) ∧
    (u.severed = true ↔ u.others = 0 ∧ u.mux.lease = none) ∧
    (u.severed = true → ∀ fs, (u.after fs).got = u.got) ∧
    (u.mux.writeClosed = true → ∀ e, (u.step e).work ≤ u.work) ∧
    (.halted ∉ es → u.mux.writeClosed = true → u.severed = false →
      (u.isComplete = true ↔ u.work = 0) ∧
      ∀ n, 0 < u.work →
        ∃ e ∈ [.received, .granted (n + 1), .carried], (u.step e).work < u.work) := by
  intro u
  have hf : u.feed.Sound := sound_run others es
  have ht : u.Tied := tied_run others es
  have hh : u.Held := held_run others es
  have hle : u.arrived ≤ u.feed.sent.length := arrived_run others es
  refine ⟨?_, fun hl => (got_of_last hf hl).2, hh.severed_iff, hh.severed_after,
    fun hw e => (ht.work_step hle hw e).1, fun hes hw hopen => ⟨?_, fun n hwork => ?_⟩⟩
  · have hprefix : u.got.flatMap Piece.bytes <+: u.feed.sentBytes := by
      conv_rhs => rw [Feed.sentBytes, ← List.take_append_drop u.arrived u.feed.sent]
      rw [List.flatMap_append]
      exact List.prefix_append ..
    exact hprefix.trans hf.ordered
  · exact isComplete_iff_work others hes hopen
  · exact ht.exists_work_lt hf hle hw hopen n hwork

/-- A tunnel that was written to and closed, on a transport that somebody else holds too. -/
def deliveredRun : List UploadEvent :=
  [.write [1, 2, 3], .closeWrite, .close, .received, .granted 2, .granted 5, .received, .carried,
    .carried, .carried]

theorem run_delivery_shared :
    (run 1 deliveredRun).severed = false ∧ (run 1 deliveredRun).isComplete = true ∧
      (run 1 deliveredRun).got = [.data [1, 2], .data [3], .last] := by
  have hopen : (run 1 deliveredRun).severed = false := by decide
  obtain ⟨_, _, _, _, _, hdone⟩ := run_delivery 1 deliveredRun
  exact ⟨hopen, ((hdone (by decide) (by decide) hopen).1).mpr (by decide), by decide⟩

/-- The last holder of a transport closes the tunnel right after it wrote: whatever happens then,
what it wrote does not come to the proxy. -/
theorem run_delivery_cut :
    let u := run 0 [.write [1], .closeWrite, .close]
    u.feed.accepted = [1] ∧ ¬∃ fs, (u.after fs).isComplete = true := by
  intro u
  have hsevered : u.severed = true := by decide
  refine ⟨by decide, fun ⟨fs, hc⟩ => ?_⟩
  have hgot := (held_run 0 [.write [1], .closeWrite, .close]).severed_after hsevered fs
  have hlast := (isComplete_iff.mp hc).2
  rw [hgot] at hlast
  revert hlast
  decide

end Upload
end TunnelDial
