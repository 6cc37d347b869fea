import Mathlib.Data.List.Induction
import TunnelDial.Tunnel.Upload

/-! Bytes on their way to the proxy are neither lost, doubled nor put out of order: what was sent,
what the pump has in hand and what waits in the channel make up what was accepted. -/
namespace TunnelDial

namespace MuxTunnel

/-- A write hands over one chunk, or nothing happens. -/
theorem write_cases (t : MuxTunnel) (bs : Bytes) (c : Channel) :
    (t.writeClosed = false ∧ c.sending = true ∧ c.receiving = true ∧
      c.chunks.length < Channel.capacity ∧ bs ≠ [] ∧
      t.write bs c = (.taken (bs.take Channel.chunkLimit).length,
        { c with chunks := c.chunks ++ [bs.take Channel.chunkLimit] })) ∨
    (t.write bs c).1.size = 0 ∧ (t.write bs c).2 = c := by
  by_cases hw : t.writeClosed = true
  · exact .inr (by rw [MuxTunnel.write, if_pos hw]; exact ⟨rfl, rfl⟩)
  rw [MuxTunnel.write, if_neg hw, Channel.offer]
  by_cases hs : (!c.sending) = true
  · exact .inr (by rw [if_pos hs]; exact ⟨rfl, rfl⟩)
  by_cases he : bs.isEmpty = true
  · exact .inr (by rw [if_neg hs, if_pos he]; exact ⟨rfl, rfl⟩)
  by_cases hr : (!c.receiving) = true
  · exact .inr (by rw [if_neg hs, if_neg he, if_pos hr]; exact ⟨rfl, rfl⟩)
  by_cases hc : Channel.capacity ≤ c.chunks.length
  · exact .inr (by rw [if_neg hs, if_neg he, if_neg hr, if_pos hc]; exact ⟨rfl, rfl⟩)
  rw [if_neg hs, if_neg he, if_neg hr, if_neg hc]
  exact .inl ⟨by simpa using hw, by simpa using hs, by simpa using hr, Nat.lt_of_not_le hc,
    by simpa using he, rfl⟩

end MuxTunnel

namespace Feed

/-- By the event, the bytes under way become others. -/
inductive Move (severed : Bool) (f : Feed) : UploadEvent → Feed → Prop
  | taken {bs} : f.channel.sending = true → f.channel.receiving = true →
      f.channel.chunks.length < Channel.capacity → bs ≠ [] →
      Move severed f (.write bs)
        { f with
          channel := { f.channel with
            chunks := f.channel.chunks ++ [bs.take Channel.chunkLimit] }
          accepted := f.accepted ++ bs.take Channel.chunkLimit }
  | shut {e} : e = .closeWrite ∨ e = .close ∨ e = .closeTransport →
      Move severed f e { f with channel := f.channel.close }
  | handed {bs rest} : f.pump.running = true → f.pump.hand = [] → f.channel.chunks = bs :: rest →
      Move severed f .received
        { f with channel := { f.channel with chunks := rest }, pump := { f.pump with hand := bs } }
  | ended : f.pump.running = true → f.pump.hand = [] → f.channel.chunks = [] →
      f.channel.sending = false →
      Move severed f .received
        { f with
          channel := f.channel.abandon
          pump := ⟨[], false⟩
          sent := f.sent ++ if severed then [] else [.last] }
  | sent {n} : f.pump.hand.take n ≠ [] → severed = false →
      Move severed f (.granted n)
        { f with
          pump := { f.pump with hand := f.pump.hand.drop n }
          sent := f.sent ++ [.data (f.pump.hand.take n)] }
  | lost : f.pump.running = true →
      Move severed f .halted { f with channel := f.channel.abandon, pump := ⟨[], false⟩ }

variable {f : Feed} {severed : Bool}

theorem write_move (t : MuxTunnel) (bs : Bytes) :
    f.write t bs = f ∨ Move severed f (.write bs) (f.write t bs) := by
  rcases t.write_cases bs f.channel with ⟨_, hs, hr, hc, hne, hoffer⟩ | ⟨hnothing, hsame⟩
  · have htake : bs.take (bs.take Channel.chunkLimit).length = bs.take Channel.chunkLimit := by
      rw [List.length_take, List.take_eq_take_iff]
      omega
    have hwrite : f.write t bs = { f with
        channel := { f.channel with chunks := f.channel.chunks ++ [bs.take Channel.chunkLimit] }
        accepted := f.accepted ++ bs.take Channel.chunkLimit } := by
      simp only [write, hoffer, Offer.size, htake]
    rw [hwrite]
    exact .inr (.taken hs hr hc hne)
  · left
    simp [write, hnothing, hsame]

theorem receive_cons {bs : Bytes} {rest : List Bytes} (hr : f.pump.running = true)
    (hh : f.pump.hand = []) (hc : f.channel.chunks = bs :: rest) :
    f.receive severed =
      { f with
        channel := { f.channel with chunks := rest }
        pump := { f.pump with hand := bs } } := by
  simp [receive, Pump.receive, Channel.receive, hr, hh, hc]

theorem receive_ended (hr : f.pump.running = true) (hh : f.pump.hand = [])
    (hc : f.channel.chunks = []) (hs : f.channel.sending = false) :
    f.receive severed =
      { f with
        channel := f.channel.abandon
        pump := ⟨[], false⟩
        sent := f.sent ++ if severed then [] else [.last] } := by
  cases severed <;> simp [receive, Pump.receive, Channel.receive, hr, hh, hc, hs]

theorem receive_move :
    f.receive severed = f ∨ Move severed f .received (f.receive severed) := by
  by_cases hp : f.pump.running = true ∧ f.pump.hand = []
  · obtain ⟨hr, hh⟩ := hp
    cases hc : f.channel.chunks with
    | cons bs rest =>
      rw [receive_cons hr hh hc]
      exact .inr (.handed hr hh hc)
    | nil =>
      cases hs : f.channel.sending with
      | true => exact .inl (by simp [receive, Pump.receive, Channel.receive, hr, hh, hc, hs])
      | false =>
        rw [receive_ended hr hh hc hs]
        exact .inr (.ended hr hh hc hs)
  · exact .inl (by rw [receive, if_neg (by simpa using hp)])

theorem grant_cons {n : Nat} (hn : f.pump.hand.take n ≠ []) :
    f.grant n =
      { f with
        pump := { f.pump with hand := f.pump.hand.drop n }
        sent := f.sent ++ [.data (f.pump.hand.take n)] } := by
  have he : (f.pump.hand.take n).isEmpty = false := by simpa using hn
  simp only [grant, Pump.grant, he]
  rfl

theorem grant_move (n : Nat) (hs : severed = false) :
    f.grant n = f ∨ Move severed f (.granted n) (f.grant n) := by
  by_cases hn : f.pump.hand.take n = []
  · have hdrop : f.pump.hand.drop n = f.pump.hand := by
      simpa [hn] using List.take_append_drop n f.pump.hand
    exact .inl (by simp [grant, Pump.grant, hn, hdrop])
  · rw [grant_cons hn]
    exact .inr (.sent hn hs)

theorem halt_move : f.halt = f ∨ Move severed f .halted f.halt := by
  by_cases hp : f.pump.running = true
  · right
    rw [halt, if_pos hp]
    exact .lost hp
  · exact .inl (by rw [halt, if_neg hp])

end Feed

namespace Feed

/-- Nothing is lost so far: sent, in hand and in the channel is all that was accepted. -/
def Whole (f : Feed) : Prop :=
  f.sentBytes ++ f.pump.hand ++ f.channel.chunks.flatten = f.accepted

/-- Bytes are under way in order. While the pump runs nothing is lost; when it is done, what was
sent is a beginning of what was accepted, and all of it if the end was sent. -/
structure Sound (f : Feed) : Prop where
  attended : f.channel.receiving = f.pump.running
  whole : f.pump.running = true → f.Whole
  idle : f.pump.running = false → f.pump.hand = [] ∧ f.channel.chunks = []
  ordered : f.sentBytes <+: f.accepted
  waiting : f.channel.chunks.length ≤ Channel.capacity
  chunks : ∀ bs ∈ f.channel.chunks, 1 ≤ bs.length ∧ bs.length ≤ Channel.chunkLimit
  last : .last ∈ f.sent →
    f.pump.running = false ∧ f.channel.sending = false ∧ f.sentBytes = f.accepted
  final : .last ∉ f.sent.dropLast

variable {f f' : Feed} {severed : Bool} {e : UploadEvent}

theorem sound_start : start.Sound := by
  constructor <;> simp [start, Pump.start, Channel.fresh, sentBytes, Whole]

theorem Whole.ordered (hw : f.Whole) : f.sentBytes <+: f.accepted :=
  ⟨f.pump.hand ++ f.channel.chunks.flatten, by rw [← List.append_assoc]; exact hw⟩

theorem Move.whole (hm : Move severed f e f') (he : e ≠ .halted) (hw : f.Whole) : f'.Whole := by
  unfold Whole sentBytes at hw ⊢
  cases hm with
  | taken => simp [← hw]
  | shut => exact hw
  | handed _ hh hc => simpa [hh, hc] using hw
  | ended _ hh hc => cases severed <;> simpa [hh, hc, Piece.bytes, Channel.abandon] using hw
  | @sent n =>
    rw [← List.take_append_drop n f.pump.hand] at hw
    simpa [Piece.bytes] using hw
  | lost => exact absurd rfl he

theorem Move.sound (hm : Move severed f e f') (hs : f.Sound) : f'.Sound := by
  have unended (hr : f.pump.running = true) : .last ∉ f.sent := fun hl => by
    rw [(hs.last hl).1] at hr
    cases hr
  have still (hr : f.pump.running = true) (he : e ≠ .halted) : f'.Whole :=
    hm.whole he (hs.whole hr)
  have busy {P : Prop} (hr : f.pump.running = true) (hn : f.pump.running = false) : P := by
    rw [hr] at hn
    cases hn
  cases hm with
  | @taken bs hsend hrecv hlen hbs =>
    have hr : f.pump.running = true := hs.attended ▸ hrecv
    have hw := still hr nofun
    refine ⟨hs.attended, fun _ => hw, busy hr, hw.ordered, ?_, fun x hx => ?_,
      fun hl => absurd hl (unended hr), hs.final⟩
    · rw [List.length_append]
      exact hlen
    · rw [List.mem_append, List.mem_singleton] at hx
      rcases hx with hx | rfl
      · exact hs.chunks x hx
      · have hpos := List.length_pos_iff.mpr hbs
        rw [List.length_take, Channel.chunkLimit]
        omega
  | shut he =>
    exact ⟨hs.attended, hs.whole, hs.idle, hs.ordered, hs.waiting, hs.chunks,
      fun hl => ⟨(hs.last hl).1, rfl, (hs.last hl).2.2⟩, hs.final⟩
  | @handed bs rest hr hh hc =>
    have hw := still hr nofun
    have hwaiting := hs.waiting
    have hchunks := hs.chunks
    rw [hc] at hwaiting hchunks
    exact ⟨hs.attended, fun _ => hw, busy hr, hs.ordered, Nat.le_of_succ_le hwaiting,
      (List.forall_mem_cons.mp hchunks).2, fun hl => absurd hl (unended hr), hs.final⟩
  | ended hr hh hc hsend =>
    have hw := still hr nofun
    refine ⟨rfl, nofun, fun _ => ⟨rfl, rfl⟩, hw.ordered, Nat.zero_le _, nofun, fun _ => ?_, ?_⟩
    · exact ⟨rfl, hsend, by simpa [Whole, Channel.abandon] using hw⟩
    · cases severed with
      | true => simpa using hs.final
      | false => simpa using unended hr
  | @sent n hn hsev =>
    have hr : f.pump.running = true := by
      by_contra hr
      rw [(hs.idle (by simpa using hr)).1, List.take_nil] at hn
      exact hn rfl
    have hw := still hr nofun
    refine ⟨hs.attended, fun _ => hw, busy hr, hw.ordered, hs.waiting, hs.chunks, fun hl => ?_, ?_⟩
    · exact absurd (by simpa using hl) (unended hr)
    · rw [List.dropLast_concat]
      exact unended hr
  | lost hr =>
    exact ⟨rfl, nofun, fun _ => ⟨rfl, rfl⟩, hs.ordered, Nat.zero_le _, nofun,
      fun hl => absurd hl (unended hr), hs.final⟩

/-- What a move sends: nothing, what flow control granted, or the end, after the writing half was
closed and all was sent. -/
theorem Move.sent_cases (hm : Move severed f e f') (hs : f.Sound) :
    f'.sent = f.sent ∨
    (∃ n bs, e = .granted n ∧ f'.sent = f.sent ++ [.data bs] ∧ bs ≠ [] ∧ bs.length ≤ n) ∨
    e = .received ∧ f'.sent = f.sent ++ [.last] ∧ f.channel.sending = false ∧
      f.sentBytes = f.accepted := by
  cases hm with
  | taken | shut | handed | lost => exact .inl rfl
  | ended hr hh hc hsend =>
    cases severed with
    | true => exact .inl (by simp)
    | false =>
      have hw := hs.whole hr
      exact .inr (.inr ⟨rfl, rfl, hsend, by simpa [Whole, hh, hc] using hw⟩)
  | @sent n hn hsev =>
    exact .inr (.inl ⟨n, _, rfl, rfl, hn, by rw [List.length_take]; exact Nat.min_le_left ..⟩)

/-- After the end nothing is sent and nothing is accepted. -/
theorem Move.of_last (hm : Move severed f e f') (hs : f.Sound) (hl : .last ∈ f.sent) :
    f'.sent = f.sent ∧ f'.accepted = f.accepted := by
  obtain ⟨hr, hsend, _⟩ := hs.last hl
  cases hm with
  | taken hsend' =>
    rw [hsend] at hsend'
    cases hsend'
  | shut | handed | lost => exact ⟨rfl, rfl⟩
  | ended hr' =>
    rw [hr] at hr'
    cases hr'
  | sent hn =>
    rw [(hs.idle hr).1, List.take_nil] at hn
    exact absurd rfl hn

theorem Move.sending (hm : Move severed f e f') :
    f'.channel.sending = f.channel.sending ∨
      e = .closeWrite ∨ e = .close ∨ e = .closeTransport := by
  cases hm with
  | shut he => exact .inr he
  | taken | handed | ended | sent | lost => exact .inl rfl

end Feed

namespace MuxTunnel

theorem closeWrite_channel (t : MuxTunnel) (c : Channel) :
    (t.closeWrite c).2 = c ∨ (t.closeWrite c).2 = c.close := by
  unfold closeWrite
  split
  · exact .inl rfl
  · exact .inr rfl

theorem close_channel (t : MuxTunnel) (c : Channel) (p : Pool) :
    (t.close c p).2.1 = (t.closeWrite c).2 := by
  unfold close
  cases t.lease <;> rfl

/-- The transport is closed by its sole holder, with the tunnel; else nothing changes. -/
theorem closeTransport_cases (t : MuxTunnel) (c : Channel) (p : Pool) :
    (t.closeTransport c p).2 = (t, c, p) ∨
      ∃ g, t.lease = some g ∧ p.ledger.isSole g = true ∧
        (t.closeTransport c p).2 = t.close c { p with ledger := p.ledger.close g } := by
  unfold closeTransport
  cases t.lease with
  | none => exact .inl rfl
  | some g =>
    dsimp only
    by_cases hs : p.ledger.isSole g = true
    · exact .inr ⟨g, rfl, hs, by rw [if_pos hs]⟩
    · exact .inl (by rw [if_neg hs])

theorem closeWrite_tied {t : MuxTunnel} {c : Channel} (h : t.writeClosed = !c.sending) :
    (t.closeWrite c).1.writeClosed = true ∧ (t.closeWrite c).2.sending = false := by
  unfold closeWrite
  split
  · rename_i hw
    exact ⟨hw, by simpa [hw] using h⟩
  · exact ⟨rfl, rfl⟩

theorem close_tied {t : MuxTunnel} {c : Channel} (h : t.writeClosed = !c.sending) (p : Pool) :
    (t.close c p).1.writeClosed = true ∧ (t.close c p).2.1.sending = false := by
  rw [close_channel]
  refine ⟨?_, (closeWrite_tied h).2⟩
  unfold close
  cases t.lease <;> rfl

theorem write_full {t : MuxTunnel} {bs : Bytes} {c : Channel} (h : (t.write bs c).1 = .full) :
    t.write bs c = (.full, c) := by
  unfold write at h ⊢
  split
  · rename_i hw
    rw [if_pos hw] at h
    cases h
  · rename_i hw
    rw [if_neg hw] at h
    unfold Channel.offer at h ⊢
    grind

end MuxTunnel

namespace Upload

/-- Every event leaves the bytes under way as they are, or is a move of theirs. -/
theorem feed_step (u : Upload) (e : UploadEvent) :
    (u.step e).feed = u.feed ∨ Feed.Move u.severed u.feed e (u.step e).feed := by
  have shut {c : Channel} (he : e = .closeWrite ∨ e = .close ∨ e = .closeTransport)
      (hc : c = u.feed.channel ∨ c = u.feed.channel.close) :
      { u.feed with channel := c } = u.feed ∨
        Feed.Move u.severed u.feed e { u.feed with channel := c } := by
    rcases hc with rfl | rfl
    · exact .inl rfl
    · exact .inr (.shut he)
  cases e with
  | write bs => exact Feed.write_move u.mux bs
  | closeWrite => exact shut (.inl rfl) (u.mux.closeWrite_channel _)
  | close =>
    refine shut (.inr (.inl rfl)) ?_
    rw [MuxTunnel.close_channel]
    exact u.mux.closeWrite_channel _
  | closeTransport =>
    refine shut (.inr (.inr rfl)) ?_
    rcases u.mux.closeTransport_cases u.feed.channel u.pool with h | ⟨_, _, _, h⟩
    · exact .inl (by rw [h])
    · rw [h, MuxTunnel.close_channel]
      exact u.mux.closeWrite_channel _
  | received => exact Feed.receive_move
  | granted n =>
    rw [step]
    split
    · exact .inl rfl
    · rename_i hs
      exact Feed.grant_move n (by simpa using hs)
  | halted => exact Feed.halt_move
  | closeRead => exact .inl rfl
  | joined | parted | carried =>
    rw [step]
    split <;> exact .inl rfl

/-- A half is closed for the caller as it is for the pump. -/
def Tied (u : Upload) : Prop := u.mux.writeClosed = !u.feed.channel.sending

theorem Tied.step {u : Upload} (ht : u.Tied) (e : UploadEvent) : (u.step e).Tied := by
  have stays (hmux : (u.step e).mux.writeClosed = u.mux.writeClosed)
      (hne : e ≠ .closeWrite ∧ e ≠ .close ∧ e ≠ .closeTransport) : (u.step e).Tied := by
    have hsame : (u.step e).feed.channel.sending = u.feed.channel.sending := by
      rcases feed_step u e with h | hm
      · rw [h]
      · exact hm.sending.resolve_right (by simp [hne])
    rw [Tied, hmux, hsame]
    exact ht
  have closed {w s : Bool} (h : w = true ∧ s = false) : w = !s := by rw [h.1, h.2]; rfl
  cases e with
  | closeWrite => exact closed (MuxTunnel.closeWrite_tied ht)
  | close => exact closed (MuxTunnel.close_tied ht u.pool)
  | closeTransport =>
    rcases u.mux.closeTransport_cases u.feed.channel u.pool with h | ⟨_, _, _, h⟩
    · simpa [Tied, Upload.step, h] using ht
    · simp only [Tied, Upload.step, h]
      exact closed (MuxTunnel.close_tied ht _)
  | write | received | halted | closeRead => exact stays rfl (by simp)
  | granted | joined | parted | carried =>
    refine stays ?_ (by simp)
    rw [Upload.step]
    split <;> rfl

theorem run_concat (others : Nat) (es : List UploadEvent) (e : UploadEvent) :
    run others (es ++ [e]) = (run others es).step e := by
  simp [run, after]

theorem sound_run (others : Nat) (es : List UploadEvent) : (run others es).feed.Sound := by
  induction es using List.reverseRecOn with
  | nil => exact Feed.sound_start
  | append_singleton es e ih =>
    rw [run_concat]
    rcases feed_step (run others es) e with h | hm
    · exact h ▸ ih
    · exact hm.sound ih

theorem whole_run (others : Nat) {es : List UploadEvent} (hes : .halted ∉ es) :
    (run others es).feed.Whole := by
  induction es using List.reverseRecOn with
  | nil => rfl
  | append_singleton es e ih =>
    rw [List.mem_append, List.mem_singleton, not_or] at hes
    rw [run_concat]
    rcases feed_step (run others es) e with h | hm
    · exact h ▸ ih hes.1
    · exact hm.whole (Ne.symm hes.2) (ih hes.1)

theorem tied_run (others : Nat) (es : List UploadEvent) : (run others es).Tied := by
  induction es using List.reverseRecOn with
  | nil => rfl
  | append_singleton es e ih =>
    rw [run_concat]
    exact ih.step e

/-- However writes, the pump, flow control and the closing of the tunnel interleave: what was sent
is a beginning of what was accepted, in order, and with what the pump has in hand and what waits it
is all of it, unless the stream was halted. No data exceeds what flow control granted, and none is
empty; the end is sent after the writing half was closed and all was sent, and nothing after it. At
most eight chunks wait, of 16384 bytes at most, and a write that has to wait changes nothing. -/
theorem run_in_order (others : Nat) (es : List UploadEvent) :
    let u := run others es
    let f := u.feed
    f.sentBytes <+: f.accepted ∧
    (.halted ∉ es → f.sentBytes ++ f.pump.hand ++ f.channel.chunks.flatten = f.accepted) ∧
    (∀ e, (u.step e).feed.sent = f.sent ∨
      (∃ n bs, e = .granted n ∧ (u.step e).feed.sent = f.sent ++ [.data bs] ∧ bs ≠ [] ∧
        bs.length ≤ n) ∨
      e = .received ∧ (u.step e).feed.sent = f.sent ++ [.last] ∧ u.mux.writeClosed = true ∧
        f.sentBytes = f.accepted) ∧
    (.last ∈ f.sent → u.mux.writeClosed = true ∧ f.sentBytes = f.accepted ∧
      ∀ e, (u.step e).feed.sent = f.sent ∧ (u.step e).feed.accepted = f.accepted) ∧
    f.channel.chunks.length ≤ 8 ∧
    (∀ bs ∈ f.channel.chunks, 1 ≤ bs.length ∧ bs.length ≤ 16384) ∧
    ∀ bs, (u.step (.write bs)).feed.accepted =
        f.accepted ++ bs.take (u.mux.write bs f.channel).1.size ∧
      ((u.mux.write bs f.channel).1 = .full → u.step (.write bs) = u) := by
  intro u f
  have hs : f.Sound := sound_run others es
  have hclosed (h : f.channel.sending = false) : u.mux.writeClosed = true := by
    have ht : u.Tied := tied_run others es
    rw [Tied, h] at ht
    exact ht
  refine ⟨hs.ordered, whole_run others, fun e => ?_, fun hl => ?_, hs.waiting, hs.chunks,
    fun bs => ⟨rfl, fun hfull => ?_⟩⟩
  · rcases feed_step u e with h | hm
    · exact .inl (congrArg Feed.sent h)
    · rcases hm.sent_cases hs with h | h | ⟨he, hsent, hsend, hall⟩
      · exact .inl h
      · exact .inr (.inl h)
      · exact .inr (.inr ⟨he, hsent, hclosed hsend, hall⟩)
  · obtain ⟨_, hsend, hall⟩ := hs.last hl
    refine ⟨hclosed hsend, hall, fun e => ?_⟩
    rcases feed_step u e with h | hm
    · rw [h]
      exact ⟨rfl, rfl⟩
    · exact hm.of_last hs hl
  · have hw : u.mux.write bs u.feed.channel = (.full, u.feed.channel) :=
      MuxTunnel.write_full hfull
    simp [step, Feed.write, hw, Offer.size]

/-- Two writes of which the first goes in two parts, with a wake-up for nothing before. -/
def uploadRun : List UploadEvent :=
  [.write [1, 2, 3], .write [4], .received, .granted 0, .granted 2, .closeWrite, .granted 5,
    .received, .granted 1, .received]

theorem run_in_order_closed :
    (run 1 uploadRun).feed.sent = [.data [1, 2], .data [3], .data [4], .last] ∧
      (run 1 uploadRun).mux.writeClosed = true ∧
      (run 1 uploadRun).feed.sentBytes ++ (run 1 uploadRun).feed.pump.hand ++
        (run 1 uploadRun).feed.channel.chunks.flatten = (run 1 uploadRun).feed.accepted := by
  have hsent : (run 1 uploadRun).feed.sent = [.data [1, 2], .data [3], .data [4], .last] := by
    decide
  obtain ⟨_, hwhole, _, hlast, _⟩ := run_in_order 1 uploadRun
  exact ⟨hsent, (hlast (by rw [hsent]; decide)).1, hwhole (by decide)⟩

end Upload
end TunnelDial
