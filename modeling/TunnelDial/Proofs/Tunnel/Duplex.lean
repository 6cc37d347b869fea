import Mathlib.Data.List.Induction
import TunnelDial.Proofs.Lease.Holding
import TunnelDial.Proofs.Stream.Transcript
import TunnelDial.Proofs.Tunnel.Upload
import TunnelDial.Stream.Script
import TunnelDial.Tunnel.Duplex

/-! The two halves of a multiplexed tunnel. Each closes once and for all, and neither takes notice
of the other; what was written before the end is received, and then the end. Only a tunnel without a
lease has both halves closed by necessity, and only the sole holder closes the transport. -/
namespace TunnelDial

namespace MuxTunnel

theorem closeWrite_eq (t : MuxTunnel) (c : Channel) :
    (t.closeWrite c).1 = { t with writeClosed := true } := by
  unfold closeWrite
  split
  · rename_i hw
    rw [← hw]
  · rfl

theorem close_eq (t : MuxTunnel) (c : Channel) (p : Pool) :
    (t.close c p).1 = ⟨none, true, true⟩ := by
  unfold close
  split <;> rfl

end MuxTunnel

namespace Duplex

section
variable {σ : Type} {d : Duplex σ}

/-- The flags of the halves say what the tunnel still has: a closed half has given its resource up,
and only with both halves the lease goes. -/
structure Sound (d : Duplex σ) : Prop where
  tied : d.mux.writeClosed = !d.channel.sending
  halved : d.mux.readClosed = d.response.isNone
  leased : d.mux.lease = none → d.mux.writeClosed = true ∧ d.mux.readClosed = true
  held : d.pool.HeldBy d.mux.lease d.others

theorem sound_start (others : Nat) (s : σ) : (start others s).Sound where
  tied := rfl
  halved := rfl
  leased := nofun
  held := Pool.heldBy_start others

theorem closeWrite_mux (d : Duplex σ) :
    d.closeWrite.mux = { d.mux with writeClosed := true } := MuxTunnel.closeWrite_eq ..

theorem close_mux (d : Duplex σ) : d.close.mux = ⟨none, true, true⟩ := MuxTunnel.close_eq ..

theorem closeWrite_channel (d : Duplex σ) :
    d.closeWrite.channel = d.channel ∨ d.closeWrite.channel = d.channel.close :=
  MuxTunnel.closeWrite_channel ..

theorem close_channel (d : Duplex σ) : d.close.channel = d.closeWrite.channel :=
  MuxTunnel.close_channel ..

theorem Sound.closeWrite (hs : d.Sound) : d.closeWrite.Sound := by
  have htied := MuxTunnel.closeWrite_tied hs.tied
  have hmux := closeWrite_mux d
  refine ⟨?_, ?_, fun hl => ⟨htied.1, ?_⟩, ?_⟩
  · change (d.mux.closeWrite d.channel).1.writeClosed = !(d.mux.closeWrite d.channel).2.sending
    rw [htied.1, htied.2]
    rfl
  · rw [hmux]
    exact hs.halved
  · rw [hmux] at hl ⊢
    exact (hs.leased hl).2
  · rw [hmux]
    exact hs.held

theorem Sound.close (hs : d.Sound) : d.close.Sound := by
  have hmux := close_mux d
  have htied := MuxTunnel.close_tied hs.tied d.pool
  refine ⟨?_, ?_, fun _ => ?_, ?_⟩
  · change (d.mux.close d.channel d.pool).1.writeClosed =
      !(d.mux.close d.channel d.pool).2.1.sending
    rw [htied.1, htied.2]
    rfl
  · rw [hmux]
    rfl
  · rw [hmux]
    exact ⟨rfl, rfl⟩
  · rw [hmux]
    exact hs.held.close d.channel

/-- Closing the transport fails without any effect, or it is to close the tunnel as the only
holder. -/
theorem Sound.closeTransport (hs : d.Sound) :
    d.closeTransport =
      if d.mux.lease = none then (.error MuxTunnel.alreadyClosed, d)
      else if d.others = 0 then (.ok (), d.close)
      else (.error MuxTunnel.sharedTransport, d) := by
  unfold Duplex.closeTransport
  rcases hs.held.closeTransport d.channel with ⟨hl, h⟩ | ⟨hl, ho, h⟩ | ⟨hl, ho, h⟩
  · rw [h, if_pos hl]
  · rw [h, if_neg (Option.isSome_iff_ne_none.mp hl), if_neg ho]
  · rw [h, if_neg (Option.isSome_iff_ne_none.mp hl), if_pos ho]
    rfl

/-- The sole holder closes the transport, which was open; nobody else does. -/
theorem Sound.closeTransport_severed (hs : d.Sound) (hl : d.mux.lease.isSome = true) :
    d.severed = false ∧ (d.closeTransport.2.severed = true ↔ d.others = 0) := by
  have hopen : d.severed = false := by
    rw [← Bool.not_eq_true, severed, hs.held.closed_iff]
    rintro ⟨_, hn⟩
    rw [hn] at hl
    cases hl
  refine ⟨hopen, ?_⟩
  rw [hs.closeTransport, if_neg (Option.isSome_iff_ne_none.mp hl)]
  by_cases ho : d.others = 0
  · rw [if_pos ho]
    exact ⟨fun _ => ho, fun _ => (hs.held.close d.channel).closed_iff.mpr ⟨ho, rfl⟩⟩
  · rw [if_neg ho]
    dsimp only
    rw [hopen]
    exact ⟨nofun, fun h => absurd h ho⟩

theorem still_of_closeWrite {c : Channel} (h : c = d.channel ∨ c = d.channel.close) :
    c.chunks = d.channel.chunks ∧ c.receiving = d.channel.receiving := by
  rcases h with rfl | rfl <;> exact ⟨rfl, rfl⟩

/-- What one event does to the chunks under way: by it these are accepted, and the receiver gets
those. -/
inductive Passing (d : Duplex σ) : DuplexEvent → Duplex σ → List Bytes → List Receipt → Prop
  | taken {now bs chunk d'} : d.mux.writeClosed = false → d.channel.receiving = true →
      d'.channel = { d.channel with chunks := d.channel.chunks ++ [chunk] } →
      Passing d (.use (.write now bs)) d' [chunk] []
  | handed {chunk rest d'} : d.channel.receiving = true → d.channel.chunks = chunk :: rest →
      d'.channel = { d.channel with chunks := rest } → Passing d .received d' [] [.chunk chunk]
  | ended {d'} : d.channel.receiving = true → d.channel.chunks = [] → d.mux.writeClosed = true →
      d'.channel = d.channel → Passing d .received d' [] [.ended]
  | idle {d'} : d.mux.writeClosed = false → d'.channel = d.channel →
      Passing d .received d' [] [.nothing]
  | absent {d'} : d.channel.receiving = false → d'.channel = d.channel →
      Passing d .received d' [] []
  | lost {d'} : d'.channel.receiving = false → Passing d .abandoned d' [] []
  | still {e d'} : e ≠ .received → e ≠ .abandoned → d'.channel.chunks = d.channel.chunks →
      d'.channel.receiving = d.channel.receiving → Passing d e d' [] []

theorem Sound.passing_receive (hs : d.Sound) :
    Passing d .received d.receive.2 (chunkOf (.received, d.receive.1))
      (receiptOf (.received, d.receive.1)) := by
  unfold Duplex.receive
  by_cases hr : d.channel.receiving = true
  · rw [if_pos hr, Channel.receive]
    cases hc : d.channel.chunks with
    | cons chunk rest => exact .handed hr hc rfl
    | nil =>
      cases hw : d.mux.writeClosed with
      | true =>
        have hsend : d.channel.sending = false := by simpa [hw] using hs.tied
        rw [hsend]
        exact .ended hr hc hw rfl
      | false =>
        have hsend : d.channel.sending = true := by simpa [hw] using hs.tied
        rw [hsend]
        exact .idle hw rfl
  · rw [if_neg hr]
    exact .absent (by simpa using hr) rfl

/-- What was received is a beginning of what was accepted; while somebody receives, the rest is
under way, and after the end there is no rest. -/
structure Carried (accepted : List Bytes) (got : List Receipt) (d : Duplex σ) : Prop where
  whole : d.channel.receiving = true → got.flatMap Receipt.chunks ++ d.channel.chunks = accepted
  ordered : got.flatMap Receipt.chunks <+: accepted
  ended : .ended ∈ got → d.mux.writeClosed = true ∧ got.flatMap Receipt.chunks = accepted

theorem Passing.carried {d' : Duplex σ} {e : DuplexEvent} {now accepted : List Bytes}
    {rs got : List Receipt} (hp : Passing d e d' now rs) (hc : Carried accepted got d)
    (hclosed : d.mux.writeClosed = true → d'.mux.writeClosed = true) :
    Carried (accepted ++ now) (got ++ rs) d' := by
  have unended (hw : d.mux.writeClosed = false) : .ended ∉ got := fun hm => by
    rw [(hc.ended hm).1] at hw
    cases hw
  -- an event by which neither chunks nor the receiver change
  have same (hchunks : d'.channel.receiving = true →
      d.channel.receiving = true ∧ d'.channel.chunks = d.channel.chunks)
      (hrs : rs.flatMap Receipt.chunks = []) (hend : .ended ∉ rs) :
      Carried (accepted ++ []) (got ++ rs) d' := by
    rw [List.append_nil]
    refine ⟨fun hr => ?_, ?_, fun hm => ?_⟩
    · rw [List.flatMap_append, hrs, List.append_nil, (hchunks hr).2]
      exact hc.whole (hchunks hr).1
    · rw [List.flatMap_append, hrs, List.append_nil]
      exact hc.ordered
    · rw [List.flatMap_append, hrs, List.append_nil]
      obtain ⟨hw, hall⟩ := hc.ended ((List.mem_append.mp hm).resolve_right hend)
      exact ⟨hclosed hw, hall⟩
  cases hp with
  | taken hw hr hchannel =>
    have hwhole := hc.whole hr
    rw [List.append_nil]
    refine ⟨fun _ => ?_, hc.ordered.trans (List.prefix_append ..), fun hm => absurd hm (unended hw)⟩
    rw [hchannel, ← hwhole, List.append_assoc]
  | @handed chunk rest _ hr hchunks hchannel =>
    have hwhole := hc.whole hr
    have hall : (got ++ [Receipt.chunk chunk]).flatMap Receipt.chunks ++ rest = accepted := by
      rw [← hwhole, hchunks]
      simp [Receipt.chunks]
    rw [List.append_nil]
    refine ⟨fun _ => by rw [hchannel]; exact hall, ⟨rest, hall⟩, fun hm => ?_⟩
    -- after the end there would be no chunk left to receive
    have hm' : .ended ∈ got := by simpa using hm
    have hnone := (hc.ended hm').2
    rw [← hwhole, hchunks] at hnone
    simp at hnone
  | ended hr hchunks hw hchannel =>
    have hwhole := hc.whole hr
    rw [hchunks, List.append_nil] at hwhole
    have hall : (got ++ [Receipt.ended]).flatMap Receipt.chunks = accepted := by
      rw [List.flatMap_append, hwhole]
      exact List.append_nil _
    rw [List.append_nil]
    refine ⟨fun _ => ?_, hall ▸ List.prefix_refl _, fun _ => ⟨hclosed hw, hall⟩⟩
    rw [hchannel, hchunks, List.append_nil, hall]
  | idle hw hchannel => exact same (fun hr => by rw [hchannel] at hr ⊢; exact ⟨hr, rfl⟩) rfl nofun
  | absent _ hchannel =>
    exact same (fun hr => by rw [hchannel] at hr ⊢; exact ⟨hr, rfl⟩) rfl nofun
  | lost hlost => exact same (fun hr => by rw [hlost] at hr; cases hr) rfl nofun
  | still _ _ hchunks hreceiving => exact same (fun hr => ⟨hreceiving ▸ hr, hchunks⟩) rfl nofun

variable [ByteStream σ]

theorem Sound.step (hs : d.Sound) (e : DuplexEvent) : (d.step e).2.Sound := by
  cases e with
  | use u =>
    cases u with
    | read now room =>
      change (d.read now room).2.Sound
      unfold Duplex.read
      cases hr : d.response with
      | none => exact hs
      | some s => exact ⟨hs.tied, by rw [hs.halved, hr]; rfl, hs.leased, hs.held⟩
    | write now bs =>
      refine ⟨?_, hs.halved, hs.leased, hs.held⟩
      change d.mux.writeClosed = !(d.mux.write bs d.channel).2.sending
      rcases d.mux.write_cases bs d.channel with ⟨_, _, _, _, _, h⟩ | ⟨_, h⟩
      · rw [h]
        exact hs.tied
      · rw [h]
        exact hs.tied
    | flush now => exact hs
    | shutdown now => exact hs.closeWrite
  | closeWrite => exact hs.closeWrite
  | closeRead => exact ⟨hs.tied, rfl, fun hl => ⟨(hs.leased hl).1, rfl⟩, hs.held⟩
  | close => exact hs.close
  | closeTransport =>
    change d.closeTransport.2.Sound
    rw [hs.closeTransport]
    split
    · exact hs
    · split
      · exact hs.close
      · exact hs
  | received =>
    change d.receive.2.Sound
    unfold Duplex.receive
    split
    · refine ⟨?_, hs.halved, hs.leased, hs.held⟩
      dsimp only
      rw [Channel.receive]
      split <;> exact hs.tied
    · exact hs
  | abandoned => exact ⟨hs.tied, hs.halved, hs.leased, hs.held⟩
  | joined =>
    change d.join.Sound
    unfold Duplex.join
    split
    · rename_i hpos
      exact ⟨hs.tied, hs.halved, hs.leased, hs.held.joined (by simpa using hpos)⟩
    · exact hs
  | parted =>
    change d.part.Sound
    unfold Duplex.part
    split
    · exact ⟨hs.tied, hs.halved, hs.leased, hs.held.parted ‹_›⟩
    · exact hs

theorem sound_run (others : Nat) (s : σ) (es : List DuplexEvent) : (run others s es).2.Sound :=
  transcript_keeps (P := Sound) (fun _ e hs => hs.step e) (sound_start others s) es

/-- An event closes the halves that it ends, and no other; what closing the transport does depends
on the other holders. -/
theorem flags_step (d : Duplex σ) {e : DuplexEvent} (he : e ≠ .closeTransport) :
    (d.step e).2.mux.writeClosed = (d.mux.writeClosed || e.endsWriting) ∧
      (d.step e).2.mux.readClosed = (d.mux.readClosed || e.endsReading) := by
  have same {d' : Duplex σ} (hm : d'.mux = d.mux) :
      d'.mux.writeClosed = (d.mux.writeClosed || false) ∧
        d'.mux.readClosed = (d.mux.readClosed || false) := by simp [hm]
  have ended : d.closeWrite.mux.writeClosed = (d.mux.writeClosed || true) ∧
      d.closeWrite.mux.readClosed = (d.mux.readClosed || false) := by simp [closeWrite_mux]
  cases e with
  | use u =>
    cases u with
    | read now room =>
      refine same ?_
      change (d.read now room).2.mux = d.mux
      unfold Duplex.read
      split <;> rfl
    | write | flush => exact same rfl
    | shutdown => exact ended
  | closeWrite => exact ended
  | closeRead =>
    change d.mux.writeClosed = (d.mux.writeClosed || false) ∧ true = (d.mux.readClosed || true)
    simp
  | close =>
    change d.close.mux.writeClosed = (d.mux.writeClosed || true) ∧
      d.close.mux.readClosed = (d.mux.readClosed || true)
    simp [close_mux]
  | closeTransport => exact absurd rfl he
  | received =>
    refine same ?_
    change d.receive.2.mux = d.mux
    unfold Duplex.receive
    split <;> rfl
  | abandoned => exact same rfl
  | joined =>
    refine same ?_
    change d.join.mux = d.mux
    unfold Duplex.join
    split <;> rfl
  | parted =>
    refine same ?_
    change d.part.mux = d.mux
    unfold Duplex.part
    split <;> rfl

theorem Sound.closed_step (hs : d.Sound) (e : DuplexEvent) :
    (d.mux.writeClosed = true → (d.step e).2.mux.writeClosed = true) ∧
      (d.mux.readClosed = true → (d.step e).2.mux.readClosed = true) := by
  by_cases he : e = .closeTransport
  · subst he
    change (d.mux.writeClosed = true → d.closeTransport.2.mux.writeClosed = true) ∧
      (d.mux.readClosed = true → d.closeTransport.2.mux.readClosed = true)
    rw [hs.closeTransport]
    split
    · exact ⟨id, id⟩
    · split
      · simp [close_mux]
      · exact ⟨id, id⟩
  · obtain ⟨hw, hr⟩ := flags_step d he
    rw [hw, hr]
    simp +contextual

/-- A closed half stays closed. -/
theorem Sound.closed_after (hs : d.Sound) (es : List DuplexEvent) :
    let d' := (transcript Duplex.step d es).2
    (d.mux.writeClosed = true → d'.mux.writeClosed = true) ∧
      (d.mux.readClosed = true → d'.mux.readClosed = true) := by
  refine (transcript_keeps (P := fun d' : Duplex σ => d'.Sound ∧
    (d.mux.writeClosed = true → d'.mux.writeClosed = true) ∧
      (d.mux.readClosed = true → d'.mux.readClosed = true)) ?_ ⟨hs, id, id⟩ es).2
  rintro d' e ⟨hs', hw, hr⟩
  obtain ⟨hw', hr'⟩ := hs'.closed_step e
  exact ⟨hs'.step e, fun h => hw' (hw h), fun h => hr' (hr h)⟩

theorem passing_write (d : Duplex σ) (now : Nat) (bs : Bytes) :
    let r := d.step (.use (.write now bs))
    Passing d (.use (.write now bs)) r.2 (chunkOf (.use (.write now bs), r.1))
      (receiptOf (.use (.write now bs), r.1)) := by
  have hanswer : (d.step (.use (.write now bs))).1 =
      .use (.write (d.mux.write bs d.channel).1.answer) := rfl
  have hchannel : (d.step (.use (.write now bs))).2.channel = (d.mux.write bs d.channel).2 := rfl
  dsimp only
  rw [hanswer]
  rcases d.mux.write_cases bs d.channel with ⟨hw, _, hr, _, hne, h⟩ | ⟨hsize, h⟩
  · have hlen : (bs.take Channel.chunkLimit).length ≠ 0 := by
      have hpos := List.length_pos_iff.mpr hne
      rw [List.length_take, Channel.chunkLimit]
      omega
    have htake : bs.take (bs.take Channel.chunkLimit).length = bs.take Channel.chunkLimit := by
      rw [List.length_take, List.take_eq_take_iff]
      omega
    rw [h] at hchannel ⊢
    simp only [chunkOf, Offer.answer, if_neg hlen, htake]
    exact .taken hw hr hchannel
  · have hnone : chunkOf (.use (.write now bs),
        .use (.write (d.mux.write bs d.channel).1.answer)) = [] := by
      cases ho : (d.mux.write bs d.channel).1 with
      | taken n =>
        rw [ho] at hsize
        exact if_pos hsize
      | full | broken => rfl
    rw [hnone]
    rw [h] at hchannel
    exact .still (fun he => by cases he) (fun he => by cases he) (congrArg _ hchannel)
      (congrArg _ hchannel)

theorem Sound.passing_step (hs : d.Sound) (e : DuplexEvent) :
    Passing d e (d.step e).2 (chunkOf (e, (d.step e).1)) (receiptOf (e, (d.step e).1)) := by
  have shut := still_of_closeWrite (closeWrite_channel d)
  have gone := still_of_closeWrite (close_channel d ▸ closeWrite_channel d)
  cases e with
  | use u =>
    cases u with
    | read now room =>
      have hchannel : (d.read now room).2.channel = d.channel := by
        unfold Duplex.read
        split <;> rfl
      exact .still nofun nofun (congrArg _ hchannel) (congrArg _ hchannel)
    | write now bs => exact passing_write d now bs
    | flush now => exact .still nofun nofun rfl rfl
    | shutdown now => exact .still nofun nofun shut.1 shut.2
  | closeWrite => exact .still nofun nofun shut.1 shut.2
  | closeRead => exact .still nofun nofun rfl rfl
  | close => exact .still nofun nofun gone.1 gone.2
  | closeTransport =>
    change Passing d .closeTransport d.closeTransport.2 [] []
    rw [hs.closeTransport]
    split
    · exact .still nofun nofun rfl rfl
    · split
      · exact .still nofun nofun gone.1 gone.2
      · exact .still nofun nofun rfl rfl
  | received => exact hs.passing_receive
  | abandoned => exact .lost rfl
  | joined =>
    have hchannel : d.join.channel = d.channel := by
      unfold Duplex.join
      split <;> rfl
    exact .still nofun nofun (congrArg _ hchannel) (congrArg _ hchannel)
  | parted =>
    have hchannel : d.part.channel = d.channel := by
      unfold Duplex.part
      split <;> rfl
    exact .still nofun nofun (congrArg _ hchannel) (congrArg _ hchannel)

end

section
variable {σ : Type} [ByteStream σ] {d d' : Duplex σ}

theorem carried_run (others : Nat) (s : σ) (es : List DuplexEvent) :
    let r := run others s es
    Carried (acceptedChunks r.1) (receipts r.1) r.2 := by
  induction es using List.reverseRecOn with
  | nil => exact ⟨fun _ => rfl, List.prefix_refl [], nofun⟩
  | append_singleton es e ih =>
    have hs := sound_run others s es
    have hnext := (hs.passing_step e).carried ih (hs.closed_after [e]).1
    have hconcat : run others s (es ++ [e]) = _ := transcript_concat (start others s) es e
    dsimp only
    rw [hconcat]
    simpa [acceptedChunks, receipts, run] using hnext

/-- Once the writing half is closed, the receiver gets the chunks under way and then the end, as
often as it asks. -/
theorem Sound.receipts_after (hs : d.Sound) (hw : d.mux.writeClosed = true)
    (hr : d.channel.receiving = true) {es : List DuplexEvent} (hes : .abandoned ∉ es) :
    receipts (transcript Duplex.step d es).1 =
      (d.channel.chunks.map Receipt.chunk).take (es.count .received) ++
        List.replicate (es.count .received - d.channel.chunks.length) .ended := by
  induction es generalizing d with
  | nil => simp [receipts]
  | cons e es ih =>
    rw [List.mem_cons, not_or] at hes
    have hw' := (hs.closed_after [e]).1 hw
    have hlog : receipts (transcript Duplex.step d (e :: es)).1 =
        receiptOf (e, (d.step e).1) ++ receipts (transcript Duplex.step (d.step e).2 es).1 := by
      simp [receipts, transcript_cons]
    rw [hlog]
    have hnext := ih (hs.step e) hw'
    have hp := hs.passing_step e
    generalize chunkOf (e, (d.step e).1) = now at hp
    generalize receiptOf (e, (d.step e).1) = rs at hp
    have unclosed {P : Prop} (hn : d.mux.writeClosed = false) : P := by
      rw [hw] at hn
      cases hn
    cases hp with
    | taken hn => exact unclosed hn
    | idle hn => exact unclosed hn
    | absent hn =>
      rw [hr] at hn
      cases hn
    | lost => exact absurd rfl hes.1
    | handed _ hchunks hchannel =>
      rw [hchannel] at hnext
      rw [hnext hr hes.2, hchunks, List.count_cons_self]
      simp
    | ended _ hchunks _ hchannel =>
      rw [hchannel, hchunks] at hnext
      rw [hnext hr hes.2, hchunks, List.count_cons_self]
      simp [List.replicate_succ]
    | still hne _ hchunks hreceiving =>
      rw [hnext (hreceiving.trans hr) hes.2, hchunks, List.count_cons_of_ne hne]
      rfl

/-- All of a tunnel but what only its reading half needs. -/
def writingSide (d : Duplex σ) : Option Nat × Bool × Channel × Pool × Nat :=
  (d.mux.lease, d.mux.writeClosed, d.channel, d.pool, d.others)

/-- All of a tunnel but what only its writing half needs. -/
def readingSide (d : Duplex σ) : Option Nat × Bool × Option σ × Pool × Nat :=
  (d.mux.lease, d.mux.readClosed, d.response, d.pool, d.others)

/-- Events that concern both halves or the writing half are answered by the writing side. -/
theorem Sound.writingSide_step (hs : d.Sound) (hs' : d'.Sound)
    (h : d.writingSide = d'.writingSide) {e : DuplexEvent} (he : e.isReading = false) :
    (d.step e).1 = (d'.step e).1 ∧ (d.step e).2.writingSide = (d'.step e).2.writingSide := by
  have htransport := hs.closeTransport
  have htransport' := hs'.closeTransport
  obtain ⟨⟨lease, w, _⟩, c, s, p, n⟩ := d
  obtain ⟨⟨_, _, _⟩, _, s', _, _⟩ := d'
  simp only [writingSide, Prod.mk.injEq] at h
  obtain ⟨rfl, rfl, rfl, rfl, rfl⟩ := h
  cases e with
  | use u =>
    cases u with
    | read => cases he
    | write | flush => exact ⟨rfl, rfl⟩
    | shutdown => cases w <;> exact ⟨rfl, rfl⟩
  | closeWrite => cases w <;> exact ⟨rfl, rfl⟩
  | closeRead => cases he
  | close => cases w <;> cases lease <;> exact ⟨rfl, rfl⟩
  | closeTransport =>
    dsimp only [Duplex.step]
    rw [htransport, htransport']
    dsimp only
    split
    · exact ⟨rfl, rfl⟩
    · split
      · cases w <;> cases lease <;> exact ⟨rfl, rfl⟩
      · exact ⟨rfl, rfl⟩
  | received =>
    dsimp only [Duplex.step, Duplex.receive]
    split <;> exact ⟨rfl, rfl⟩
  | abandoned => exact ⟨rfl, rfl⟩
  | joined =>
    dsimp only [Duplex.step, Duplex.join]
    split <;> exact ⟨rfl, rfl⟩
  | parted =>
    dsimp only [Duplex.step, Duplex.part]
    split <;> exact ⟨rfl, rfl⟩

/-- Events that concern both halves or the reading half are answered by the reading side. -/
theorem Sound.readingSide_step (hs : d.Sound) (hs' : d'.Sound)
    (h : d.readingSide = d'.readingSide) {e : DuplexEvent} (he : e.isWriting = false) :
    (d.step e).1 = (d'.step e).1 ∧ (d.step e).2.readingSide = (d'.step e).2.readingSide := by
  have htransport := hs.closeTransport
  have htransport' := hs'.closeTransport
  obtain ⟨⟨lease, w, _⟩, c, s, p, n⟩ := d
  obtain ⟨⟨_, w', _⟩, c', _, _, _⟩ := d'
  simp only [readingSide, Prod.mk.injEq] at h
  obtain ⟨rfl, rfl, rfl, rfl, rfl⟩ := h
  cases e with
  | use u =>
    cases u with
    | read => cases s <;> exact ⟨rfl, rfl⟩
    | write | flush | shutdown => cases he
  | closeRead => exact ⟨rfl, rfl⟩
  | close => cases lease <;> exact ⟨rfl, rfl⟩
  | closeTransport =>
    dsimp only [Duplex.step]
    rw [htransport, htransport']
    dsimp only
    split
    · exact ⟨rfl, rfl⟩
    · split
      · cases lease <;> exact ⟨rfl, rfl⟩
      · exact ⟨rfl, rfl⟩
  | closeWrite | received | abandoned => cases he
  | joined =>
    dsimp only [Duplex.step, Duplex.join]
    split <;> exact ⟨rfl, rfl⟩
  | parted =>
    dsimp only [Duplex.step, Duplex.part]
    split <;> exact ⟨rfl, rfl⟩

theorem writingSide_of_reading (d : Duplex σ) {e : DuplexEvent} (he : e.isReading = true) :
    (d.step e).2.writingSide = d.writingSide := by
  cases e with
  | use u =>
    cases u with
    | read now room =>
      change (d.read now room).2.writingSide = d.writingSide
      unfold Duplex.read
      split <;> rfl
    | write | flush | shutdown => cases he
  | closeRead => rfl
  | closeWrite | close | closeTransport | received | abandoned | joined | parted => cases he

theorem readingSide_of_writing (d : Duplex σ) {e : DuplexEvent} (he : e.isWriting = true) :
    (d.step e).2.readingSide = d.readingSide := by
  have hclosed : d.closeWrite.readingSide = d.readingSide := by
    unfold readingSide
    rw [closeWrite_mux]
    rfl
  cases e with
  | use u =>
    cases u with
    | read => cases he
    | write | flush => rfl
    | shutdown => exact hclosed
  | closeWrite => exact hclosed
  | received =>
    change d.receive.2.readingSide = d.readingSide
    unfold Duplex.receive
    split <;> rfl
  | abandoned => rfl
  | closeRead | close | closeTransport | joined | parted => cases he

/-- A side that answers the events that concern it, and that no other event changes, goes on as if
the other events never happened. -/
theorem run_side {V : Type} {side : Duplex σ → V} {p : DuplexEvent → Bool}
    (hkept : ∀ d d' : Duplex σ, d.Sound → d'.Sound → side d = side d' → ∀ e, p e = true →
      (d.step e).1 = (d'.step e).1 ∧ side (d.step e).2 = side (d'.step e).2)
    (hleft : ∀ (d : Duplex σ) e, p e = false → side (d.step e).2 = side d)
    (others : Nat) (s : σ) (es : List DuplexEvent) :
    (run others s es).1.filter (fun x => p x.1) = (run others s (es.filter p)).1 ∧
      side (run others s es).2 = side (run others s (es.filter p)).2 := by
  have hrun : (run others s es).1.filter (fun x => p x.1) = (run others s (es.filter p)).1 ∧
      (run others s es).2.Sound ∧ (run others s (es.filter p)).2.Sound ∧
        side (run others s es).2 = side (run others s (es.filter p)).2 := by
    refine transcript_filter (R := fun d d' : Duplex σ => d.Sound ∧ d'.Sound ∧ side d = side d')
      ?_ ?_ ⟨sound_start others s, sound_start others s, rfl⟩ es
    · rintro d d' e he ⟨hd, hd', h⟩
      obtain ⟨hanswer, hnext⟩ := hkept d d' hd hd' h e he
      exact ⟨hanswer, hd.step e, hd'.step e, hnext⟩
    · rintro d d' e he ⟨hd, hd', h⟩
      exact ⟨hd.step e, hd', (hleft d e he).trans h⟩
  exact ⟨hrun.1, hrun.2.2.2⟩

theorem run_writing (others : Nat) (s : σ) (es : List DuplexEvent) :
    let alone := run others s (es.filter (!·.isReading))
    (run others s es).1.filter (!·.1.isReading) = alone.1 ∧
      (run others s es).2.writingSide = alone.2.writingSide :=
  run_side (p := fun e => !e.isReading)
    (fun _ _ hd hd' h _ he => hd.writingSide_step hd' h (by simpa using he))
    (fun d _ he => writingSide_of_reading d (by simpa using he)) others s es

theorem run_reading (others : Nat) (s : σ) (es : List DuplexEvent) :
    let alone := run others s (es.filter (!·.isWriting))
    (run others s es).1.filter (!·.1.isWriting) = alone.1 ∧
      (run others s es).2.readingSide = alone.2.readingSide :=
  run_side (p := fun e => !e.isWriting)
    (fun _ _ hd hd' h _ he => hd.readingSide_step hd' h (by simpa using he))
    (fun d _ he => readingSide_of_writing d (by simpa using he)) others s es

/-- Ends of halves: they always succeed. -/
def closings (now : Nat) : List DuplexEvent :=
  [.closeWrite, .closeRead, .close, .use (.shutdown now)]

/-- To end a half succeeds, and to end it again succeeds and does nothing. -/
theorem step_closing (d : Duplex σ) {now : Nat} {e : DuplexEvent} (he : e ∈ closings now) :
    (d.step e).1.isSuccess = true ∧ (d.step e).2.step e = d.step e := by
  have hwrite : d.closeWrite.closeWrite = d.closeWrite := by
    obtain ⟨⟨_, w, _⟩, _, _, _, _⟩ := d
    cases w <;> rfl
  have hclose : d.close.close = d.close := by
    obtain ⟨⟨lease, w, _⟩, _, _, _, _⟩ := d
    cases w <;> cases lease <;> rfl
  simp only [closings, List.mem_cons, List.not_mem_nil, or_false] at he
  rcases he with rfl | rfl | rfl | rfl
  · exact ⟨rfl, congrArg (Prod.mk _) hwrite⟩
  · exact ⟨rfl, rfl⟩
  · exact ⟨rfl, congrArg (Prod.mk _) hclose⟩
  · exact ⟨rfl, congrArg (Prod.mk _) hwrite⟩

theorem write_closed (hw : d.mux.writeClosed = true) (now : Nat) (bs : Bytes) :
    d.step (.use (.write now bs)) = (.use (.write (.fault MuxTunnel.closedWrite)), d) := by
  have hwrite : d.mux.write bs d.channel = (.broken, d.channel) := if_pos hw
  have hstep : d.step (.use (.write now bs)) =
      (.use (.write (d.mux.write bs d.channel).1.answer),
        { d with channel := (d.mux.write bs d.channel).2 }) := rfl
  rw [hstep, hwrite]
  rfl

theorem Sound.read_closed (hs : d.Sound) (hr : d.mux.readClosed = true) (now room : Nat) :
    d.step (.use (.read now room)) = (.use (.read (.ready [])), d) := by
  have hnone : d.response = none := by simpa [hr] using hs.halved
  have hread : d.read now room = (.ready [], d) := by rw [Duplex.read, hnone]
  exact congrArg (fun r => (DuplexAnswer.use (.read r.1), r.2)) hread

/-- Whatever happens to a tunnel, in any order. Each event closes the halves that it ends, and only
a close of the transport may close others. A closed half stays closed. When the writing half is,
every write fails and the receiver, as long as there is one, gets the chunks that were accepted
before, and then the end; when the reading half is, every read finds the end. What concerns only one
half is answered as if the other one were never used, and changes nothing of it. To end a half
succeeds, and so it does again. The lease is gone only when both halves are closed. The transport is
closed by its sole holder; without a lease the tunnel is told that it is closed, and beside other
holders that the transport is shared, and nothing changes. -/
theorem run_halves (others : Nat) (s : σ) (es : List DuplexEvent) :
    let r := run others s es
    let d := r.2
    let writing := run others s (es.filter (!·.isReading))
    let reading := run others s (es.filter (!·.isWriting))
    (∀ e, e ≠ .closeTransport →
      (d.step e).2.mux.writeClosed = (d.mux.writeClosed || e.endsWriting) ∧
        (d.step e).2.mux.readClosed = (d.mux.readClosed || e.endsReading)) ∧
    (∀ fs, let d' := (transcript Duplex.step d fs).2
      (d.mux.writeClosed = true → d'.mux.writeClosed = true) ∧
        (d.mux.readClosed = true → d'.mux.readClosed = true)) ∧
    (d.mux.writeClosed = true → ∀ now bs,
      d.step (.use (.write now bs)) = (.use (.write (.fault MuxTunnel.closedWrite)), d)) ∧
    (receipts r.1).flatMap Receipt.chunks <+: acceptedChunks r.1 ∧
    (d.channel.receiving = true →
      (receipts r.1).flatMap Receipt.chunks ++ d.channel.chunks = acceptedChunks r.1 ∧
      (d.mux.writeClosed = true → ∀ fs, .abandoned ∉ fs →
        receipts (transcript Duplex.step d fs).1 =
          (d.channel.chunks.map Receipt.chunk).take (fs.count .received) ++
            List.replicate (fs.count .received - d.channel.chunks.length) .ended)) ∧
    (.ended ∈ receipts r.1 → d.mux.writeClosed = true ∧
      (receipts r.1).flatMap Receipt.chunks = acceptedChunks r.1) ∧
    (d.mux.readClosed = true → ∀ now room,
      d.step (.use (.read now room)) = (.use (.read (.ready [])), d)) ∧
    (r.1.filter (!·.1.isReading) = writing.1 ∧ d.writingSide = writing.2.writingSide) ∧
    (r.1.filter (!·.1.isWriting) = reading.1 ∧ d.readingSide = reading.2.readingSide) ∧
    (∀ now, ∀ e ∈ closings now, (d.step e).1.isSuccess = true ∧ (d.step e).2.step e = d.step e) ∧
    (d.mux.lease = none → d.mux.writeClosed = true ∧ d.mux.readClosed = true) ∧
    (d.mux.lease = none → d.closeTransport = (.error MuxTunnel.alreadyClosed, d)) ∧
    (d.mux.lease.isSome = true →
      d.severed = false ∧ (d.closeTransport.2.severed = true ↔ d.others = 0) ∧
      (d.others = 0 → d.closeTransport = (.ok (), d.close)) ∧
      (d.others ≠ 0 → d.closeTransport = (.error MuxTunnel.sharedTransport, d))) := by
  intro r d writing reading
  have hs : d.Sound := sound_run others s es
  have hc : Carried (acceptedChunks r.1) (receipts r.1) d := carried_run others s es
  refine ⟨fun e he => flags_step d he, hs.closed_after, write_closed, hc.ordered,
    fun hr => ⟨hc.whole hr, fun hw fs hfs => hs.receipts_after hw hr hfs⟩, hc.ended,
    hs.read_closed, run_writing others s es, run_reading others s es,
    fun now e he => step_closing d he, hs.leased, fun hl => ?_, fun hl => ?_⟩
  · rw [hs.closeTransport, if_pos hl]
  · obtain ⟨hopen, hsevered⟩ := hs.closeTransport_severed hl
    have hne := Option.isSome_iff_ne_none.mp hl
    refine ⟨hopen, hsevered, fun ho => ?_, fun ho => ?_⟩
    · rw [hs.closeTransport, if_neg hne, if_pos ho]
    · rw [hs.closeTransport, if_neg hne, if_neg ho]

end

/-- A tunnel on a transport that somebody else holds at first. Two chunks are under way when its
writing half closes; of the three bytes for its reader two are read. -/
def halfClosedRun : List DuplexEvent :=
  [.use (.write 0 [1, 2]), .use (.write 0 [3]), .closeTransport, .closeWrite, .use (.read 0 2),
    .received, .parted]

theorem run_halves_closed :
    let d := (run 1 (ScriptedStream.ofActs [.data [7, 8, 9]] [] [] []) halfClosedRun).2
    receipts (transcript Duplex.step d [.received, .received, .closeTransport, .received]).1 =
        [.chunk [3], .ended, .ended] ∧
      d.closeTransport.2.severed = true ∧
      (d.read 0 2).1 = .ready [9] ∧
      d.closeRead.step (.use (.read 0 2)) = (.use (.read (.ready [])), d.closeRead) := by
  intro d
  obtain ⟨hflags, _, _, _, hreceived, _, _, _, _, _, _, _, hsole⟩ :=
    run_halves 1 (ScriptedStream.ofActs [.data [7, 8, 9]] [] [] []) halfClosedRun
  obtain ⟨_, _, _, _, _, _, hended, _⟩ :=
    run_halves 1 (ScriptedStream.ofActs [.data [7, 8, 9]] [] [] []) (halfClosedRun ++ [.closeRead])
  exact ⟨(hreceived rfl).2 rfl _ (by decide), (hsole rfl).2.1.mpr rfl, rfl,
    hended (hflags .closeRead nofun).2 0 2⟩

end Duplex
end TunnelDial
