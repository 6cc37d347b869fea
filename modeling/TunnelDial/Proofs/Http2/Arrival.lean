import TunnelDial.Proofs.Http2.Steady
import TunnelDial.Proofs.Http2.Streams
import Mathlib.Data.List.Nodup

/-! What one frame does to the streams of a client: the stream that it is for takes its data, or
fails; the streams beside it keep theirs. -/
namespace TunnelDial.Http2

/-- A client whose streams have numbers of their own, all of them used up. -/
structure Endpoint.IsTidy (e : Endpoint) : Prop where
  isClient : e.isClient = true
  nodup : (e.streams.map (·.id)).Nodup
  used : ∀ s ∈ e.streams, s.id < e.nextId

/-- What becomes of a stream when the frame comes to the endpoint. -/
structure Stream.Hears (e : Endpoint) (f : Frame) (s s' : Stream) : Prop where
  id : s'.id = s.id
  reading : s'.reading = s.reading
  inbox : s'.inbox = s.inbox ++ e.gain s f
  sound : s.recv.IsSound → s'.recv.IsSound
  credit : s.reading = true → s.recv.IsSound →
    s'.recv.available + (e.gain s f).flatten.length = s.recv.available
  ended : s'.recvEnded = true → s.recvEnded = true ∨ e.endsOn s.id f = true
  stays : s.recvEnded = true → s'.recvEnded = true
  failure : s'.failure = s.failure ∨
    ∃ c, s'.failure = some c ∧ (c.reason? = some .noError → f.excuses s.id = true)
  whole : s'.failure = none → s.recvEnded = false → s.reading = true → e.gain s f = f.dataOn s.id
  last : s'.failure = none → e.endsOn s.id f = true → s'.recvEnded = true

/-- What becomes of a client when a frame comes. -/
structure Endpoint.Hears (e : Endpoint) (f : Frame) (e' : Endpoint) : Prop where
  isClient : e'.isClient = e.isClient
  nextId : e'.nextId = e.nextId
  ownWindow : e'.ownWindow = e.ownWindow
  recv : e.recv.IsSound →
    e'.recv.IsSound ∧ e'.recv.available + e'.pending = e.recv.available + e.pending
  streams : List.Forall₂ (Stream.Hears e f) e.streams e'.streams

variable {e e' e'' : Endpoint} {s s' s'' : Stream} {f : Frame}

theorem Endpoint.gain_of_not_on (h : f.dataOn s.id = []) : e.gain s f = [] := by
  rw [Endpoint.gain, h, List.filter_nil]

/-- The frame is about something else, or it comes after the end, or it lets the stream fail. -/
theorem Stream.Steady.hears (h : s.Steady s') (hgain : e.gain s f = [])
    (hlive : s'.failure = none →
      s.recvEnded = true ∨ f.dataOn s.id = [] ∧ e.endsOn s.id f = false) :
    Stream.Hears e f s s' where
  id := h.id
  reading := h.reading
  inbox := by rw [h.inbox, hgain, List.append_nil]
  sound := fun hs => (h.recv hs).1
  credit := fun _ hs => by rw [(h.recv hs).2, hgain]; rfl
  ended := fun hs => .inl (h.recvEnded.symm.trans hs)
  stays := fun hs => h.recvEnded.trans hs
  failure := h.failure.imp_right fun ⟨c, hc, hne⟩ => ⟨c, hc, fun heq => absurd heq hne⟩
  whole := fun hs hopen _ => by
    rcases hlive hs with hended | ⟨hon, -⟩
    · rw [hopen] at hended
      cases hended
    · rw [hgain, hon]
  last := fun hs hends => by
    rcases hlive hs with hended | ⟨-, hnot⟩
    · exact h.recvEnded.trans hended
    · rw [hnot] at hends
      cases hends

/-- A frame about something else. -/
theorem Stream.Steady.hears_other (h : s.Steady s') (hon : f.dataOn s.id = [])
    (hends : e.endsOn s.id f = false) : Stream.Hears e f s s' :=
  h.hears (Endpoint.gain_of_not_on hon) fun _ => .inr ⟨hon, hends⟩

/-- What an endpoint does after a frame came. -/
theorem Stream.Hears.trans (h : Stream.Hears e f s s') (h' : s'.Steady s'') :
    Stream.Hears e f s s'' where
  id := h'.id.trans h.id
  reading := h'.reading.trans h.reading
  inbox := h'.inbox.trans h.inbox
  sound := fun hs => (h'.recv (h.sound hs)).1
  credit := fun hr hs => by rw [(h'.recv (h.sound hs)).2]; exact h.credit hr hs
  ended := fun hs => h.ended (h'.recvEnded.symm.trans hs)
  stays := fun hs => h'.recvEnded.trans (h.stays hs)
  failure := by
    rcases h'.failure with heq | ⟨c, hc, hne⟩
    · rw [heq]
      exact h.failure
    · exact .inr ⟨c, hc, fun heq => absurd heq hne⟩
  whole := fun hs => h.whole (h'.live hs)
  last := fun hs hends => h'.recvEnded.trans (h.last (h'.live hs) hends)

namespace Endpoint

theorem pending_eq (h : List.Forall₂ (fun s s' : Stream => s'.inbox = s.inbox) e.streams
    e'.streams) : e'.pending = e.pending := by
  unfold pending
  generalize e.streams = ss, e'.streams = ss' at h
  induction h with
  | nil => rfl
  | cons hs _ ih => rw [List.map_cons, List.map_cons, List.sum_cons, List.sum_cons, hs, ih]

theorem Steady.pending (h : e.Steady e') : e'.pending = e.pending :=
  pending_eq (h.streams.imp fun _ _ hs => hs.inbox)

/-- No stream takes anything from the frame. -/
theorem hears_of_no_gain (hgain : ∀ s ∈ e.streams, e.gain s f = []) (hrecv : e.recv.Steady e'.recv)
    (hclient : e'.isClient = e.isClient) (hnext : e'.nextId = e.nextId)
    (hown : e'.ownWindow = e.ownWindow)
    (hstreams : List.Forall₂ (Stream.Hears e f) e.streams e'.streams) : e.Hears f e' := by
  refine ⟨hclient, hnext, hown, fun hs => ⟨(hrecv hs).1, ?_⟩, hstreams⟩
  have hpending : e'.pending = e.pending :=
    pending_eq <| (forall₂_mem hstreams).imp fun s s' ⟨hmem, _, hs⟩ => by
      rw [hs.inbox, hgain s hmem, List.append_nil]
  rw [(hrecv hs).2, hpending]

/-- The endpoint does what it could do without the frame, and no stream that goes on is to take
anything from it. -/
theorem Steady.hears (h : e.Steady e') (hgain : ∀ s ∈ e.streams, e.gain s f = [])
    (hlive : ∀ s ∈ e.streams, ∀ s' ∈ e'.streams, s.Steady s' → s'.failure = none →
      s'.recvEnded = true ∨ f.dataOn s'.id = [] ∧ e.endsOn s'.id f = false) : e.Hears f e' := by
  refine hears_of_no_gain hgain h.recv h.isClient h.nextId h.ownWindow ?_
  refine (forall₂_mem h.streams).imp fun s s' ⟨hmem, hmem', hs⟩ => hs.hears (hgain s hmem) ?_
  have hlive' := hlive s hmem s' hmem' hs
  rwa [hs.id, hs.recvEnded] at hlive'

/-- A frame that is about no stream. -/
theorem Steady.hears_other (h : e.Steady e') (hon : ∀ id, f.dataOn id = [])
    (hends : ∀ id, e.endsOn id f = false) : e.Hears f e' :=
  h.hears (fun _ _ => gain_of_not_on (hon _)) fun _ _ _ _ _ _ => .inr ⟨hon _, hends _⟩

theorem Hears.trans (h : e.Hears f e') (h' : e'.Steady e'') : e.Hears f e'' where
  isClient := h'.isClient.trans h.isClient
  nextId := h'.nextId.trans h.nextId
  ownWindow := h'.ownWindow.trans h.ownWindow
  recv := fun hs => by
    obtain ⟨hsound, hsum⟩ := h.recv hs
    rw [(h'.recv hsound).2, h'.pending]
    exact ⟨(h'.recv hsound).1, hsum⟩
  streams := forall₂_trans (fun a b => a.trans b) h.streams h'.streams

/-- The other side broke the rules of the connection by the frame. -/
theorem hears_refuse (hgain : ∀ s ∈ e.streams, e.gain s f = []) (h : e.Steady e')
    {r : Reason} (hr : r ≠ .noError) (debug : Bytes) : e.Hears f (e'.refuse r debug) := by
  refine (h.trans (e'.steady_refuse hr debug)).hears hgain fun _ _ s' hs' _ hlive => .inl ?_
  obtain ⟨s, -, rfl⟩ := List.mem_map.mp hs'
  have hended := Stream.recvEnded_of_live_fail hlive
  unfold Stream.fail
  split
  · exact hended
  · exact hended

/-- A stream that a reset does not touch has its end. -/
theorem recvEnded_of_live_reset {id : Nat} {party : Party} {r : Reason}
    (hs' : s' ∈ (e.reset id party r).streams) (hid : s'.id = id) (hlive : s'.failure = none) :
    s'.recvEnded = true := by
  obtain ⟨s, -, rfl⟩ := List.mem_map.mp hs'
  by_cases hs : s.id = id
  · simp only [hs, if_true] at hlive ⊢
    split at hlive
    · next hover => simp_all [Stream.isOver]
    · cases hlive
  · simp [hs] at hid

theorem hears_reset {id : Nat} (h : e.Steady e') (hgain : ∀ s ∈ e.streams, e.gain s f = [])
    (hother : ∀ i, i ≠ id → f.dataOn i = [] ∧ e.endsOn i f = false) (party : Party) {r : Reason}
    (hr : r ≠ .noError) : e.Hears f (e'.reset id party r) :=
  (h.trans (e'.steady_reset id party hr)).hears hgain fun _ _ s' hs' _ hlive => by
    by_cases hid : s'.id = id
    · exact .inl (recvEnded_of_live_reset hs' hid hlive)
    · exact .inr (hother s'.id hid)

theorem forall₂_modify {R : Stream → Stream → Prop} {id : Nat} {g : Stream → Stream}
    (hg : ∀ s ∈ e.streams, s.id = id → R s (g s)) (hother : ∀ s ∈ e.streams, s.id ≠ id → R s s) :
    List.Forall₂ R e.streams (e.modify id g).streams := by
  refine List.forall₂_map_right_iff.mpr (List.forall₂_same.mpr fun s hs => ?_)
  split
  · next hid => exact hg s hs hid
  · next hid => exact hother s hs hid

theorem IsTidy.eq_of_id (h : e.IsTidy) (hs : s ∈ e.streams) (hs' : s' ∈ e.streams)
    (hid : s.id = s'.id) : s = s' := List.inj_on_of_nodup_map h.nodup hs hs' hid

/-- A number belongs to one stream. -/
theorem IsTidy.eq_of_stream? (h : e.IsTidy) {id : Nat} (hs : e.stream? id = some s)
    (hs' : s' ∈ e.streams) (hid : s'.id = id) : s' = s :=
  h.eq_of_id hs' (mem_of_stream? hs) (hid.trans (id_of_stream? hs).symm)

theorem IsTidy.stream?_of_mem (h : e.IsTidy) (hs : s ∈ e.streams) : e.stream? s.id = some s := by
  cases hfound : e.stream? s.id with
  | none => simpa using List.find?_eq_none.mp hfound s hs
  | some t => rw [h.eq_of_id (mem_of_stream? hfound) hs (id_of_stream? hfound)]

/-- The streams keep their numbers. -/
theorem IsTidy.of_ids (h : e.IsTidy) (hclient : e'.isClient = e.isClient)
    (hnext : e'.nextId = e.nextId)
    (hids : List.Forall₂ (fun s s' : Stream => s'.id = s.id) e.streams e'.streams) : e'.IsTidy := by
  refine ⟨hclient.trans h.isClient, ?_, fun s' hs' => ?_⟩
  · have heq : e'.streams.map (·.id) = e.streams.map (·.id) := by
      rw [← List.forall₂_eq_eq_eq, List.forall₂_map_left_iff, List.forall₂_map_right_iff]
      exact hids.flip
    rw [heq]
    exact h.nodup
  · obtain ⟨s, hs, hid⟩ := forall₂_left hids hs'
    rw [hid, hnext]
    exact h.used s hs

theorem stream?_congr (he : e'.intake = e.intake) (id : Nat) : e'.stream? id = e.stream? id := by
  simp only [intake, Prod.mk.injEq] at he
  rw [stream?, stream?, he.2.2.2.2]

theorem modify_congr (he : e'.intake = e.intake) (id : Nat) (g : Stream → Stream) :
    (e'.modify id g).intake = (e.modify id g).intake := by
  simp only [intake, Prod.mk.injEq] at he
  obtain ⟨hclient, hnext, hown, hrecv, hstreams⟩ := he
  simp only [intake, modify, hclient, hnext, hown, hrecv, hstreams]

section Head

/-! A head that the frame `f` ended came on the stream `id`, for which it is the `last` frame or
not; `e'` is the endpoint that has its parts together. -/

variable {id : Nat} {last : Bool} (h : e.IsTidy) (he : e'.intake = e.intake)
  (hdata : ∀ i, f.dataOn i = []) (hends : ∀ i, e.endsOn i f = (decide (i = id) && last))

include hdata

theorem no_gain_of_head : ∀ s ∈ e.streams, e.gain s f = [] := fun s _ => gain_of_not_on (hdata s.id)

include h he hends

/-- The head is taken by a stream whose other side has not ended. -/
theorem IsTidy.hears_head (hs : e.stream? id = some s) (hopen : s.recvEnded = false)
    {g : Stream → Stream} (hg : ∀ s, (g s).intake = Stream.intake { s with recvEnded := last }) :
    e.Hears f (e'.modify id g) := by
  suffices hmodified : e.Hears f (e.modify id g) from
    hmodified.trans ((steady_refl _).same (modify_congr he id g))
  refine hears_of_no_gain (no_gain_of_head hdata) e.recv.steady_refl rfl rfl rfl ?_
  refine forall₂_modify (fun t ht hid => ?_) fun t ht hid => ?_
  · have ht : t = s := h.eq_of_stream? hs ht hid
    subst ht
    have hgt := hg t
    simp only [Stream.intake, Prod.mk.injEq] at hgt
    obtain ⟨hgid, hreading, hinbox, hended, hrecv, hfailure⟩ := hgt
    have hgain : e.gain t f = [] := gain_of_not_on (hdata t.id)
    have hend : e.endsOn t.id f = last := by simp [hends, hid]
    exact {
      id := hgid
      reading := hreading
      inbox := by rw [hinbox, hgain, List.append_nil]
      sound := fun hsound => by rwa [hrecv]
      credit := fun _ _ => by rw [hrecv, hgain]; rfl
      ended := fun hlast => .inr (by rw [hend, ← hended, hlast])
      stays := fun hfirst => by rw [hopen] at hfirst; cases hfirst
      failure := .inl hfailure
      whole := fun _ _ _ => by rw [hgain, hdata]
      last := fun _ hlast => by rw [hended, ← hend, hlast] }
  · exact t.steady_refl.hears_other (hdata t.id) (by simp [hends, hid])

theorem IsTidy.hears_receiveHead (block : Bytes) : e.Hears f (e'.receiveHead id block last) := by
  have hsame : e.Steady e' := e.steady_refl.same he
  have hgain := no_gain_of_head (e := e) hdata
  have hother : ∀ i, i ≠ id → f.dataOn i = [] ∧ e.endsOn i f = false := fun i hi =>
    ⟨hdata i, by simp [hends, hi]⟩
  have hreset : e.Hears f (e'.reset id .library .protocolError) :=
    hears_reset hsame hgain hother _ (by decide)
  have hrefuse {r : Reason} (hr : r ≠ .noError) : e.Hears f (e'.refuse r []) :=
    hears_refuse hgain hsame hr []
  have hclient : e'.isClient = true := hsame.isClient.trans h.isClient
  -- the head changes nothing: no stream has the number, or the one that has it is not to go on
  have hkept (hdead : ∀ s ∈ e.streams, s.id = id → s.failure = none → last = false) :
      e.Hears f e' := hsame.hears hgain fun s hs s' _ hst hlive => .inr ⟨hdata s'.id, by
    rw [hends, hst.id]
    by_cases hid : s.id = id
    · simp [hdead s hs hid (hst.live hlive)]
    · simp [hid]⟩
  fun_cases receiveHead e' id block last with
  | case1 | case3 | case8 => exact hrefuse (by decide)
  | case2 fields hfields s hs hfailed =>
    rw [stream?_congr he] at hs
    refine hkept fun t ht hid hlive => ?_
    have ht : t = s := h.eq_of_stream? hs ht hid
    rw [← ht, hlive] at hfailed
    cases hfailed
  | case4 fields hfields s hs hlive hopen hheaded hlast =>
    rw [stream?_congr he] at hs
    exact h.hears_head he hdata hends hs (by simpa using hopen) fun s => by rw [hlast]
  | case5 | case7 => exact hreset
  | case6 fields hfields s hs hlive hopen hheaded n hn =>
    rw [stream?_congr he] at hs
    unfold receiveStatus
    dsimp only
    split
    · split
      · refine hears_reset (hsame.same ?_) hgain hother .library (r := .protocolError) (by decide)
        rfl
      · next hlast =>
        exact Hears.trans (hkept fun _ _ _ _ => by simpa using hlast) (e'.steady_refl.same rfl)
    · refine h.hears_head ?_ hdata hends hs (by simpa using hopen) fun s => ?_
      · exact he
      · rfl
  | case9 fields hfields hnone =>
    rw [stream?_congr he] at hnone
    exact hkept fun s hs hid => absurd hid (ne_of_stream?_none hnone hs)
  | case10 | case11 => simp_all

end Head

/-- An update of one stream changes what waits by what it changes there. -/
theorem IsTidy.pending_modify (h : e.IsTidy) {id : Nat} (hs : e.stream? id = some s)
    (g : Stream → Stream) : (e.modify id g).pending + s.inbox.flatten.length =
      e.pending + (g s).inbox.flatten.length := by
  have hmem := mem_of_stream? hs
  have hid := id_of_stream? hs
  have hnodup := h.nodup
  unfold pending modify
  dsimp only
  generalize e.streams = ss at hmem hnodup
  induction ss with
  | nil => cases hmem
  | cons t ss ih =>
    obtain ⟨hnew, hnodup⟩ := List.nodup_cons.mp hnodup
    simp only [List.map_cons, List.sum_cons]
    rcases List.mem_cons.mp hmem with rfl | hmem
    · have hrest : (ss.map fun t => if t.id = id then g t else t) = ss :=
        (List.map_congr_left fun t ht => if_neg fun htid => hnew
          (List.mem_map.mpr ⟨t, ht, htid.trans hid.symm⟩)).trans (List.map_id' ss)
      rw [hrest, if_pos hid]
      omega
    · have hne : t.id ≠ id := fun htid => hnew (List.mem_map.mpr ⟨s, hmem, hid.trans htid.symm⟩)
      rw [if_neg hne]
      have := ih hmem hnodup
      omega

section Data

variable {id : Nat} {bs : Bytes} {last : Bool}

theorem gain_data (hid : s.id = id) :
    e.gain s (.data id bs last) = if e.takes s bs then [bs] else [] := by
  rw [gain, Frame.dataOn, if_pos hid.symm, List.filter_singleton, Bool.cond_eq_ite]

/-- Data are no gain where the stream cannot take them. -/
theorem IsTidy.no_gain_of_data (h : e.IsTidy) (hs : e.stream? id = some s)
    (hnot : e.takes s bs = false) : ∀ t ∈ e.streams, e.gain t (.data id bs last) = [] := by
  intro t ht
  by_cases hid : t.id = id
  · have ht : t = s := h.eq_of_stream? hs ht hid
    rw [gain_data hid, ht, hnot]
    rfl
  · exact gain_of_not_on (if_neg fun heq => hid heq.symm)

theorem data_beside {i : Nat} (hi : i ≠ id) :
    (Frame.data id bs last).dataOn i = [] ∧ e.endsOn i (.data id bs last) = false := by
  refine ⟨if_neg fun heq => hi heq.symm, ?_⟩
  simp [endsOn, Ne.symm hi]

/-- What becomes of the stream that data are taken in on. -/
theorem IsTidy.forall₂_takeIn (h : e.IsTidy) (hs : e.stream? id = some s)
    (hwhole : e.partialHead = none) (hopen : s.recvEnded = false)
    (hgain : e.gain s (.data id bs last) = if s.reading then [bs] else [])
    (hroom : bs.length ≤ s.recv.room) :
    List.Forall₂ (Stream.Hears e (.data id bs last)) e.streams (e.takeIn id bs last).streams := by
  refine forall₂_modify (e := { e with recv := e.recv.take bs.length })
    (fun t ht hid => ?_) fun t ht hid => ?_
  · have ht : t = s := h.eq_of_stream? hs ht hid
    subst ht
    have hend : e.endsOn t.id (.data id bs last) = last := by simp [endsOn, hwhole, hid]
    exact {
      id := rfl
      reading := rfl
      inbox := by
        rw [hgain]
        cases t.reading with
        | true => rfl
        | false => exact (List.append_nil _).symm
      sound := fun hsound => hsound.take _
      credit := fun hreading hsound => by
        rw [hgain, hreading]
        simpa using hsound.available_take hroom
      ended := fun hended => .inr (by rw [hend]; simpa [hopen] using hended)
      stays := fun hended => by rw [hopen] at hended; cases hended
      failure := .inl rfl
      whole := fun _ _ hreading => by rw [hgain, hreading, Frame.dataOn, if_pos hid.symm]; rfl
      last := fun _ hended => by rw [hend] at hended; simp [hended] }
  · exact And.elim t.steady_refl.hears_other (data_beside hid)

/-- Data are taken in for a reader. -/
theorem IsTidy.hears_takeIn (h : e.IsTidy) (hs : e.stream? id = some s)
    (hwhole : e.partialHead = none) (htakes : e.takes s bs = true) :
    e.Hears (.data id bs last) (e.takeIn id bs last) := by
  have hid := id_of_stream? hs
  simp only [takes, Bool.and_eq_true, decide_eq_true_eq] at htakes
  obtain ⟨⟨⟨⟨⟨⟨-, hlive⟩, hheaded⟩, hopen⟩, hreading⟩, hroom⟩, hroom'⟩ := htakes
  have hgain : e.gain s (.data id bs last) = if s.reading then [bs] else [] := by
    rw [gain_data hid]
    simp [takes, hwhole, hlive, hheaded, hopen, hreading, hroom, hroom']
  refine ⟨rfl, rfl, rfl, fun hsound => ⟨hsound.take _, ?_⟩,
    h.forall₂_takeIn hs hwhole (by simpa using hopen) hgain hroom'⟩
  have hpending := h.pending_modify hs fun s => { s with
    recv := s.recv.take bs.length
    recvEnded := s.recvEnded || last
    inbox := if s.reading then s.inbox ++ [bs] else s.inbox }
  have hless : (e.takeIn id bs last).recv.available + bs.length = e.recv.available :=
    hsound.available_take hroom
  have hmore : (e.takeIn id bs last).pending = e.pending + bs.length := by
    simp only [hreading, if_true, List.flatten_append, List.flatten_singleton,
      List.length_append] at hpending
    have hsame : (e.takeIn id bs last).pending = pending (e.modify id fun s => { s with
      recv := s.recv.take bs.length
      recvEnded := s.recvEnded || last
      inbox := if s.reading then s.inbox ++ [bs] else s.inbox }) := rfl
    omega
  omega

/-- Data came for a reader who left. -/
theorem IsTidy.hears_unread (h : e.IsTidy) (hs : e.stream? id = some s)
    (hwhole : e.partialHead = none) (hopen : s.recvEnded = false) (hreading : s.reading = false)
    (hroom : bs.length ≤ e.recv.room) (hroom' : bs.length ≤ s.recv.room) :
    e.Hears (.data id bs last) ((e.takeIn id bs last).releaseConnection bs.length) := by
  have htakes : e.takes s bs = false := by simp [takes, hreading]
  refine hears_of_no_gain (h.no_gain_of_data hs htakes) (Window.steady_take_release hroom) rfl rfl
    rfl (h.forall₂_takeIn hs hwhole hopen ?_ hroom')
  rw [gain_data (id_of_stream? hs), htakes, hreading]

/-- Data came on a stream that failed before, or on none, and nothing is taken in. -/
theorem hears_unheard (h : e.Steady e')
    (hdead : ∀ s ∈ e.streams, s.id = id → s.failure.isSome = true) :
    e.Hears (.data id bs last) e' := by
  refine h.hears (fun s hs => ?_) fun s hs s' _ hst hlive => ?_
  · by_cases hid : s.id = id
    · rw [gain_data hid, if_neg (by simp [takes, Option.isSome_iff_ne_none.mp (hdead s hs hid)])]
    · exact gain_of_not_on (data_beside (e := e) hid).1
  · by_cases hid : s.id = id
    · have hsome := hdead s hs hid
      rw [hst.live hlive] at hsome
      cases hsome
    · rw [hst.id]
      exact .inr (data_beside hid)

theorem IsTidy.hears_receiveData (h : e.IsTidy) (hwhole : e.partialHead = none) :
    e.Hears (.data id bs last) (e.receiveData id bs last) := by
  have habsent (hnone : e.stream? id = none) :
      ∀ s ∈ e.streams, s.id = id → s.failure.isSome = true := fun s hs hid =>
    absurd hid (ne_of_stream?_none hnone hs)
  have hfailed {s : Stream} (hs : e.stream? id = some s) {c : Cause} (hc : s.failure = some c) :
      ∀ t ∈ e.streams, t.id = id → t.failure.isSome = true := fun t ht hid => by
    rw [h.eq_of_stream? hs ht hid, hc]
    rfl
  fun_cases receiveData e id bs last with
  | case1 hnone | case2 hnone =>
    exact hears_unheard (e.steady_refuse (by decide) []) (habsent hnone)
  | case3 hnone hknown hroom =>
    exact hears_unheard ((steady_passOver (Nat.not_lt.mp hroom)).trans (steady_push _ _))
      (habsent hnone)
  | case4 s hs c hc | case5 s hs c hc =>
    exact hears_unheard (e.steady_refuse (by decide) []) (hfailed hs hc)
  | case6 s hs c hc hlocal hroom =>
    exact hears_unheard (steady_passOver (Nat.not_lt.mp hroom)) (hfailed hs hc)
  | case7 s hs hlive hclosed =>
    refine hears_refuse (h.no_gain_of_data hs ?_) e.steady_refl (by decide) []
    rcases hclosed with hended | hunheaded
    · simp [takes, hended]
    · simp_all [takes]
  | case8 s hs hlive hopen hroom =>
    refine hears_refuse (h.no_gain_of_data hs ?_) e.steady_refl (by decide) []
    simp [takes, Nat.not_le.mpr hroom]
  | case9 s hs hlive hopen hroom hroom' =>
    refine hears_reset (steady_passOver (Nat.not_lt.mp hroom)) (h.no_gain_of_data hs ?_)
      (fun _ => data_beside) .library (by decide)
    simp [takes, Nat.not_le.mpr hroom']
  | case10 s hs hlive hopen hroom hroom' e' hreading =>
    exact h.hears_unread hs hwhole (by simp_all) (by simpa using hreading) (Nat.not_lt.mp hroom)
      (Nat.not_lt.mp hroom')
  | case11 s hs hlive hopen hroom hroom' e' hreading hfull =>
    refine (h.hears_takeIn hs hwhole ?_).trans (steady_refuse _ (by decide) _)
    simp_all [takes]
  | case12 s hs hlive hopen hroom hroom' e' hreading hspace =>
    refine h.hears_takeIn hs hwhole ?_
    simp_all [takes]

end Data

/-- The other side takes a stream away by the frame. -/
theorem hears_failure (h : s.Steady s') (hon : f.dataOn s.id = []) (hends : e.endsOn s.id f = false)
    {c : Cause} (hc : c.reason? = some .noError → f.excuses s.id = true) :
    Stream.Hears e f s { s' with failure := some c } :=
  { h.hears_other hon hends with
    failure := .inr ⟨c, rfl, hc⟩
    whole := nofun
    last := nofun }

theorem hears_receiveReset (id : Nat) (r : Reason) :
    e.Hears (.reset id r) (e.receiveReset id r) := by
  have hsame : e.Hears (.reset id r) e :=
    e.steady_refl.hears_other (fun _ => rfl) fun _ => rfl
  unfold receiveReset
  split
  · split
    · exact hsame
    · refine hears_of_no_gain (fun _ _ => gain_of_not_on rfl) e.recv.steady_refl rfl rfl rfl ?_
      refine forall₂_trans (S := fun s' s'' => s'' = s' ∨
        s'.id = id ∧ s'' = { s' with failure := some (.reset .remote r) })
        (fun {a b c} hab hbc => ?_) (e.steady_unqueue id).streams
        (forall₂_modify (fun s hs hid => .inr ⟨hid, rfl⟩) fun s hs hid => .inl rfl)
      rcases hbc with rfl | ⟨hid, rfl⟩
      · exact hab.hears_other rfl rfl
      · refine hears_failure hab rfl rfl fun hr => ?_
        simp_all [Frame.excuses, Cause.reason?, hab.id]
  · have hrefuse : e.Hears (.reset id r) (e.refuse .protocolError []) :=
      hears_refuse (fun _ _ => gain_of_not_on rfl) e.steady_refl (by decide) []
    generalize (if e.isClient then e.nextId else e.lastSeen + 1) = first
    split
    · exact hrefuse
    · exact hsame

theorem hears_receiveFarewell (last : Nat) (r : Reason) (debug : Bytes) :
    e.Hears (.goAway last r debug) (e.receiveFarewell last r debug) := by
  unfold receiveFarewell
  split
  · exact hears_refuse (fun _ _ => gain_of_not_on rfl) e.steady_refl (by decide) []
  · refine hears_of_no_gain (fun _ _ => gain_of_not_on rfl) e.recv.steady_refl rfl rfl rfl ?_
    refine List.forall₂_map_right_iff.mpr (List.forall₂_same.mpr fun s _ => ?_)
    have hsame := s.steady_refl.hears_other (e := e) (f := .goAway last r debug) rfl
      rfl
    split
    · next hlast =>
      unfold Stream.fail
      split
      · exact hsame
      · refine hears_failure s.steady_refl rfl rfl fun hr => ?_
        simp_all [Frame.excuses, Cause.reason?]
    · exact hsame

/-- What a frame does to a client. -/
theorem IsTidy.hears_receive (h : e.IsTidy) (f : Frame) : e.Hears f (e.receive f) := by
  have hbroken {f : Frame} (hgain : ∀ s ∈ e.streams, e.gain s f = []) :
      e.Hears f (e.refuse .protocolError []) := hears_refuse hgain e.steady_refl (by decide) []
  fun_cases receive e f with
  | case1 | case5 => exact hbroken fun _ _ => gain_of_not_on rfl
  | case2 id last block i more hpart hid =>
    refine h.hears_receiveHead (by rfl) (fun _ => rfl) ?_ _
    intro j
    simp only [endsOn, hpart]
    grind
  | case3 id last block i more whole hpart hid hmore =>
    refine Steady.hears_other (e.steady_refl.same rfl) (fun _ => rfl) fun j => ?_
    simp [endsOn, hpart, hmore]
  | case4 f part hpart hother => exact hbroken fun _ _ => by simp [gain, takes, hpart]
  | case6 id bs last hwhole => exact h.hears_receiveData hwhole
  | case7 id block last hwhole =>
    refine h.hears_receiveHead rfl (fun _ => rfl) (fun j => ?_) _
    simp [endsOn, hwhole, eq_comm]
  | case8 id block last whole hwhole hmore =>
    refine Steady.hears_other (e.steady_refl.same rfl) (fun _ => rfl) fun j => ?_
    simp [endsOn, hmore]
  | case9 id r => exact hears_receiveReset id r
  | case10 values => exact (e.steady_receiveSettings values).hears_other (fun _ => rfl) fun _ => rfl
  | case11 | case16 => exact e.steady_refl.hears_other (fun _ => rfl) fun _ => rfl
  | case12 | case13 =>
    exact Steady.hears_other (e.steady_refl.same rfl) (fun _ => rfl) fun _ => rfl
  | case14 last r debug => exact hears_receiveFarewell last r debug
  | case15 id more => exact (e.steady_receiveWindow id more).hears_other (fun _ => rfl) fun _ => rfl

end Endpoint

end TunnelDial.Http2
