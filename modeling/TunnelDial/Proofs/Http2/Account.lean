import TunnelDial.Proofs.Http2.Arrival

/-! The account of a client: each of its streams agrees with the frames that came, with what the
reads of it gave and with what they left, and no window lacks more than what waits to be read. -/
namespace TunnelDial.Http2

open Endpoint (gained dataUntilEnd)

variable {e e' : Endpoint} {s s' : Stream} {f : Frame} {id : Nat}

/-! ### The frames that came -/

variable {log : Log}

theorem gained_snoc (hs : e.stream? id = some s) :
    gained id (log ++ [(e, f)]) = gained id log ++ e.gain s f := by
  simp [gained, hs]

/-- Some frame was the last one of the stream. -/
def Endpoint.hasEnd (id : Nat) (log : Log) : Bool := log.any fun x => x.1.endsOn id x.2

theorem dataUntilEnd_snoc (id : Nat) (log : Log) (x : Endpoint × Frame) :
    dataUntilEnd id (log ++ [x]) = dataUntilEnd id log ++
      if Endpoint.hasEnd id log then [] else x.2.dataOn id := by
  induction log with
  | nil => simp [dataUntilEnd, Endpoint.hasEnd]
  | cons y log ih =>
    obtain ⟨e, f⟩ := y
    cases hends : e.endsOn id f with
    | true => simp [dataUntilEnd, Endpoint.hasEnd, hends]
    | false =>
      have hend : Endpoint.hasEnd id ((e, f) :: log) = Endpoint.hasEnd id log := by
        simp [Endpoint.hasEnd, hends]
      simp only [List.cons_append, dataUntilEnd, hends, Bool.false_eq_true, if_false, ih, hend,
        List.append_assoc]

theorem hasEnd_snoc (id : Nat) (log : Log) (e : Endpoint) (f : Frame) :
    Endpoint.hasEnd id (log ++ [(e, f)]) = (Endpoint.hasEnd id log || e.endsOn id f) := by
  simp [Endpoint.hasEnd]

/-! ### One stream -/

/-- A stream agrees with the frames that came since it was opened, and with what its reads gave and
have left. -/
structure Stream.Follows (window : Nat) (log : Log) (given left : Bytes) (s : Stream) : Prop where
  sound : s.recv.IsSound
  credit : s.reading = true → s.recv.available + s.inbox.flatten.length = window
  order : s.reading = true → ∃ taken, gained s.id log = taken ++ s.inbox ∧
    taken.flatten = given ++ left ∧ (left = [] ∨ ∃ bs, taken.getLast? = some bs ∧ left <:+ bs)
  whole : s.reading = true → s.failure = none → gained s.id log = dataUntilEnd s.id log
  heard : gained s.id log <+: dataUntilEnd s.id log
  ended : s.recvEnded = true → Endpoint.hasEnd s.id log = true
  last : s.failure = none → Endpoint.hasEnd s.id log = true → s.recvEnded = true
  excused : ∀ c, s.failure = some c → c.reason? = some .noError →
    ∃ x ∈ log, x.2.excuses s.id = true

namespace Stream

variable {window : Nat} {given left : Bytes}

theorem Follows.steady (h : Follows window log given left s) (hs : s.Steady s') :
    Follows window log given left s' where
  sound := (hs.recv h.sound).1
  credit := fun hr => by
    rw [(hs.recv h.sound).2, hs.inbox]
    exact h.credit (hs.reading ▸ hr)
  order := fun hr => by
    rw [hs.id, hs.inbox]
    exact h.order (hs.reading ▸ hr)
  whole := fun hr hlive => by
    rw [hs.id]
    exact h.whole (hs.reading ▸ hr) (hs.live hlive)
  heard := by
    rw [hs.id]
    exact h.heard
  ended := fun hended => by
    rw [hs.id]
    exact h.ended (hs.recvEnded ▸ hended)
  last := fun hlive hend => by
    rw [hs.id] at hend
    exact hs.recvEnded.trans (h.last (hs.live hlive) hend)
  excused := fun c hc hr => by
    rw [hs.id]
    rcases hs.failure with heq | ⟨c', hc', hne⟩
    · exact h.excused c (heq ▸ hc) hr
    · rw [hc] at hc'
      exact absurd (Option.some.inj hc' ▸ hr) hne

theorem Hears.live (h : Hears e f s s') (hlive : s'.failure = none) : s.failure = none := by
  rcases h.failure with heq | ⟨c, hc, -⟩
  · exact heq.symm.trans hlive
  · rw [hc] at hlive
    cases hlive

theorem gain_of_ended (h : s.recvEnded = true) (f : Frame) : e.gain s f = [] := by
  simp [Endpoint.gain, Endpoint.takes, h]

/-- A stream takes the data of a frame, or it takes nothing. -/
theorem gain_cases (e : Endpoint) (s : Stream) (f : Frame) : e.gain s f = [] ∨
    e.gain s f = f.dataOn s.id ∧ s.reading = true ∧ s.failure = none ∧ s.recvEnded = false := by
  unfold Endpoint.gain
  cases f with
  | data i bs last =>
    by_cases hid : i = s.id
    · cases htakes : e.takes s bs with
      | false => exact .inl (by simp [Frame.dataOn, hid, htakes])
      | true =>
        refine .inr ⟨by simp [Frame.dataOn, hid, htakes], ?_⟩
        simp only [Endpoint.takes, Bool.and_eq_true] at htakes
        simp_all
    · exact .inl (by simp [Frame.dataOn, hid])
  | _ => exact .inl rfl

theorem Follows.no_end (h : Follows window log given left s) (hlive : s.failure = none)
    (hended : s.recvEnded = false) : Endpoint.hasEnd s.id log = false := by
  cases hend : Endpoint.hasEnd s.id log with
  | false => rfl
  | true =>
    rw [h.last hlive hend] at hended
    cases hended

theorem Follows.hears (h : Follows window log given left s) (hs : Hears e f s s')
    (hmem : e.stream? s.id = some s) : Follows window (log ++ [(e, f)]) given left s' where
  sound := hs.sound h.sound
  credit := fun hr => by
    have hr := hs.reading ▸ hr
    have hcredit := h.credit hr
    have hless := hs.credit hr h.sound
    rw [hs.inbox, List.flatten_append, List.length_append]
    omega
  order := fun hr => by
    obtain ⟨taken, hcame, hgiven, hleft⟩ := h.order (hs.reading ▸ hr)
    refine ⟨taken, ?_, hgiven, hleft⟩
    rw [hs.id, gained_snoc hmem, hcame, hs.inbox, List.append_assoc]
  whole := fun hr hlive => by
    have hr := hs.reading ▸ hr
    rw [hs.id, gained_snoc hmem, dataUntilEnd_snoc, h.whole hr (hs.live hlive)]
    cases hended : s.recvEnded with
    | true => rw [if_pos (h.ended hended), gain_of_ended hended]
    | false =>
      rw [hs.whole hlive hended hr, h.no_end (hs.live hlive) hended]
      rfl
  heard := by
    rw [hs.id, gained_snoc hmem, dataUntilEnd_snoc]
    rcases gain_cases e s f with hnone | ⟨hall, hr, hlive, hended⟩
    · rw [hnone, List.append_nil]
      exact h.heard.trans (List.prefix_append _ _)
    · rw [hall, h.whole hr hlive, h.no_end hlive hended]
      exact List.prefix_rfl
  ended := fun hended => by
    rw [hs.id, hasEnd_snoc, Bool.or_eq_true]
    exact (hs.ended hended).imp_left h.ended
  last := fun hlive hend => by
    rw [hs.id, hasEnd_snoc, Bool.or_eq_true] at hend
    rcases hend with hend | hend
    · exact hs.stays (h.last (hs.live hlive) hend)
    · exact hs.last hlive hend
  excused := fun c hc hr => by
    rw [hs.id]
    rcases hs.failure with heq | ⟨c', hc', hexcuse⟩
    · obtain ⟨x, hx, hx'⟩ := h.excused c (heq ▸ hc) hr
      exact ⟨x, List.mem_append_left _ hx, hx'⟩
    · rw [hc] at hc'
      exact ⟨(e, f), List.mem_append_right _ (List.mem_singleton_self _),
        hexcuse (Option.some.inj hc' ▸ hr)⟩

/-- The reader leaves. -/
theorem Follows.unread (h : Follows window log given left s) :
    Follows window log given left { s with reading := false, inbox := [], head := none } :=
  { h with
    credit := nofun
    order := nofun
    whole := nofun }

/-- The first piece of data is taken off the stream, and its window grows by it. -/
theorem Follows.take (h : Follows window log given [] s) {bs : Bytes} {rest : List Bytes}
    (hinbox : s.inbox = bs :: rest) : Follows window log given bs
      { s with inbox := rest, recv := s.recv.release bs.length } :=
  { h with
    sound := h.sound.release _
    credit := fun hr => by
      have hcredit := h.credit hr
      rw [hinbox, List.flatten_cons, List.length_append] at hcredit
      simp only [Window.release]
      omega
    order := fun hr => by
      obtain ⟨taken, hcame, hgiven, -⟩ := h.order hr
      refine ⟨taken ++ [bs], by simp [hcame, hinbox], by simp [hgiven], .inr ⟨bs, ?_, ?_⟩⟩
      · exact List.getLast?_concat
      · exact List.suffix_rfl }

/-- Some of what is left is given. -/
theorem Follows.give (h : Follows window log given left s) (room : Nat) :
    Follows window log (given ++ left.take room) (left.drop room) s :=
  { h with
    order := fun hr => by
      obtain ⟨taken, hcame, hgiven, hleft⟩ := h.order hr
      refine ⟨taken, hcame, by simp [hgiven], ?_⟩
      rcases hleft with rfl | ⟨bs, hlast, hsuffix⟩
      · exact .inl List.drop_nil
      · exact .inr ⟨bs, hlast, (List.drop_suffix room left).trans hsuffix⟩ }

end Stream

/-! ### All streams of a client -/

/-- All streams agree with the frames that came, with what was given and with what is left, and the
window of the connection lacks what waits to be read. -/
structure Endpoint.Keeps (window next : Nat) (log : Nat → Log) (given left : Nat → Bytes)
    (e : Endpoint) : Prop where
  tidy : e.IsTidy
  ownWindow : e.ownWindow = window
  nextId : e.nextId = next
  sound : e.recv.IsSound
  balance : e.recv.available + e.pending = Window.standard
  streams : ∀ s ∈ e.streams, s.Follows window (log s.id) (given s.id) (left s.id)

namespace Endpoint

variable {window next : Nat} {log log' : Nat → Log} {given left given' left' : Nat → Bytes}

theorem Keeps.congr (h : e.Keeps window next log given left)
    (hsame : ∀ s ∈ e.streams, log' s.id = log s.id ∧ given' s.id = given s.id ∧
      left' s.id = left s.id) : e.Keeps window next log' given' left' :=
  { h with
    streams := fun s hs => by
      obtain ⟨hlog, hgiven, hleft⟩ := hsame s hs
      rw [hlog, hgiven, hleft]
      exact h.streams s hs }

theorem Keeps.steady (h : e.Keeps window next log given left) (hs : e.Steady e') :
    e'.Keeps window next log given left where
  tidy := h.tidy.of_ids hs.isClient hs.nextId (hs.streams.imp fun _ _ h => h.id)
  ownWindow := hs.ownWindow.trans h.ownWindow
  nextId := hs.nextId.trans h.nextId
  sound := (hs.recv h.sound).1
  balance := by rw [(hs.recv h.sound).2, hs.pending, h.balance]
  streams := fun s' hs' => by
    obtain ⟨s, hmem, hst⟩ := forall₂_left hs.streams hs'
    rw [hst.id]
    exact (h.streams s hmem).steady hst

theorem Keeps.hears (h : e.Keeps window next log given left) (hf : e.Hears f e') :
    e'.Keeps window next (fun id => log id ++ [(e, f)]) given left where
  tidy := h.tidy.of_ids hf.isClient hf.nextId (hf.streams.imp fun _ _ h => h.id)
  ownWindow := hf.ownWindow.trans h.ownWindow
  nextId := hf.nextId.trans h.nextId
  sound := (hf.recv h.sound).1
  balance := (hf.recv h.sound).2.trans h.balance
  streams := fun s' hs' => by
    obtain ⟨s, hmem, hst⟩ := forall₂_left hf.streams hs'
    rw [hst.id]
    exact (h.streams s hmem).hears hst (h.tidy.stream?_of_mem hmem)

theorem next_broken_ne {bs : Bytes} {r : Reason} (h : Frame.next bs = .broken r) :
    r ≠ .noError := by
  unfold Frame.next at h
  grind

theorem Keeps.digest (n : Nat) (h : e.Keeps window next log given left) :
    (digest n e).Keeps window next (fun id => log id ++ framesIn n e) given left := by
  induction n generalizing e log with
  | zero => simpa [digest, framesIn] using h
  | succ n ih =>
    unfold digest framesIn
    split
    · simpa using h
    · cases hnext : Frame.next e.input with
      | more => simpa using h
      | broken r => simpa using h.steady (e.steady_refuse (next_broken_ne hnext) [])
      | frame f rest =>
        have hinput : (Keeps window next log given left { e with input := rest }) :=
          h.steady (e.steady_refl.same rfl)
        simpa using ih (hinput.hears (hinput.tidy.hears_receive f))

theorem Keeps.feed (h : e.Keeps window next log given left) (bs : Bytes) :
    (e.feed bs).Keeps window next (fun id => log id ++ e.framesOf bs) given left :=
  Keeps.digest _ (h.steady (e.steady_refl.same rfl))

/-- One stream changes, and the window of the connection with it. -/
theorem Keeps.modify (h : e.Keeps window next log given left) (hs : e.stream? id = some s)
    {w : Window} (hw : w.IsSound) {g : Stream → Stream} (hid : ∀ t, (g t).id = t.id)
    (hbalance : w.available + (g s).inbox.flatten.length =
      e.recv.available + s.inbox.flatten.length)
    (hsame : ∀ i, i ≠ id → given' i = given i ∧ left' i = left i)
    (hnew : (g s).Follows window (log id) (given' id) (left' id)) :
    (Endpoint.modify { e with recv := w } id g).Keeps window next log given' left' where
  tidy := h.tidy.of_ids rfl rfl (forall₂_modify (fun t _ _ => hid t) fun _ _ _ => rfl)
  ownWindow := h.ownWindow
  nextId := h.nextId
  sound := hw
  balance := by
    have hpending := h.tidy.pending_modify hs g
    have hsum := h.balance
    have heq : (Endpoint.modify { e with recv := w } id g).pending = (e.modify id g).pending := rfl
    have hrecv : (Endpoint.modify { e with recv := w } id g).recv = w := rfl
    rw [heq, hrecv]
    omega
  streams := fun t' ht' => by
    obtain ⟨t, ht, rfl⟩ := List.mem_map.mp ht'
    by_cases htid : t.id = id
    · rw [if_pos htid, h.tidy.eq_of_stream? hs ht htid, hid, id_of_stream? hs]
      exact hnew
    · rw [if_neg htid, (hsame t.id htid).1, (hsame t.id htid).2]
      exact h.streams t ht

/-- The reader of a stream leaves. -/
theorem Keeps.dropReading (h : e.Keeps window next log given left) (id : Nat) :
    (e.dropReading id).Keeps window next log given left := by
  unfold Endpoint.dropReading
  split
  · exact h
  · next s hs =>
    have hfollows := h.streams s (mem_of_stream? hs)
    rw [id_of_stream? hs] at hfollows
    refine Keeps.steady (e := Endpoint.modify { e with recv := e.recv.release _ } id _) ?_
      (steady_forsake (by exact h.tidy.isClient) id)
    refine h.modify hs (h.sound.release _) (fun _ => rfl) ?_ (fun _ _ => ⟨rfl, rfl⟩) hfollows.unread
    simp [Window.release]

/-- The next piece of data is taken off a stream. -/
theorem read_cons (hs : e.stream? id = some s) {bs : Bytes} {rest : List Bytes}
    (hinbox : s.inbox = bs :: rest) : e.read id = (Reading.data bs,
      Endpoint.modify { e with recv := e.recv.release bs.length } id fun s =>
        { s with inbox := rest, recv := s.recv.release bs.length }) := by
  unfold Endpoint.read
  rw [hs]
  dsimp only
  rw [hinbox]
  exact congrArg (Prod.mk (Reading.data bs)) (modify_modify { e with recv := e.recv.release _ } id
    (g := fun s => { s with inbox := rest }) fun _ => rfl)

theorem stream?_read_cons (hs : e.stream? id = some s) {bs : Bytes} {rest : List Bytes}
    (hinbox : s.inbox = bs :: rest) : (e.read id).2.stream? id =
      some { s with inbox := rest, recv := s.recv.release bs.length } := by
  rw [read_cons hs hinbox]
  exact stream?_modify (g := fun t => { t with inbox := rest, recv := t.recv.release bs.length })
    (fun _ => rfl) hs

theorem Keeps.read_cons (h : e.Keeps window next log given left) (hs : e.stream? id = some s)
    {bs : Bytes} {rest : List Bytes} (hinbox : s.inbox = bs :: rest) (hleft : left id = []) :
    (e.read id).2.Keeps window next log given (Function.update left id bs) := by
  rw [Endpoint.read_cons hs hinbox]
  refine h.modify hs (h.sound.release bs.length) (fun _ => rfl) ?_ (fun i hi => ⟨rfl, ?_⟩) ?_
  · simp [Window.release, hinbox]
    omega
  · exact Function.update_of_ne hi _ _
  · have hfollows := h.streams s (mem_of_stream? hs)
    rw [id_of_stream? hs] at hfollows
    rw [hleft] at hfollows
    rw [Function.update_self]
    exact hfollows.take hinbox

theorem Keeps.give (h : e.Keeps window next log given left) (id room : Nat) :
    e.Keeps window next log (Function.update given id (given id ++ (left id).take room))
      (Function.update left id ((left id).drop room)) :=
  { h with
    streams := fun s hs => by
      by_cases hid : s.id = id
      · rw [← hid, Function.update_self, Function.update_self]
        exact (h.streams s hs).give room
      · rw [Function.update_of_ne hid, Function.update_of_ne hid]
        exact h.streams s hs }

/-- A stream that was just opened. -/
theorem follows_fresh (id room window : Nat) :
    (Stream.fresh id room window).Follows window [] [] [] where
  sound := Window.isSound_ofSize window
  credit := fun _ => by simp [Stream.fresh, Window.ofSize]
  order := fun _ => ⟨[], rfl, rfl, .inl rfl⟩
  whole := fun _ _ => rfl
  heard := List.prefix_rfl
  ended := nofun
  last := fun _ hend => by simp [hasEnd] at hend
  excused := nofun

theorem Keeps.openStream (h : e.Keeps window next log given left)
    (hfresh : log next = [] ∧ given next = [] ∧ left next = []) :
    e.openStream.Keeps window (next + 2) log given left where
  tidy := by
    refine ⟨h.tidy.isClient, ?_, fun s hs => ?_⟩
    · simp only [Endpoint.openStream, List.map_append, List.map_singleton]
      refine List.nodup_append'.mpr ⟨h.tidy.nodup, List.nodup_singleton _, ?_⟩
      refine List.disjoint_singleton.mpr fun hmem => ?_
      obtain ⟨s, hs, hid⟩ := List.mem_map.mp hmem
      exact absurd (h.tidy.used s hs) (by simp only [Stream.fresh] at hid; omega)
    · simp only [Endpoint.openStream, List.mem_append, List.mem_singleton] at hs ⊢
      rcases hs with hs | rfl
      · have := h.tidy.used s hs
        omega
      · simp [Stream.fresh]
  ownWindow := h.ownWindow
  nextId := congrArg (· + 2) h.nextId
  sound := h.sound
  balance := by
    have hbalance := h.balance
    simpa [pending, Endpoint.openStream, Stream.fresh] using hbalance
  streams := fun s hs => by
    rcases List.mem_append.mp hs with hs | hs
    · exact h.streams s hs
    · obtain rfl := List.mem_singleton.mp hs
      have hnext : (Stream.fresh e.nextId e.firstRoom e.ownWindow).id = next := h.nextId
      rw [hnext, hfresh.1, hfresh.2.1, hfresh.2.2, h.ownWindow]
      exact follows_fresh _ _ _

end Endpoint

end TunnelDial.Http2
