import TunnelDial.Http2.Downloads
import Mathlib.Data.List.Forall2

/-! What an endpoint does without taking data from a frame or giving any to a reader: all streams
keep their data, and the credit of the other side is what it was. -/
namespace TunnelDial.Http2

/-- The other side has no more room than it is to have. -/
def Window.IsSound (w : Window) : Prop := w.room ≤ w.available

/-- As much may come as before. -/
def Window.Steady (w w' : Window) : Prop := w.IsSound → w'.IsSound ∧ w'.available = w.available

namespace Window

variable {w w' w'' : Window} {n : Nat}

theorem steady_refl (w : Window) : w.Steady w := fun h => ⟨h, rfl⟩

theorem Steady.trans (h : w.Steady w') (h' : w'.Steady w'') : w.Steady w'' := fun hw =>
  ⟨(h' (h hw).1).1, (h' (h hw).1).2.trans (h hw).2⟩

theorem isSound_ofSize (n : Nat) : (ofSize n).IsSound := Nat.le_refl n

theorem steady_announce (w : Window) : w.Steady w.announce := fun _ => ⟨Nat.le_refl _, rfl⟩

theorem IsSound.take (h : w.IsSound) (n : Nat) : (w.take n).IsSound :=
  Nat.sub_le_sub_right h n

theorem IsSound.release (h : w.IsSound) (n : Nat) : (w.release n).IsSound :=
  Nat.le_trans h (Nat.le_add_right _ _)

theorem IsSound.available_take (h : w.IsSound) (hn : n ≤ w.room) :
    (w.take n).available + n = w.available := Nat.sub_add_cancel (Nat.le_trans hn h)

/-- Bytes that count and are used up at once. -/
theorem steady_take_release (hn : n ≤ w.room) : w.Steady ((w.take n).release n) := fun h =>
  ⟨(h.take n).release n, h.available_take hn⟩

end Window

/-- The stream keeps its data and goes on, or fails by an error. -/
structure Stream.Steady (s s' : Stream) : Prop where
  id : s'.id = s.id
  reading : s'.reading = s.reading
  inbox : s'.inbox = s.inbox
  recvEnded : s'.recvEnded = s.recvEnded
  recv : s.recv.Steady s'.recv
  failure : s'.failure = s.failure ∨ ∃ c, s'.failure = some c ∧ c.reason? ≠ some .noError

namespace Stream

variable {s s' s'' : Stream}

theorem steady_refl (s : Stream) : s.Steady s :=
  ⟨rfl, rfl, rfl, rfl, s.recv.steady_refl, .inl rfl⟩

theorem Steady.trans (h : s.Steady s') (h' : s'.Steady s'') : s.Steady s'' where
  id := h'.id.trans h.id
  reading := h'.reading.trans h.reading
  inbox := h'.inbox.trans h.inbox
  recvEnded := h'.recvEnded.trans h.recvEnded
  recv := h.recv.trans h'.recv
  failure := by
    rcases h'.failure with heq | hnew
    · rw [heq]
      exact h.failure
    · exact .inr hnew

theorem Steady.live (h : s.Steady s') (hlive : s'.failure = none) : s.failure = none := by
  rcases h.failure with heq | ⟨c, hc, -⟩
  · exact heq.symm.trans hlive
  · rw [hc] at hlive
    cases hlive

/-- What a stream receives; the rest is about what is sent. -/
def intake (s : Stream) : Nat × Bool × List Bytes × Bool × Window × Option Cause :=
  (s.id, s.reading, s.inbox, s.recvEnded, s.recv, s.failure)

theorem steady_same (h : s'.intake = s.intake) : s.Steady s' := by
  simp only [intake, Prod.mk.injEq] at h
  obtain ⟨hid, hreading, hinbox, hended, hrecv, hfailure⟩ := h
  exact ⟨hid, hreading, hinbox, hended, hrecv ▸ s.recv.steady_refl, .inl hfailure⟩

theorem steady_failure (s : Stream) {c : Cause} (hc : c.reason? ≠ some .noError) :
    s.Steady { s with failure := some c } :=
  ⟨rfl, rfl, rfl, rfl, s.recv.steady_refl, .inr ⟨c, rfl, hc⟩⟩

theorem steady_fail (s : Stream) {c : Cause} (hc : c.reason? ≠ some .noError) :
    s.Steady (s.fail c) := by
  unfold fail
  split
  · exact s.steady_refl
  · exact s.steady_failure hc

/-- A stream that a failure does not touch has its end. -/
theorem recvEnded_of_live_fail {c : Cause} (h : (s.fail c).failure = none) :
    s.recvEnded = true := by
  unfold fail isOver at h
  split at h
  · next hover => simp_all
  · cases h

end Stream

/-- All streams keep their data, and the connection its credit. -/
structure Endpoint.Steady (e e' : Endpoint) : Prop where
  isClient : e'.isClient = e.isClient
  nextId : e'.nextId = e.nextId
  ownWindow : e'.ownWindow = e.ownWindow
  recv : e.recv.Steady e'.recv
  streams : List.Forall₂ Stream.Steady e.streams e'.streams

/-- A relation of streams to a relation of streams, one by one. -/
theorem forall₂_trans {α β γ : Type} {R : α → β → Prop} {S : β → γ → Prop} {T : α → γ → Prop}
    (h : ∀ {a b c}, R a b → S b c → T a c) {as : List α} {bs : List β} {cs : List γ}
    (hab : List.Forall₂ R as bs) (hbc : List.Forall₂ S bs cs) : List.Forall₂ T as cs := by
  induction hab generalizing cs with
  | nil => cases hbc; exact .nil
  | cons hr _ ih => cases hbc with | cons hs hbc => exact .cons (h hr hs) (ih hbc)

theorem forall₂_mem {α β : Type} {R : α → β → Prop} {as : List α} {bs : List β}
    (h : List.Forall₂ R as bs) : List.Forall₂ (fun a b => a ∈ as ∧ b ∈ bs ∧ R a b) as bs := by
  induction h with
  | nil => exact .nil
  | cons hr _ ih =>
    refine .cons ⟨List.mem_cons_self, List.mem_cons_self, hr⟩ (ih.imp fun _ _ ⟨ha, hb, hr⟩ => ?_)
    exact ⟨List.mem_cons_of_mem _ ha, List.mem_cons_of_mem _ hb, hr⟩

theorem forall₂_left {α β : Type} {R : α → β → Prop} {as : List α} {bs : List β}
    (h : List.Forall₂ R as bs) {b : β} (hb : b ∈ bs) : ∃ a ∈ as, R a b := by
  induction h with
  | nil => cases hb
  | cons hr _ ih =>
    rcases List.mem_cons.mp hb with rfl | hb
    · exact ⟨_, List.mem_cons_self, hr⟩
    · obtain ⟨a, ha, hr⟩ := ih hb
      exact ⟨a, List.mem_cons_of_mem _ ha, hr⟩

namespace Endpoint

variable {e e' e'' : Endpoint}

theorem steady_streams (e : Endpoint) : List.Forall₂ Stream.Steady e.streams e.streams :=
  List.forall₂_same.mpr fun s _ => s.steady_refl

theorem steady_refl (e : Endpoint) : e.Steady e :=
  ⟨rfl, rfl, rfl, e.recv.steady_refl, e.steady_streams⟩

theorem Steady.trans (h : e.Steady e') (h' : e'.Steady e'') : e.Steady e'' where
  isClient := h'.isClient.trans h.isClient
  nextId := h'.nextId.trans h.nextId
  ownWindow := h'.ownWindow.trans h.ownWindow
  recv := h.recv.trans h'.recv
  streams := forall₂_trans (fun a b => a.trans b) h.streams h'.streams

/-- The streams, and what the endpoint is to receive on all of them; the rest is about what is sent,
and what is known of the other side. -/
def intake (e : Endpoint) : Bool × Nat × Nat × Window × List Stream :=
  (e.isClient, e.nextId, e.ownWindow, e.recv, e.streams)

theorem Steady.same (h : e.Steady e') (heq : e''.intake = e'.intake) : e.Steady e'' := by
  simp only [intake, Prod.mk.injEq] at heq
  obtain ⟨hclient, hnext, hown, hrecv, hstreams⟩ := heq
  exact h.trans ⟨hclient, hnext, hown, hrecv ▸ e'.recv.steady_refl, hstreams ▸ e'.steady_streams⟩

theorem steady_push (e : Endpoint) (f : Frame) : e.Steady (e.push f) := e.steady_refl.same rfl

/-- An update of all streams, one by one. -/
theorem Steady.map (h : e.Steady e') {f : Stream → Stream} (hf : ∀ s, Stream.Steady s (f s)) :
    e.Steady { e' with streams := e'.streams.map f } :=
  h.trans ⟨rfl, rfl, rfl, e'.recv.steady_refl,
    List.forall₂_map_right_iff.mpr (List.forall₂_same.mpr fun s _ => hf s)⟩

theorem Steady.modify (h : e.Steady e') {f : Stream → Stream} (hf : ∀ s, Stream.Steady s (f s))
    (id : Nat) : e.Steady (e'.modify id f) :=
  h.map fun s => by split; exacts [hf s, s.steady_refl]

/-- An update of what is sent on a stream. -/
theorem Steady.modify_sending (h : e.Steady e') {f : Stream → Stream} (id : Nat)
    (hf : ∀ s, (f s).intake = s.intake) : e.Steady (e'.modify id f) :=
  h.modify (fun s => Stream.steady_same (hf s)) id

theorem Steady.foldl {α : Type} {f : Endpoint → α → Endpoint} (hf : ∀ e a, Steady e (f e a))
    (as : List α) (h : e.Steady e') : e.Steady (as.foldl f e') := by
  induction as generalizing e' with
  | nil => exact h
  | cons a as ih => exact ih (h.trans (hf e' a))

theorem steady_unqueue (e : Endpoint) (id : Nat) : e.Steady (e.unqueue id) :=
  Steady.modify_sending (Steady.same e.steady_refl (by rfl)) id fun _ => by rfl

theorem steady_failAll (e : Endpoint) {c : Cause} (hc : c.reason? ≠ some .noError) :
    e.Steady (e.failAll c) := e.steady_refl.map fun s => s.steady_fail hc

theorem steady_refuse (e : Endpoint) {r : Reason} (hr : r ≠ .noError) (debug : Bytes) :
    e.Steady (e.refuse r debug) := by
  have hc : (Cause.goAway .library r debug).reason? ≠ some .noError := by
    simpa [Cause.reason?] using hr
  exact (e.steady_failAll hc).same rfl

theorem steady_reset (e : Endpoint) (id : Nat) (party : Party) {r : Reason} (hr : r ≠ .noError) :
    e.Steady (e.reset id party r) := by
  refine Steady.trans (Steady.modify (e.steady_unqueue id) (fun s => ?_) id) (steady_push _ _)
  split
  · exact s.steady_refl
  · exact s.steady_failure (by simpa [Cause.reason?] using hr)

theorem steady_forsake (hclient : e.isClient = true) (id : Nat) : e.Steady (e.forsake id) := by
  unfold forsake
  split
  · split
    · exact e.steady_refl
    · refine e.steady_refl.modify (fun s => ?_) id
      refine ⟨rfl, rfl, rfl, rfl, s.recv.steady_refl, .inr ⟨_, rfl, ?_⟩⟩
      simp [hclient, Cause.reason?]
  · exact e.steady_refl

theorem steady_dropWriting (hclient : e.isClient = true) (id : Nat) :
    e.Steady (e.dropWriting id) := by
  unfold dropWriting
  exact Steady.trans (e.steady_refl.modify_sending id fun _ => by rfl)
    (steady_forsake (by exact hclient) id)

theorem steady_emit (e : Endpoint) (s : Stream) (bs : Bytes) : e.Steady (e.emit s bs) := by
  unfold emit
  split
  · exact e.steady_refl
  · have hroom : e.Steady (e.modify s.id fun s => { s with sendRoom := s.sendRoom - bs.length }) :=
      e.steady_refl.modify_sending s.id fun _ => by rfl
    exact hroom.same rfl

theorem steady_finish (e : Endpoint) (id : Nat) : e.Steady (e.finish id) :=
  e.steady_refl.modify_sending id fun _ => by rfl

theorem steady_sendHead (e : Endpoint) (id : Nat) (fields : List BlockField) (last : Bool) :
    e.Steady (e.sendHead id fields last) := by
  unfold sendHead
  dsimp only
  split
  · exact Steady.modify_sending (Steady.same e.steady_refl (by rfl)) id fun _ => by rfl
  · exact e.steady_refl.same rfl

theorem steady_passOver {n : Nat} (hn : n ≤ e.recv.room) : e.Steady (e.passOver n) :=
  ⟨rfl, rfl, rfl, Window.steady_take_release hn, e.steady_streams⟩

theorem steady_applySetting (e : Endpoint) (x : Setting) : e.Steady (e.applySetting x) := by
  unfold applySetting
  split
  · exact e.steady_refl.same rfl
  · refine Steady.same (e.steady_refl.map (f := fun s =>
      { s with sendRoom := s.sendRoom + (x.value : Int) - (e.firstRoom : Int) }) fun s => ?_) rfl
    exact Stream.steady_same rfl
  · exact e.steady_refl

theorem steady_receiveSettings (e : Endpoint) (values : List Setting) :
    e.Steady (e.receiveSettings values) := by
  unfold receiveSettings
  refine (Steady.foldl steady_applySetting values ?_).trans (steady_push _ _)
  split
  · exact e.steady_refl
  · exact e.steady_refl.same rfl

theorem steady_receiveWindow (e : Endpoint) (id more : Nat) :
    e.Steady (e.receiveWindow id more) := by
  fun_cases receiveWindow e id more with
  | _ =>
    first
    | exact e.steady_refl
    | exact e.steady_refl.same rfl
    | exact e.steady_refuse (by decide) _
    | exact e.steady_reset id _ (by decide)
    | exact e.steady_refl.modify_sending id fun _ => by rfl

theorem steady_end (e : Endpoint) : e.Steady e.end_ := by
  unfold end_
  split
  · exact (e.steady_failAll (c := .brokenStream) nofun).same rfl
  · exact (e.steady_failAll (c := .cutFrame) nofun).same rfl

theorem steady_letGo (id n : Nat) (e : Endpoint) : e.Steady (letGo id n e) := by
  fun_induction letGo id n e with
  | case1 e => exact e.steady_refl
  | case2 n e hnone => exact e.steady_refl
  | case3 n e s hs hempty => exact e.steady_refl
  | case4 n e s hs bs rest hout hsend hfull => exact e.steady_refl
  | case5 n e s hs bs rest hout hsend hfull ih =>
    exact Steady.trans ((e.steady_emit s _).modify_sending id fun _ => by rfl) ih
  | case6 n e s hs rest hout ih | case7 n e s hs r rest hout ih =>
    refine Steady.trans (Steady.trans ?_ (steady_push _ _)) ih
    exact e.steady_refl.modify_sending id fun _ => by rfl

theorem steady_letAllGo (e : Endpoint) : e.Steady e.letAllGo :=
  Steady.foldl (fun e s => by split; exacts [e.steady_refl, steady_letGo s.id _ e]) _ e.steady_refl

theorem steady_announceStream (e : Endpoint) (s : Stream) : e.Steady (e.announceStream s) := by
  unfold announceStream
  split
  · split
    · exact e.steady_refl
    · refine Steady.modify (Steady.same e.steady_refl (by rfl)) (fun s => ?_) s.id
      exact ⟨rfl, rfl, rfl, rfl, s.recv.steady_announce, .inl rfl⟩
  · exact e.steady_refl

theorem steady_announce (e : Endpoint) : e.Steady e.announce := by
  unfold announce
  have hall := e.steady_refl.foldl steady_announceStream e.streams
  dsimp only
  split
  · exact hall.trans ⟨rfl, rfl, rfl, Window.steady_announce _, steady_streams _⟩
  · exact hall

theorem steady_render (e : Endpoint) : e.Steady e.render := by
  unfold render
  split
  · exact e.steady_refl.same rfl
  · exact (e.steady_letAllGo.trans (steady_announce _)).same rfl

end Endpoint

end TunnelDial.Http2
