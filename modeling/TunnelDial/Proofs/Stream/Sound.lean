import TunnelDial.Stream.Record
import TunnelDial.Stream.Script
import TunnelDial.Tunnel.Plain

/-! Streams that can be relied on. They give what is left to read in whichever pieces and after
whichever waits, take some bytes of every write, and fail no call. -/
namespace TunnelDial

/-- A call was answered or has to wait, and the stream after it is as said; it did not fail. -/
def Poll.Holds {α σ : Type} (r : Poll α × σ) (ready : α → σ → Prop) (waiting : σ → Prop) : Prop :=
  match r.1 with
  | .ready a => ready a r.2
  | .waiting => waiting r.2
  | .fault _ => False

/-- The same answer, with another stream after it. -/
theorem Poll.Holds.imp {α σ τ : Type} {r : Poll α × σ} {r' : Poll α × τ} {ready : α → σ → Prop}
    {waiting : σ → Prop} {ready' : α → τ → Prop} {waiting' : τ → Prop}
    (h : Poll.Holds r ready waiting) (he : r'.1 = r.1)
    (hready : ∀ a, ready a r.2 → ready' a r'.2) (hwaiting : waiting r.2 → waiting' r'.2) :
    Poll.Holds r' ready' waiting' := by
  unfold Poll.Holds at h ⊢
  rw [he]
  cases hr : r.1 with
  | ready a =>
    rw [hr] at h
    exact hready a h
  | waiting =>
    rw [hr] at h
    exact hwaiting h
  | fault f =>
    rw [hr] at h
    exact h

theorem Poll.Holds.after {α σ : Type} {r : Poll α × σ} {ready : α → σ → Prop} {waiting P : σ → Prop}
    (h : Poll.Holds r ready waiting) (hready : ∀ a, ready a r.2 → P r.2)
    (hwaiting : waiting r.2 → P r.2) : P r.2 := by
  unfold Poll.Holds at h
  split at h
  · exact hready _ h
  · exact hwaiting h
  · exact h.elim

/-- What the calls on a stream do in its good states: reads give the bytes that are left and then
none, and every other call ends without a fault; a call that waits changes nothing. -/
structure SoundStream (σ : Type) [ByteStream σ] where
  good : σ → Prop
  left : σ → Bytes
  read : ∀ (now room : Nat) (s : σ), good s → Poll.Holds (ByteStream.read now room s)
    (fun bs s' => good s' ∧ left s = bs ++ left s' ∧ (0 < room → bs = [] → left s = []))
    fun s' => good s' ∧ left s' = left s
  write : ∀ (now : Nat) (bs : Bytes) (s : σ), good s → bs ≠ [] →
    Poll.Holds (ByteStream.write now bs s)
      (fun n s' => good s' ∧ left s' = left s ∧ 0 < n ∧ n ≤ bs.length)
      fun s' => good s' ∧ left s' = left s
  flush : ∀ (now : Nat) (s : σ), good s → Poll.Holds (ByteStream.flush now s)
    (fun _ s' => good s' ∧ left s' = left s) fun s' => good s' ∧ left s' = left s

namespace PlainTunnel

variable {σ : Type} [ByteStream σ]

theorem read_replay (now room : Nat) {t : PlainTunnel σ} (h : t.replay ≠ []) :
    ByteStream.read now room t =
      (.ready (t.replay.take room), { t with replay := t.replay.drop room }) :=
  if_neg (by simpa using h)

theorem read_inner (now room : Nat) {t : PlainTunnel σ} (h : t.replay = []) :
    ByteStream.read now room t =
      ((ByteStream.read now room t.inner).1,
        { t with inner := (ByteStream.read now room t.inner).2 }) :=
  if_pos (by simpa using h)

theorem read_answer (now room : Nat) (t : PlainTunnel σ) :
    (ByteStream.read now room t).1 =
      if t.replay = [] then (ByteStream.read now room t.inner).1
      else .ready (t.replay.take room) := by
  split
  · rw [read_inner now room ‹_›]
  · rw [read_replay now room ‹_›]

end PlainTunnel

namespace SoundStream

variable {σ : Type} [ByteStream σ]

/-- A tunnel on a sound stream is sound: what is to be replayed comes before what is left. -/
def plain (v : SoundStream σ) : SoundStream (PlainTunnel σ) where
  good t := v.good t.inner
  left t := t.replay ++ v.left t.inner
  read now room t ht := by
    by_cases he : t.replay = []
    · have hr := v.read now room t.inner ht
      rw [PlainTunnel.read_inner now room he, he]
      exact hr
    · rw [PlainTunnel.read_replay now room he]
      refine ⟨ht, by simp [← List.append_assoc], fun hroom hn => ?_⟩
      rcases List.take_eq_nil_iff.mp hn with h0 | hnil
      · omega
      · exact absurd hnil he
  write now bs t ht hbs := by
    apply Poll.Holds.imp (v.write now bs t.inner ht hbs)
    · rfl
    · rintro n ⟨hg, hl, hn⟩
      exact ⟨hg, congrArg (t.replay ++ ·) hl, hn⟩
    · rintro ⟨hg, hl⟩
      exact ⟨hg, congrArg (t.replay ++ ·) hl⟩
  flush now t ht := by
    apply Poll.Holds.imp (v.flush now t.inner ht)
    · rfl
    · rintro _ ⟨hg, hl⟩
      exact ⟨hg, congrArg (t.replay ++ ·) hl⟩
    · rintro ⟨hg, hl⟩
      exact ⟨hg, congrArg (t.replay ++ ·) hl⟩

/-- A recorded stream is as sound as the stream itself. -/
def recorded (v : SoundStream σ) : SoundStream (RecordedStream σ) where
  good s := v.good s.inner
  left s := v.left s.inner
  read now room s hs := v.read now room s.inner hs
  write now bs s hs hbs := v.write now bs s.inner hs hbs
  flush now s hs := v.flush now s.inner hs

theorem gather (v : SoundStream σ) {s : σ} (hs : v.good s) (calls : List (Nat × Nat)) :
    v.good (ByteStream.gather s calls).2 ∧
      v.left s = (ByteStream.gather s calls).1 ++ v.left (ByteStream.gather s calls).2 := by
  induction calls generalizing s with
  | nil => exact ⟨hs, rfl⟩
  | cons call calls ih =>
    obtain ⟨now, room⟩ := call
    have hr := v.read now room s hs
    rw [ByteStream.gather]
    rcases hread : ByteStream.read now room s with ⟨a, s'⟩
    rw [hread] at hr
    cases a with
    | ready bs =>
      obtain ⟨hg, hl, _⟩ := hr
      obtain ⟨hg', hl'⟩ := ih hg
      exact ⟨hg', by rw [hl, hl', List.append_assoc]⟩
    | waiting =>
      obtain ⟨hg, hl⟩ := hr
      obtain ⟨hg', hl'⟩ := ih hg
      exact ⟨hg', by rw [← hl, hl']⟩
    | fault f => exact absurd hr id

/-- Where a read finds the end of the stream, everything was read. -/
theorem gather_end (v : SoundStream σ) {s t : σ} (hs : v.good s) (calls : List (Nat × Nat))
    {now room : Nat} (hroom : 0 < room)
    (hend : ByteStream.read now room (ByteStream.gather s calls).2 = (.ready [], t)) :
    (ByteStream.gather s calls).1 = v.left s := by
  obtain ⟨hg, hl⟩ := v.gather hs calls
  have hr := v.read now room _ hg
  rw [hend] at hr
  have hleft := hr.2.2 hroom rfl
  rw [hl, hleft, List.append_nil]

/-- Reads that do not wait come to the end: each of them gives a byte, unless none is left. -/
theorem gather_progress (v : SoundStream σ) {s : σ} (hs : v.good s) {calls : List (Nat × Nat)}
    (hroom : ∀ call ∈ calls, 0 < call.2) :
    calls.length ≤ (ByteStream.gather s calls).1.length + ByteStream.idle s calls ∨
      (ByteStream.gather s calls).1 = v.left s := by
  induction calls generalizing s with
  | nil => exact .inl (Nat.zero_le _)
  | cons call calls ih =>
    obtain ⟨now, room⟩ := call
    have hpos : 0 < room := hroom (now, room) (by simp)
    have hrest : ∀ call ∈ calls, 0 < call.2 := fun c hc => hroom c (List.mem_cons_of_mem _ hc)
    have hall := (v.gather hs ((now, room) :: calls)).2
    have hr := v.read now room s hs
    rw [ByteStream.gather] at hall ⊢
    rw [ByteStream.idle]
    rcases hread : ByteStream.read now room s with ⟨a, s'⟩
    rw [hread] at hr hall
    cases a with
    | ready bs =>
      obtain ⟨hg, hl, hend⟩ : v.good s' ∧ v.left s = bs ++ v.left s' ∧
        (0 < room → bs = [] → v.left s = []) := hr
      dsimp only at hall ⊢
      cases bs with
      | nil =>
        -- the stream was at its end already
        rw [hend hpos rfl] at hall ⊢
        exact .inr (List.append_eq_nil_iff.mp hall.symm).1
      | cons b bs =>
        rcases ih hg hrest with hle | heq
        · left
          simp only [List.length_append, List.length_cons]
          omega
        · exact .inr (by rw [hl, heq])
    | waiting =>
      obtain ⟨hg, hl⟩ : v.good s' ∧ v.left s' = v.left s := hr
      dsimp only
      rcases ih hg hrest with hle | heq
      · left
        simp only [List.length_cons]
        omega
      · exact .inr (heq.trans hl)
    | fault f => exact absurd hr id

theorem read_ne_fault (v : SoundStream σ) {s : σ} (hs : v.good s) (now room : Nat) (f : IoFault) :
    (ByteStream.read now room s).1 ≠ .fault f := by
  intro hf
  have hr := v.read now room s hs
  rw [Poll.Holds, hf] at hr
  exact hr

end SoundStream

namespace Script

/-- An act that neither fails nor hangs, nor accepts nothing. -/
def isServing : Act → Bool
  | .fault _ => false
  | .hang => false
  | .atMost n => 0 < n
  | _ => true

theorem readFrom_holds {now room : Nat} (hroom : 0 < room) (acts : List Act) (since : Option Nat)
    (ha : acts.all isServing = true) :
    Poll.Holds (readFrom now room acts since)
      (fun bs s => s.acts.all isServing = true ∧ dataOf acts = bs ++ dataOf s.acts ∧
        (bs = [] → dataOf acts = []))
      fun s => s.acts.all isServing = true ∧ dataOf s.acts = dataOf acts := by
  induction acts generalizing since with
  | nil => exact ⟨rfl, rfl, fun _ => rfl⟩
  | cons act acts ih =>
    obtain ⟨hact, hacts⟩ : isServing act = true ∧ acts.all isServing = true := by simpa using ha
    cases act with
    | delay n =>
      rw [readFrom]
      split
      · exact ih none hacts
      · exact ⟨ha, rfl⟩
    | data bs =>
      rw [readFrom]
      by_cases hbs : bs.isEmpty = true
      · obtain rfl : bs = [] := by simpa using hbs
        exact ih none hacts
      · rw [if_neg hbs]
        have hne : bs ≠ [] := by simpa using hbs
        split
        · exact ⟨hacts, rfl, fun hn => absurd hn hne⟩
        · refine ⟨ha, by simp [dataOf, ← List.append_assoc], fun hn => ?_⟩
          rcases List.take_eq_nil_iff.mp hn with h0 | hnil
          · omega
          · exact absurd hnil hne
    | atMost n => exact ih none hacts
    | eof => exact ⟨ha, rfl, fun _ => rfl⟩
    | fault f => cases hact
    | hang => cases hact

theorem read_holds (now room : Nat) {s : Script} (hs : s.acts.all isServing = true) :
    Poll.Holds (s.read now room)
      (fun bs s' => s'.acts.all isServing = true ∧ dataOf s.acts = bs ++ dataOf s'.acts ∧
        (0 < room → bs = [] → dataOf s.acts = []))
      fun s' => s'.acts.all isServing = true ∧ dataOf s'.acts = dataOf s.acts := by
  unfold Script.read
  by_cases hroom : room = 0
  · rw [if_pos hroom]
    exact ⟨hs, rfl, fun h => by omega⟩
  · rw [if_neg hroom]
    apply Poll.Holds.imp (readFrom_holds (Nat.pos_of_ne_zero hroom) s.acts s.since hs)
    · rfl
    · rintro bs ⟨hg, hdata, hend⟩
      exact ⟨hg, hdata, fun _ => hend⟩
    · exact id

theorem writeFrom_holds {now size : Nat} (hsize : 0 < size) (acts : List Act) (since : Option Nat)
    (ha : acts.all isServing = true) :
    Poll.Holds (writeFrom now size acts since)
      (fun n s => s.acts.all isServing = true ∧ 0 < n ∧ n ≤ size)
      fun s => s.acts.all isServing = true := by
  induction acts generalizing since with
  | nil => exact ⟨rfl, hsize, Nat.le_refl _⟩
  | cons act acts ih =>
    obtain ⟨hact, hacts⟩ : isServing act = true ∧ acts.all isServing = true := by simpa using ha
    cases act with
    | delay n =>
      rw [writeFrom]
      split
      · exact ih none hacts
      · exact ha
    | atMost n =>
      have hn : 0 < n := by simpa [isServing] using hact
      exact ⟨hacts, Nat.lt_min.mpr ⟨hn, hsize⟩, Nat.min_le_right ..⟩
    | data bs => exact ⟨hacts, hsize, Nat.le_refl _⟩
    | eof => exact ⟨hacts, hsize, Nat.le_refl _⟩
    | fault f => cases hact
    | hang => cases hact

theorem callFrom_holds {now : Nat} (acts : List Act) (since : Option Nat)
    (ha : acts.all isServing = true) :
    Poll.Holds (callFrom now acts since) (fun _ s => s.acts.all isServing = true)
      fun s => s.acts.all isServing = true := by
  induction acts generalizing since with
  | nil => rfl
  | cons act acts ih =>
    obtain ⟨hact, hacts⟩ : isServing act = true ∧ acts.all isServing = true := by simpa using ha
    cases act with
    | delay n =>
      rw [callFrom]
      split
      · exact ih none hacts
      · exact ha
    | data | atMost | eof => exact hacts
    | fault f => cases hact
    | hang => cases hact

end Script

namespace ScriptedStream

theorem write_eq (now : Nat) (bs : Bytes) (s : ScriptedStream) :
    let r := Script.writeFrom now bs.length s.writes.acts s.writes.since
    (s.write now bs).1 = r.1 ∧ (s.write now bs).2.reads = s.reads ∧
      (s.write now bs).2.writes = r.2 ∧ (s.write now bs).2.flushes = s.flushes := by
  unfold ScriptedStream.write
  rcases Script.writeFrom now bs.length s.writes.acts s.writes.since with ⟨a, k⟩
  cases a <;> exact ⟨rfl, rfl, rfl, rfl⟩

theorem flush_eq (now : Nat) (s : ScriptedStream) :
    let r := Script.callFrom now s.flushes.acts s.flushes.since
    (s.flush now).1 = r.1 ∧ (s.flush now).2.reads = s.reads ∧
      (s.flush now).2.writes = s.writes ∧ (s.flush now).2.flushes = r.2 := by
  unfold ScriptedStream.flush
  rcases Script.callFrom now s.flushes.acts s.flushes.since with ⟨a, k⟩
  cases a <;> exact ⟨rfl, rfl, rfl, rfl⟩

/-- A scripted stream without faults is sound: its reads give the data of its script. -/
def sound : SoundStream ScriptedStream where
  good s := s.reads.acts.all Script.isServing = true ∧ s.writes.acts.all Script.isServing = true ∧
    s.flushes.acts.all Script.isServing = true
  left s := Script.dataOf s.reads.acts
  read now room s hs := by
    obtain ⟨hr, hw, hf⟩ := hs
    apply Poll.Holds.imp (Script.read_holds now room hr)
    · rfl
    · rintro bs ⟨hg, hdata, hend⟩
      exact ⟨⟨hg, hw, hf⟩, hdata, hend⟩
    · rintro ⟨hg, hdata⟩
      exact ⟨⟨hg, hw, hf⟩, hdata⟩
  write now bs s hs hbs := by
    obtain ⟨hr, hw, hf⟩ := hs
    obtain ⟨ha, hreads, hwrites, hflushes⟩ := write_eq now bs s
    have hsize : 0 < bs.length := List.length_pos_iff.mpr hbs
    have hleft : Script.dataOf (s.write now bs).2.reads.acts = Script.dataOf s.reads.acts := by
      rw [hreads]
    rw [← hreads] at hr
    rw [← hflushes] at hf
    apply Poll.Holds.imp (Script.writeFrom_holds hsize s.writes.acts s.writes.since hw)
    · exact ha
    · rintro n ⟨hg, hn⟩
      exact ⟨⟨hr, hwrites ▸ hg, hf⟩, hleft, hn⟩
    · intro hg
      exact ⟨⟨hr, hwrites ▸ hg, hf⟩, hleft⟩
  flush now s hs := by
    obtain ⟨hr, hw, hf⟩ := hs
    obtain ⟨ha, hreads, hwrites, hflushes⟩ := flush_eq now s
    have hleft : Script.dataOf (s.flush now).2.reads.acts = Script.dataOf s.reads.acts := by
      rw [hreads]
    rw [← hreads] at hr
    rw [← hwrites] at hw
    apply Poll.Holds.imp (Script.callFrom_holds s.flushes.acts s.flushes.since hf)
    · exact ha
    · intro _ hg
      exact ⟨⟨hr, hw, hflushes ▸ hg⟩, hleft⟩
    · intro hg
      exact ⟨⟨hr, hw, hflushes ▸ hg⟩, hleft⟩

end ScriptedStream
end TunnelDial
