import Mathlib.Data.List.Induction
import TunnelDial.Proofs.Stream.Sound
import TunnelDial.Proofs.Stream.Transcript
import TunnelDial.Tunnel.Replay

/-! A tunnel with bytes to replay is one stream: the bytes of the buffer and then those of the
connection, each once and in order, however the calls on it alternate. What is written goes past
the buffer. -/
namespace TunnelDial

namespace Script

/-- All data of a script that reads can come to: up to its end or to where it hangs, also after
faults. -/
def supply : List Act → Bytes
  | .data bs :: rest => bs ++ supply rest
  | .delay _ :: rest => supply rest
  | .atMost _ :: rest => supply rest
  | .fault _ :: rest => supply rest
  | _ => []

/-- Reads find the end of the stream, now and ever after. -/
def isOver : List Act → Bool
  | [] => true
  | .eof :: _ => true
  | _ => false

theorem supply_of_isOver {acts : List Act} (h : isOver acts = true) : supply acts = [] := by
  cases acts with
  | nil => rfl
  | cons act acts =>
    cases act with
    | eof => rfl
    | data | atMost | delay | fault | hang => cases h

theorem readFrom_supply {now room : Nat} (hroom : 0 < room) (acts : List Act)
    (since : Option Nat) :
    let r := readFrom now room acts since
    supply acts = RecordedStream.given r.1 ++ supply r.2.acts ∧
      (r.1 = .ready [] → isOver r.2.acts = true) := by
  induction acts generalizing since with
  | nil => exact ⟨rfl, fun _ => rfl⟩
  | cons act acts ih =>
    cases act with
    | delay n =>
      dsimp only
      rw [readFrom]
      split
      · exact ih none
      · exact ⟨rfl, fun h => by cases h⟩
    | data bs =>
      dsimp only
      rw [readFrom]
      by_cases hbs : bs.isEmpty = true
      · obtain rfl : bs = [] := by simpa using hbs
        exact ih none
      · rw [if_neg hbs]
        have hne : bs ≠ [] := by simpa using hbs
        split
        · exact ⟨rfl, fun h => absurd (Poll.ready.inj h) hne⟩
        · refine ⟨by simp [supply, RecordedStream.given, ← List.append_assoc], fun h => ?_⟩
          rcases List.take_eq_nil_iff.mp (Poll.ready.inj h) with h0 | hnil
          · omega
          · exact absurd hnil hne
    | atMost n => exact ih none
    | fault f => exact ⟨rfl, fun h => by cases h⟩
    | eof => exact ⟨rfl, fun _ => rfl⟩
    | hang => exact ⟨rfl, fun h => by cases h⟩

theorem read_supply (now room : Nat) (s : Script) :
    supply s.acts =
      RecordedStream.given (s.read now room).1 ++ supply (s.read now room).2.acts := by
  unfold Script.read
  by_cases hroom : room = 0
  · rw [if_pos hroom]
    rfl
  · rw [if_neg hroom]
    exact (readFrom_supply (Nat.pos_of_ne_zero hroom) s.acts s.since).1

theorem isOver_of_read {now room : Nat} (hroom : 0 < room) {s : Script}
    (h : (s.read now room).1 = .ready []) : isOver (s.read now room).2.acts = true := by
  unfold Script.read at h ⊢
  rw [if_neg (by omega)] at h ⊢
  exact (readFrom_supply hroom s.acts s.since).2 h

end Script

/-- Only reads bring bytes. -/
theorem StreamAnswer.got_use {σ : Type} [ByteStream σ] {u : StreamUse} (hu : u.isRead = false)
    (s : σ) : (ByteStream.use s u).1.got = [] := by
  cases u with
  | read now room => cases hu
  | write | flush | shutdown => rfl

namespace RecordedStream

variable {σ : Type}

/-- All bytes that reads gave. -/
def readBytes (s : RecordedStream σ) : Bytes := s.calls.flatMap StreamCall.got

theorem readBytes_eq_nil {s : RecordedStream σ} (h : ∀ c ∈ s.calls, c.isRead = false) :
    s.readBytes = [] := by
  refine List.flatMap_eq_nil_iff.mpr fun c hc => ?_
  cases c with
  | read bs => cases h _ hc
  | write | flush | shutdown => rfl

variable [ByteStream σ]

/-- A call that is no read leaves no read in the record, and a read leaves what it gave. -/
theorem use_calls (s : RecordedStream σ) (u : StreamUse) :
    ∃ c : StreamCall, (ByteStream.use s u).2.calls = s.calls ++ [c] ∧ c.isRead = u.isRead ∧
      c.got = (ByteStream.use s u).1.got := by
  cases u with
  | read now room => exact ⟨.read _, rfl, rfl, rfl⟩
  | write now bs => exact ⟨.write _, rfl, rfl, rfl⟩
  | flush now => exact ⟨.flush _, rfl, rfl, rfl⟩
  | shutdown now => exact ⟨.shutdown _, rfl, rfl, rfl⟩

/-- A recorded stream answers as the stream itself does. -/
theorem use_inner (s : RecordedStream σ) (u : StreamUse) :
    (ByteStream.use s u).1 = (ByteStream.use s.inner u).1 ∧
      (ByteStream.use s u).2.inner = (ByteStream.use s.inner u).2 := by
  cases u <;> exact ⟨rfl, rfl⟩

theorem use_readBytes (s : RecordedStream σ) (u : StreamUse) :
    (ByteStream.use s u).2.readBytes = s.readBytes ++ (ByteStream.use s u).1.got := by
  obtain ⟨c, hcalls, _, hgot⟩ := use_calls s u
  simp [readBytes, hcalls, hgot]

end RecordedStream

namespace ScriptedStream

/-- Calls that are no reads do not depend on the script of the reads, and leave it as it is. -/
theorem use_reads {u : StreamUse} (hu : u.isRead = false) (s : ScriptedStream) (reads : Script) :
    ByteStream.use { s with reads := reads } u =
      ((ByteStream.use s u).1, { (ByteStream.use s u).2 with reads := reads }) := by
  cases u with
  | read now room => cases hu
  | write now bs =>
    simp only [ByteStream.use, ByteStream.write, ScriptedStream.write]
    cases (Script.writeFrom now bs.length s.writes.acts s.writes.since).1 <;> rfl
  | flush now =>
    simp only [ByteStream.use, ByteStream.flush, ScriptedStream.flush]
    cases (Script.callFrom now s.flushes.acts s.flushes.since).1 <;> rfl
  | shutdown now =>
    simp only [ByteStream.use, ByteStream.shutdown, ScriptedStream.shutdown]
    cases (Script.callFrom now s.shutdowns.acts s.shutdowns.since).1 <;> rfl

theorem reads_use {u : StreamUse} (hu : u.isRead = false) (s : ScriptedStream) :
    (ByteStream.use s u).2.reads = s.reads :=
  congrArg (fun r => r.2.reads) (use_reads hu s s.reads)

/-- A call brings what the script of the reads has less after it. -/
theorem use_supply (s : ScriptedStream) (u : StreamUse) :
    Script.supply s.reads.acts =
      (ByteStream.use s u).1.got ++ Script.supply (ByteStream.use s u).2.reads.acts := by
  cases hu : u.isRead with
  | true =>
    cases u with
    | read now room => exact Script.read_supply now room s.reads
    | write | flush | shutdown => cases hu
  | false =>
    rw [reads_use hu, StreamAnswer.got_use hu]
    rfl

end ScriptedStream

namespace ReplayTunnel

section
variable {σ : Type}

theorem buffered_eq_nil {t : ReplayTunnel σ} :
    t.buffered = [] ↔ t.buffer.length ≤ t.pos := List.drop_eq_nil_iff

variable [ByteStream σ]

/-- While something is buffered, a read gives the next of that and does not touch the connection. -/
theorem read_buffered (now room : Nat) {t : ReplayTunnel σ} (h : t.buffered ≠ []) :
    let r := ByteStream.read now room t
    r.1 = .ready (t.buffered.take room) ∧ r.2.buffered = t.buffered.drop room ∧
      r.2.pos ≤ r.2.buffer.length ∧ r.2.inner = t.inner := by
  have hlt : t.pos < t.buffer.length := by
    rw [Ne, buffered_eq_nil] at h
    omega
  have hlen : (t.buffer.drop t.pos).length = t.buffer.length - t.pos := List.length_drop ..
  have hread : ByteStream.read now room t = t.read now room := rfl
  dsimp only
  rw [hread, ReplayTunnel.read, if_pos hlt]
  dsimp only
  refine ⟨?_, ?_⟩
  · rw [buffered, List.take_eq_take_iff.mpr]
    omega
  · by_cases hend : t.pos + min (t.buffer.drop t.pos).length room = t.buffer.length
    · rw [if_pos hend]
      refine ⟨?_, Nat.le_refl 0, rfl⟩
      rw [buffered, buffered, List.drop_nil, List.drop_drop]
      exact (List.drop_eq_nil_iff.mpr (by omega)).symm
    · rw [if_neg hend]
      have hroom : min (t.buffer.drop t.pos).length room = room := by omega
      refine ⟨?_, ?_, rfl⟩
      · rw [buffered, buffered, List.drop_drop, hroom]
      · dsimp only
        omega

theorem read_inner (now room : Nat) {t : ReplayTunnel σ} (h : t.buffered = []) :
    ByteStream.read now room t =
      ((ByteStream.read now room t.inner).1,
        { t with inner := (ByteStream.read now room t.inner).2 }) :=
  if_neg (by rw [buffered_eq_nil] at h; omega)

/-- A call is a read that is answered from the buffer, or it is a call on the connection; a read is
that only when nothing is buffered. -/
theorem use_cases (t : ReplayTunnel σ) (u : StreamUse) :
    (∃ now room, u = .read now room ∧ t.buffered ≠ [] ∧
      (ByteStream.use t u).1 = .read (.ready (t.buffered.take room)) ∧
      (ByteStream.use t u).2.buffered = t.buffered.drop room ∧
      (ByteStream.use t u).2.pos ≤ (ByteStream.use t u).2.buffer.length ∧
      (ByteStream.use t u).2.inner = t.inner) ∨
    (u.isRead = true → t.buffered = []) ∧
      ByteStream.use t u =
        ((ByteStream.use t.inner u).1, { t with inner := (ByteStream.use t.inner u).2 }) := by
  cases u with
  | read now room =>
    by_cases hb : t.buffered = []
    · exact .inr ⟨fun _ => hb, by rw [ByteStream.use, read_inner now room hb]; rfl⟩
    · obtain ⟨hanswer, hnext⟩ := read_buffered now room hb
      exact .inl ⟨now, room, rfl, hb, congrArg StreamAnswer.read hanswer, hnext⟩
  | write | flush | shutdown => exact .inr ⟨nofun, rfl⟩

/-- The buffer with its position and the bytes still to be replayed are answered alike. -/
theorem use_plain (t : ReplayTunnel σ) (u : StreamUse) :
    (ByteStream.use t u).1 = (ByteStream.use t.plain u).1 ∧
      (ByteStream.use t u).2.plain = (ByteStream.use t.plain u).2 := by
  cases u with
  | read now room =>
    by_cases h : t.buffered = []
    · have hplain : t.plain.replay = [] := h
      simp only [ByteStream.use, read_inner now room h, PlainTunnel.read_inner now room hplain]
      exact ⟨rfl, rfl⟩
    · have hplain : t.plain.replay ≠ [] := h
      obtain ⟨hanswer, hleft, _, hinner⟩ := read_buffered now room h
      simp only [ByteStream.use, PlainTunnel.read_replay now room hplain, hanswer]
      exact ⟨rfl, by rw [plain, hleft, hinner]; rfl⟩
  | write | flush | shutdown => exact ⟨rfl, rfl⟩

end

section
variable {σ : Type} {buffer got : Bytes} {t : ReplayTunnel (RecordedStream σ)}

/-- After some calls that brought the bytes `got`: these and what is still buffered are the buffer
and all that was read from the connection, and nothing was before the buffer was used up. -/
structure Replayed (buffer got : Bytes) (t : ReplayTunnel (RecordedStream σ)) : Prop where
  pos_le : t.pos ≤ t.buffer.length
  whole : got ++ t.buffered = buffer ++ t.inner.readBytes
  untouched : t.buffered ≠ [] → ∀ c ∈ t.inner.calls, c.isRead = false

theorem replayed_start (buffer : Bytes) (s : σ) :
    Replayed buffer [] (start buffer (⟨s, []⟩ : RecordedStream σ)) :=
  ⟨Nat.zero_le _, (List.append_nil _).symm, fun _ => nofun⟩

/-- What is buffered is what was not given out of the buffer. -/
theorem Replayed.buffered_eq (h : Replayed buffer got t) : t.buffered = buffer.drop got.length := by
  by_cases hb : t.buffered = []
  · have hwhole := h.whole
    rw [hb, List.append_nil] at hwhole
    rw [hb, hwhole, List.drop_eq_nil_iff.mpr (by simp)]
  · have hwhole := h.whole
    rw [RecordedStream.readBytes_eq_nil (h.untouched hb), List.append_nil] at hwhole
    rw [← hwhole, List.drop_left]

variable [ByteStream σ]

theorem Replayed.use (h : Replayed buffer got t) (u : StreamUse) :
    Replayed buffer (got ++ (ByteStream.use t u).1.got) (ByteStream.use t u).2 := by
  rcases use_cases t u with ⟨now, room, rfl, hb, hanswer, hleft, hpos, hinner⟩ | ⟨hread, huse⟩
  · refine ⟨hpos, ?_, fun _ => ?_⟩
    · have hgot : (ByteStream.use t (.read now room)).1.got = t.buffered.take room :=
        congrArg StreamAnswer.got hanswer
      rw [hgot, hleft, hinner, List.append_assoc, List.take_append_drop]
      exact h.whole
    · rw [hinner]
      exact h.untouched hb
  · rw [huse]
    cases hu : u.isRead with
    | true =>
      have hb : t.buffered = [] := hread hu
      refine ⟨h.pos_le, ?_, fun hn => absurd hb hn⟩
      have hwhole := h.whole
      change _ ++ t.buffered = _
      rw [hb, List.append_nil] at hwhole ⊢
      rw [RecordedStream.use_readBytes, hwhole, List.append_assoc]
    | false =>
      obtain ⟨c, hcalls, hc, hgot⟩ := RecordedStream.use_calls t.inner u
      have hnone : (ByteStream.use t.inner u).1.got = [] := StreamAnswer.got_use hu t.inner
      refine ⟨h.pos_le, ?_, fun hn => ?_⟩
      · rw [RecordedStream.use_readBytes, hnone, List.append_nil, List.append_nil]
        exact h.whole
      · rw [hcalls]
        refine List.forall_mem_append.mpr ⟨h.untouched hn, ?_⟩
        simpa using hc.trans hu

theorem replayed_run (buffer : Bytes) (s : σ) (us : List StreamUse) :
    let r := transcript ByteStream.use (start buffer (⟨s, []⟩ : RecordedStream σ)) us
    Replayed buffer (gotten r.1) r.2 := by
  induction us using List.reverseRecOn with
  | nil => exact replayed_start buffer s
  | append_singleton us u ih =>
    dsimp only
    rw [transcript_concat]
    have hgot (log : List (StreamUse × StreamAnswer)) (a : StreamAnswer) :
        gotten (log ++ [(u, a)]) = gotten log ++ a.got := by simp [gotten]
    rw [hgot]
    exact ih.use u

end

section
variable {t : ReplayTunnel (RecordedStream ScriptedStream)}

theorem supply_use (t : ReplayTunnel (RecordedStream ScriptedStream)) (u : StreamUse) :
    (ByteStream.use t u).2.inner.readBytes ++
        Script.supply (ByteStream.use t u).2.inner.inner.reads.acts =
      t.inner.readBytes ++ Script.supply t.inner.inner.reads.acts := by
  rcases use_cases t u with ⟨_, _, _, _, _, _, _, hinner⟩ | ⟨_, huse⟩
  · rw [hinner]
  · obtain ⟨hanswer, hnext⟩ := RecordedStream.use_inner t.inner u
    rw [huse]
    dsimp only
    rw [RecordedStream.use_readBytes, hanswer, hnext, List.append_assoc,
      ← ScriptedStream.use_supply]

/-- What a run read from a scripted connection and what the script still has make up the script. -/
theorem supply_run (buffer : Bytes) (s : ScriptedStream) (us : List StreamUse) :
    let t := (transcript ByteStream.use (start buffer (⟨s, []⟩ : RecordedStream _)) us).2
    t.inner.readBytes ++ Script.supply t.inner.inner.reads.acts = Script.supply s.reads.acts :=
  transcript_keeps (P := fun t : ReplayTunnel (RecordedStream ScriptedStream) =>
    t.inner.readBytes ++ Script.supply t.inner.inner.reads.acts = Script.supply s.reads.acts)
    (fun t u ht => (supply_use t u).trans ht) rfl us

/-- A read that finds the end comes after everything that was buffered, and its script is over. -/
theorem ended_of_read {now room : Nat} (hroom : 0 < room)
    (h : (ByteStream.read now room t).1 = .ready []) :
    t.buffered = [] ∧ Script.supply t.inner.inner.reads.acts = [] ∧
      Script.isOver (ByteStream.read now room t).2.inner.inner.reads.acts = true := by
  have hb : t.buffered = [] := by
    by_contra hb
    rw [(read_buffered now room hb).1] at h
    rcases List.take_eq_nil_iff.mp (Poll.ready.inj h) with h0 | hnil
    · omega
    · exact hb hnil
  rw [read_inner now room hb] at h ⊢
  have hanswer : (t.inner.inner.reads.read now room).1 = .ready [] := h
  have hover := Script.isOver_of_read hroom hanswer
  refine ⟨hb, ?_, hover⟩
  rw [Script.read_supply now room, hanswer, Script.supply_of_isOver hover]
  rfl

/-- A read of a tunnel leaves the connection as it is but for the script of its reads. -/
theorem read_writes (t : ReplayTunnel (RecordedStream ScriptedStream)) (now room : Nat)
    (reads : Script) :
    { (ByteStream.use t (.read now room)).2.inner.inner with reads := reads } =
      { t.inner.inner with reads := reads } := by
  rcases use_cases t (.read now room) with ⟨_, _, _, _, _, _, _, hinner⟩ | ⟨_, huse⟩
  · rw [hinner]
  · rw [huse]
    rfl

/-- Without its reads, a run on a tunnel is a run on its connection. -/
theorem run_writes (t : ReplayTunnel (RecordedStream ScriptedStream)) (us : List StreamUse) :
    let r := transcript ByteStream.use t us
    let alone := transcript ByteStream.use t.inner.inner (us.filter (!·.isRead))
    r.1.filter (!·.1.isRead) = alone.1 ∧
      { r.2.inner.inner with reads := alone.2.reads } = alone.2 := by
  refine transcript_filter (p := fun u => !u.isRead)
    (R := fun (t : ReplayTunnel (RecordedStream ScriptedStream)) (s : ScriptedStream) =>
      { t.inner.inner with reads := s.reads } = s) ?_ ?_ (s := t) (t := t.inner.inner) rfl us
  · intro t s u hu hR
    have hread : u.isRead = false := by simpa using hu
    rcases use_cases t u with ⟨_, _, rfl, _⟩ | ⟨_, huse⟩
    · cases hread
    · obtain ⟨hanswer, hnext⟩ := RecordedStream.use_inner t.inner u
      rw [← hR, ScriptedStream.use_reads hread, huse]
      exact ⟨hanswer, by rw [hnext]⟩
  · intro t s u hu hR
    cases u with
    | read now room => rw [read_writes, hR]
    | write | flush | shutdown => cases hu

/-- Without its other calls, the reads of a run on a tunnel bring the same. -/
theorem run_reads (t : ReplayTunnel (RecordedStream ScriptedStream)) (us : List StreamUse) :
    let r := transcript ByteStream.use t us
    let alone := transcript ByteStream.use t (us.filter (·.isRead))
    r.1.filter (·.1.isRead) = alone.1 ∧ r.2.buffer = alone.2.buffer ∧ r.2.pos = alone.2.pos ∧
      r.2.inner.inner.reads = alone.2.inner.inner.reads := by
  refine transcript_filter (p := StreamUse.isRead)
    (R := fun (t t' : ReplayTunnel (RecordedStream ScriptedStream)) =>
      t.buffer = t'.buffer ∧ t.pos = t'.pos ∧ t.inner.inner.reads = t'.inner.inner.reads)
    ?_ ?_ ⟨rfl, rfl, rfl⟩ us
  · rintro ⟨buffer, pos, s⟩ ⟨_, _, s'⟩ u hu ⟨rfl, rfl, hreads⟩
    cases u with
    | read now room =>
      have hscript : s.inner.reads.read now room = s'.inner.reads.read now room :=
        congrArg (Script.read now room) hreads
      have hread (s : RecordedStream ScriptedStream) :
          ByteStream.use (⟨buffer, pos, s⟩ : ReplayTunnel _) (.read now room) =
            (.read ((⟨buffer, pos, s⟩ : ReplayTunnel _).read now room).1,
              ((⟨buffer, pos, s⟩ : ReplayTunnel _).read now room).2) := rfl
      rw [hread s, hread s', ReplayTunnel.read, ReplayTunnel.read]
      split
      · dsimp only
        split <;> exact ⟨rfl, rfl, rfl, hreads⟩
      · exact ⟨congrArg (fun r => StreamAnswer.read r.1) hscript, rfl, rfl,
          congrArg Prod.snd hscript⟩
    | write | flush | shutdown => cases hu
  · rintro t t' u hu ⟨hbuffer, hpos, hreads⟩
    rcases use_cases t u with ⟨_, _, rfl, _⟩ | ⟨_, huse⟩
    · cases hu
    · rw [huse]
      refine ⟨hbuffer, hpos, ?_⟩
      rw [(RecordedStream.use_inner t.inner u).2, ScriptedStream.reads_use hu]
      exact hreads

/-- However the calls on a tunnel alternate, it is the stream of its buffer and then of its
connection. Its reads bring a beginning of these bytes, each once and in order; what is buffered is
the part of the buffer that they did not bring, and until nothing is the connection is not read. A
read with room for some bytes brings none only after all of them, when the script of the connection
is over. Writes, flushes and shutdowns are answered as the connection alone answers them, and reads
as a tunnel without these. The same holds of the tunnel that keeps only what is to be replayed. -/
theorem replay_then_connection (buffer : Bytes) (reads writes flushes shutdowns : List Act)
    (us : List StreamUse) :
    let s := ScriptedStream.ofActs reads writes flushes shutdowns
    let c : RecordedStream ScriptedStream := ⟨s, []⟩
    let r := transcript ByteStream.use (start buffer c) us
    let t := r.2
    let whole := buffer ++ Script.supply reads
    let puts := transcript ByteStream.use s (us.filter (!·.isRead))
    let gets := transcript ByteStream.use (start buffer c) (us.filter (·.isRead))
    t.pos ≤ t.buffer.length ∧
    gotten r.1 <+: whole ∧
    gotten r.1 ++ t.buffered ++ Script.supply t.inner.inner.reads.acts = whole ∧
    t.buffered = buffer.drop (gotten r.1).length ∧
    (t.buffered ≠ [] → (∀ call ∈ t.inner.calls, call.isRead = false) ∧
      ∀ now room, (ByteStream.read now room t).2.inner = t.inner) ∧
    (∀ now room, 0 < room → (ByteStream.read now room t).1 = .ready [] →
      t.buffered = [] ∧ gotten r.1 = whole ∧
        Script.isOver (ByteStream.read now room t).2.inner.inner.reads.acts = true) ∧
    (r.1.filter (!·.1.isRead) = puts.1 ∧
      { t.inner.inner with reads := puts.2.reads } = puts.2) ∧
    (r.1.filter (·.1.isRead) = gets.1 ∧ t.buffer = gets.2.buffer ∧ t.pos = gets.2.pos ∧
      t.inner.inner.reads = gets.2.inner.inner.reads) ∧
    transcript ByteStream.use (⟨buffer, c⟩ : PlainTunnel (RecordedStream ScriptedStream)) us =
      (r.1, t.plain) := by
  intro s c r t whole puts gets
  have hrun : Replayed buffer (gotten r.1) t := replayed_run buffer s us
  have hsupply : t.inner.readBytes ++ Script.supply t.inner.inner.reads.acts =
      Script.supply reads := supply_run buffer s us
  have hwhole : gotten r.1 ++ t.buffered ++ Script.supply t.inner.inner.reads.acts = whole := by
    rw [hrun.whole, List.append_assoc, hsupply]
  refine ⟨hrun.pos_le, ⟨_, (List.append_assoc ..).symm.trans hwhole⟩, hwhole, hrun.buffered_eq,
    fun hb => ⟨hrun.untouched hb, fun now room => (read_buffered now room hb).2.2.2⟩,
    fun now room hroom hend => ?_, run_writes _ us, run_reads _ us, ?_⟩
  · obtain ⟨hb, hleft, hover⟩ := ended_of_read hroom hend
    rw [hb, hleft, List.append_nil, List.append_nil] at hwhole
    exact ⟨hb, hwhole, hover⟩
  · have hplain := transcript_eq (R := fun (t : ReplayTunnel _) p => t.plain = p)
      (fun t _ u h => h ▸ use_plain t u) (rfl : (start buffer c).plain = _) us
    exact Prod.ext hplain.1.symm hplain.2.symm

/-- Reads of two, five and no bytes around a write; the second one uses the buffer up. -/
theorem replay_then_connection_drained :
    let c : RecordedStream ScriptedStream := ⟨.ofActs [.data [4], .data [5]] [.atMost 1] [] [], []⟩
    let r := transcript ByteStream.use (start [1, 2, 3] c)
      [.read 0 2, .write 0 [7, 8], .read 0 5, .read 0 0, .read 0 5, .read 0 5]
    gotten r.1 = [1, 2, 3, 4, 5] ∧ r.2.buffered = [] ∧ r.2.inner.inner.written = [7] := by
  intro c r
  obtain ⟨_, _, _, _, _, hend, _⟩ :=
    replay_then_connection [1, 2, 3] [.data [4], .data [5]] [.atMost 1] [] []
      [.read 0 2, .write 0 [7, 8], .read 0 5, .read 0 0, .read 0 5, .read 0 5]
  obtain ⟨hb, hgot, _⟩ := hend 0 1 (by decide) rfl
  have hwhole : [1, 2, 3] ++ Script.supply [.data [4], .data [5]] = [1, 2, 3, 4, 5] := rfl
  have hwritten : r.2.inner.inner.written = [7] := by decide +kernel
  exact ⟨hgot.trans hwhole, hb, hwritten⟩

end
end ReplayTunnel
end TunnelDial
