import TunnelDial.Proofs.Request.Reply
import TunnelDial.Proofs.Stream.Sound
import TunnelDial.Request.Exchange
import TunnelDial.Request.Head

/-! The exchange on a sound stream. The calls on the stream are writes that put in the request, then
flushes of which the last one is done, then reads; what the exchange leads to depends on the bytes
of the proxy alone, and the tunnel gives exactly those behind the head. -/
namespace TunnelDial

/-- What the exchange led to, with more bytes to come on the stream. -/
def ExchangeStep.andThen (o : ExchangeStep) (bs : Bytes) : ExchangeStep :=
  match o with
  | accepted status rest => .accepted status (rest ++ bs)
  | o => o

namespace RecordedStream

variable {σ : Type} [ByteStream σ] {s : RecordedStream σ} {s' : σ} {now : Nat}

theorem read_eq {room : Nat} {a : Poll Bytes} (h : ByteStream.read now room s.inner = (a, s')) :
    ByteStream.read now room s = (a, ⟨s', s.calls ++ [.read (given a)]⟩) := by
  change RecordedStream.read now room s = _
  rw [RecordedStream.read, h]

theorem write_eq {bs : Bytes} {a : Poll Nat} (h : ByteStream.write now bs s.inner = (a, s')) :
    ByteStream.write now bs s = (a, ⟨s', s.calls ++ [.write (accepted bs a)]⟩) := by
  change RecordedStream.write now bs s = _
  rw [RecordedStream.write, h]

theorem flush_eq {a : Poll Unit} (h : ByteStream.flush now s.inner = (a, s')) :
    ByteStream.flush now s = (a, ⟨s', s.calls ++ [.flush (isDone a)]⟩) := by
  change RecordedStream.flush now s = _
  rw [RecordedStream.flush, h]

end RecordedStream

namespace Exchange

/-- What an exchange leads to when the proxy answers with these bytes and then ends the stream. -/
def verdict (answer : Bytes) : ExchangeStep :=
  match HeadReader.start.feed answer with
  | .more _ => .failed (.io headUnfinished)
  | .done status rest => conclude status rest
  | .fault f => .failed (.io f)

/-- The tunnel is accepted when the head says so; all behind it is the tunnel's. -/
theorem feed_of_verdict {answer tail : Bytes} {status : Status}
    (h : verdict answer = .accepted status tail) :
    HeadReader.start.feed answer = .done status tail := by
  unfold verdict at h
  split at h
  · cases h
  · rename_i status' rest hfeed
    unfold conclude at h
    split at h
    · cases h
      exact hfeed
    · cases h
  · cases h

/-- The calls are writes of the request, flushes of which the last one is done, and those reads. -/
def Sent (request : Bytes) (calls reads : List StreamCall) : Prop :=
  ∃ ws fs, calls = ws ++ fs ++ .flush true :: reads ∧ (∀ c ∈ ws, c.isWrite = true) ∧
    ws.flatMap StreamCall.put = request ∧ (∀ c ∈ fs, c = .flush false) ∧
    ∀ c ∈ reads, c.isRead = true

variable {σ : Type} [ByteStream σ] {v : SoundStream σ} {request answer : Bytes} {e : Exchange}
  {s : RecordedStream σ}

/-- How far an exchange of a request for an answer has come. -/
inductive Stage (v : SoundStream σ) (request answer : Bytes) (e : Exchange)
    (s : RecordedStream σ) : Prop
  | writing {left} : e.phase = .writing left → (∀ c ∈ s.calls, c.isWrite = true) →
      s.written ++ left = request → v.left s.inner = answer → Stage v request answer e s
  | flushing {ws fs} : e.phase = .flushing → s.calls = ws ++ fs → (∀ c ∈ ws, c.isWrite = true) →
      ws.flatMap StreamCall.put = request → (∀ c ∈ fs, c = .flush false) →
      v.left s.inner = answer → Stage v request answer e s
  | reading {head reads} : e.phase = .reading head → Sent request s.calls reads →
      HeadReader.start.feed (reads.flatMap StreamCall.got) = .more head →
      reads.flatMap StreamCall.got ++ v.left s.inner = answer → Stage v request answer e s

/-- One step needs no call: the one from the last write to the first flush. -/
def slack (e : Exchange) : Nat :=
  match e.phase with
  | .writing _ => 0
  | _ => 1

/-- What an exchange led to by that many steps on a sound stream. -/
inductive Leads (v : SoundStream σ) (request answer : Bytes) (deadline steps : Nat) :
    ExchangeStep × RecordedStream σ → Prop
  | next {e' s'} : v.good s'.inner → Stage v request answer e' s' → e'.deadline = deadline →
      steps ≤ s'.calls.length + e'.slack → Leads v request answer deadline steps (.next e', s')
  | accepted {status rest s' reads} : v.good s'.inner → Sent request s'.calls reads →
      verdict answer = .accepted status (rest ++ v.left s'.inner) →
      Leads v request answer deadline steps (.accepted status rest, s')
  | failed {f s' reads} : v.good s'.inner → Sent request s'.calls reads →
      verdict answer = .failed f → Leads v request answer deadline steps (.failed f, s')

theorem slack_add (calls : List StreamCall) (c : StreamCall) (e : Exchange) :
    calls.length + e.slack + 1 ≤ (calls ++ [c]).length + e.slack := by
  rw [List.length_append, List.length_singleton]
  omega

/-- An exchange that waits is where it was. -/
def settle (e : Exchange) (r : ExchangeStep × RecordedStream σ) :
    ExchangeStep × RecordedStream σ :=
  match r.1 with
  | .waiting => (.next e, r.2)
  | _ => r

/-- One step on a sound stream leads on, or waits. -/
def Goes (v : SoundStream σ) (request answer : Bytes) (e : Exchange) (s : RecordedStream σ)
    (r : ExchangeStep × RecordedStream σ) : Prop :=
  Leads v request answer e.deadline (s.calls.length + e.slack + 1) (e.settle r)

theorem Sent.read {calls reads : List StreamCall} (h : Sent request calls reads) (bs : Bytes) :
    Sent request (calls ++ [.read bs]) (reads ++ [.read bs]) := by
  obtain ⟨ws, fs, rfl, hws, hput, hfs, hrs⟩ := h
  refine ⟨ws, fs, by simp, hws, hput, hfs, fun c hc => ?_⟩
  rcases List.mem_append.mp hc with hc | hc
  · exact hrs c hc
  · rw [List.mem_singleton.mp hc]
    rfl

/-- A write of the rest of the request. -/
theorem Stage.write {left : Bytes} (hg : v.good s.inner) (hp : e.phase = .writing left)
    (hcalls : ∀ c ∈ s.calls, c.isWrite = true) (hreq : s.written ++ left = request)
    (hans : v.left s.inner = answer) (now : Nat) : Goes v request answer e s (e.step now s) := by
  cases left with
  | nil =>
    have hstep : e.step now s = (.next { e with phase := .flushing }, s) := by simp [step, hp]
    rw [hstep]
    refine Leads.next hg (.flushing rfl (List.append_nil _).symm hcalls ?_ (by simp) hans) rfl ?_
    · simpa [RecordedStream.written] using hreq
    · simp [slack, hp]
  | cons b left =>
    have hw := v.write now (b :: left) s.inner hg (by simp)
    rcases hr : ByteStream.write now (b :: left) s.inner with ⟨a, s'⟩
    rw [hr] at hw
    have hmem (bs : Bytes) : ∀ c ∈ s.calls ++ [.write bs], c.isWrite = true := by
      intro c hc
      rcases List.mem_append.mp hc with hc | hc
      · exact hcalls c hc
      · rw [List.mem_singleton.mp hc]
        rfl
    cases a with
    | ready n =>
      obtain ⟨hg', hl, hpos, hle⟩ := hw
      obtain ⟨n, rfl⟩ : ∃ k, n = k + 1 := ⟨n - 1, by omega⟩
      have hstep : e.step now s = (.next { e with phase := .writing ((b :: left).drop (n + 1)) },
          ⟨s', s.calls ++ [.write ((b :: left).take (n + 1))]⟩) := by
        simp only [step, hp, RecordedStream.write_eq hr, RecordedStream.accepted]
      rw [hstep]
      refine Leads.next hg' (.writing rfl (hmem _) ?_ (hl.trans hans)) rfl ?_
      · have : s.written ++ (b :: left) = request := hreq
        rw [← this, RecordedStream.written, List.flatMap_append, List.append_assoc]
        simp [StreamCall.put, RecordedStream.written]
      · simp [slack, hp]
    | waiting =>
      obtain ⟨hg', hl⟩ := hw
      have hstep : e.step now s = (.waiting, ⟨s', s.calls ++ [.write []]⟩) := by
        simp only [step, hp, RecordedStream.write_eq hr, RecordedStream.accepted]
      rw [hstep]
      refine Leads.next hg' (.writing hp (hmem _) ?_ (hl.trans hans)) rfl (slack_add _ _ e)
      rw [← hreq, RecordedStream.written, List.flatMap_append]
      simp [StreamCall.put, RecordedStream.written]
    | fault f => exact absurd hw id

theorem Stage.flush {ws fs : List StreamCall} (hg : v.good s.inner) (hp : e.phase = .flushing)
    (hcalls : s.calls = ws ++ fs) (hws : ∀ c ∈ ws, c.isWrite = true)
    (hput : ws.flatMap StreamCall.put = request) (hfs : ∀ c ∈ fs, c = .flush false)
    (hans : v.left s.inner = answer) (now : Nat) : Goes v request answer e s (e.step now s) := by
  have hf := v.flush now s.inner hg
  rcases hr : ByteStream.flush now s.inner with ⟨a, s'⟩
  rw [hr] at hf
  cases a with
  | ready u =>
    obtain ⟨hg', hl⟩ := hf
    have hstep : e.step now s = (.next { e with phase := .reading .start },
        ⟨s', s.calls ++ [.flush true]⟩) := by
      simp only [step, hp, RecordedStream.flush_eq hr, RecordedStream.isDone]
    rw [hstep]
    have hsent : Sent request (s.calls ++ [.flush true]) [] :=
      ⟨ws, fs, by rw [hcalls], hws, hput, hfs, by simp⟩
    refine Leads.next hg' (.reading rfl hsent rfl (hl.trans hans)) rfl ?_
    simp [slack, hp]
  | waiting =>
    obtain ⟨hg', hl⟩ := hf
    have hstep : e.step now s = (.waiting, ⟨s', s.calls ++ [.flush false]⟩) := by
      simp only [step, hp, RecordedStream.flush_eq hr, RecordedStream.isDone]
    rw [hstep]
    have hcalls' : s.calls ++ [.flush false] = ws ++ (fs ++ [.flush false]) := by
      rw [hcalls, List.append_assoc]
    refine Leads.next hg' (.flushing hp hcalls' hws hput ?_ (hl.trans hans)) rfl (slack_add _ _ e)
    intro c hc
    rcases List.mem_append.mp hc with hc | hc
    · exact hfs c hc
    · exact List.mem_singleton.mp hc
  | fault f => exact absurd hf id

theorem Stage.read {head : HeadReader} {reads : List StreamCall} (hg : v.good s.inner)
    (hp : e.phase = .reading head) (hsent : Sent request s.calls reads)
    (hfeed : HeadReader.start.feed (reads.flatMap StreamCall.got) = .more head)
    (hans : reads.flatMap StreamCall.got ++ v.left s.inner = answer) (now : Nat) :
    Goes v request answer e s (e.step now s) := by
  have hread := v.read now readSize s.inner hg
  rcases hr : ByteStream.read now readSize s.inner with ⟨a, s'⟩
  rw [hr] at hread
  cases a with
  | ready bs =>
    obtain ⟨hg', hl, hend⟩ := hread
    have hsent' := hsent.read bs
    -- all bytes of the answer: those read before, those just read, those left
    have hall : answer = reads.flatMap StreamCall.got ++ (bs ++ v.left s') := by
      rw [← hans, hl]
    cases bs with
    | nil =>
      have hstep : e.step now s = (.failed (.io headUnfinished), ⟨s', s.calls ++ [.read []]⟩) := by
        simp only [step, hp, RecordedStream.read_eq hr, RecordedStream.given]
      have hnil : v.left s.inner = [] := hend (by decide) rfl
      rw [hstep]
      refine Leads.failed hg' hsent' ?_
      rw [hnil, List.append_nil] at hans
      rw [verdict, ← hans, hfeed]
    | cons b bs =>
      have hfeed' : HeadReader.start.feed
          ((reads ++ [StreamCall.read (b :: bs)]).flatMap StreamCall.got) =
            head.feed (b :: bs) := by
        rw [List.flatMap_append, HeadReader.feed_append, hfeed]
        simp [StreamCall.got, HeadProgress.andThen]
      have hverdict : HeadReader.start.feed answer = (head.feed (b :: bs)).andThen (v.left s') := by
        rw [hall, HeadReader.feed_append, hfeed]
        exact HeadReader.feed_append head (b :: bs) (v.left s')
      cases hk : head.feed (b :: bs) with
      | more head' =>
        have hstep : e.step now s = (.next { e with phase := .reading head' },
            ⟨s', s.calls ++ [.read (b :: bs)]⟩) := by
          simp only [step, hp, RecordedStream.read_eq hr, RecordedStream.given, hk]
        rw [hstep]
        refine Leads.next hg' (.reading rfl hsent' (hfeed'.trans hk) ?_) rfl ?_
        · rw [hall]
          simp [StreamCall.got]
        · simp [slack, hp]
      | done status rest =>
        have hstep : e.step now s =
            (conclude status rest, ⟨s', s.calls ++ [.read (b :: bs)]⟩) := by
          simp only [step, hp, RecordedStream.read_eq hr, RecordedStream.given, hk]
        rw [hk] at hverdict
        have hconclude : verdict answer = conclude status (rest ++ v.left s') := by
          rw [verdict, hverdict]
          rfl
        rw [hstep]
        by_cases hcode : status.code = 200
        · rw [conclude, if_pos hcode] at hconclude ⊢
          exact Leads.accepted hg' hsent' hconclude
        · rw [conclude, if_neg hcode] at hconclude ⊢
          exact Leads.failed hg' hsent' hconclude
      | fault f =>
        have hstep : e.step now s = (.failed (.io f), ⟨s', s.calls ++ [.read (b :: bs)]⟩) := by
          simp only [step, hp, RecordedStream.read_eq hr, RecordedStream.given, hk]
        rw [hk] at hverdict
        rw [hstep]
        exact Leads.failed hg' hsent' (by rw [verdict, hverdict]; rfl)
  | waiting =>
    obtain ⟨hg', hl⟩ := hread
    have hstep : e.step now s = (.waiting, ⟨s', s.calls ++ [.read []]⟩) := by
      simp only [step, hp, RecordedStream.read_eq hr, RecordedStream.given]
    rw [hstep]
    refine Leads.next hg' (.reading hp (hsent.read []) ?_ ?_) rfl (slack_add _ _ e)
    · simpa [StreamCall.got] using hfeed
    · simpa [StreamCall.got, hl] using hans
  | fault f => exact absurd hread id

theorem Stage.step (hg : v.good s.inner) (hs : Stage v request answer e s) (now : Nat) :
    Goes v request answer e s (e.step now s) := by
  cases hs with
  | writing hp hcalls hreq hans => exact Stage.write hg hp hcalls hreq hans now
  | flushing hp hcalls hws hput hfs hans => exact Stage.flush hg hp hcalls hws hput hfs hans now
  | reading hp hsent hfeed hans => exact Stage.read hg hp hsent hfeed hans now

theorem attend_of_lt {now : Nat} (h : now < e.deadline) (s : RecordedStream σ) :
    e.attend now s = e.step now s := by
  rcases hr : e.step now s with ⟨o, s'⟩
  cases o with
  | waiting =>
    have hlate : ¬e.deadline ≤ now := by omega
    simp [attend, hr, hlate]
  | next | accepted | failed => simp [attend, hr]

theorem Leads.mono {deadline n m : Nat} {r : ExchangeStep × RecordedStream σ}
    (h : Leads v request answer deadline n r) (hle : m ≤ n) :
    Leads v request answer deadline m r := by
  cases h with
  | next hg hs hd hn => exact .next hg hs hd (by omega)
  | accepted hg hs ho => exact .accepted hg hs ho
  | failed hg hs ho => exact .failed hg hs ho

/-- However many steps an exchange makes before its deadline, it keeps to its course. -/
theorem Stage.course (hg : v.good s.inner) (hs : Stage v request answer e s) {nows : List Nat}
    (hnows : ∀ now ∈ nows, now < e.deadline) :
    Leads v request answer e.deadline (s.calls.length + e.slack + nows.length)
      (e.course s nows) := by
  induction nows generalizing e s with
  | nil => exact .next hg hs rfl (Nat.le_refl _)
  | cons now nows ih =>
    have hstep := hs.step hg now
    rw [← attend_of_lt (hnows now (by simp)) s] at hstep
    unfold Exchange.course
    rcases hr : e.attend now s with ⟨o, s'⟩
    rw [hr] at hstep
    have hrest {e' : Exchange} (hd : e'.deadline = e.deadline) :
        ∀ now ∈ nows, now < e'.deadline := by
      intro n hn
      rw [hd]
      exact hnows n (List.mem_cons_of_mem _ hn)
    cases o with
    | next e' =>
      cases hstep with
      | next hg' hs' hd hn =>
        have hih := ih hg' hs' (hrest hd)
        rw [hd] at hih
        exact hih.mono (by simp; omega)
    | waiting =>
      cases hstep with
      | next hg' hs' hd hn =>
        have hn : s.calls.length + e.slack + 1 ≤ s'.calls.length + e.slack := hn
        exact (ih hg' hs' (hrest rfl)).mono (by simp; omega)
    | accepted status rest =>
      cases hstep with
      | accepted hg' hsent ho => exact .accepted hg' hsent ho
    | failed f =>
      cases hstep with
      | failed hg' hsent ho => exact .failed hg' hsent ho

/-- The calls that had an effect are no more than the bytes that they moved. -/
theorem countP_le_flatMap {calls : List StreamCall} {moved : StreamCall → Bytes}
    (h : ∀ c ∈ calls, c.isEffective = true → moved c ≠ []) :
    calls.countP StreamCall.isEffective ≤ (calls.flatMap moved).length := by
  induction calls with
  | nil => simp
  | cons c calls ih =>
    have hrest := ih fun c hc => h c (List.mem_cons_of_mem _ hc)
    rw [List.countP_cons, List.flatMap_cons, List.length_append]
    by_cases hc : c.isEffective = true
    · have hpos := List.length_pos_iff.mpr (h c (by simp) hc)
      rw [if_pos hc]
      omega
    · rw [if_neg hc]
      omega

theorem countP_le_put {calls : List StreamCall} (h : ∀ c ∈ calls, c.isWrite = true) :
    calls.countP StreamCall.isEffective ≤ (calls.flatMap StreamCall.put).length := by
  apply countP_le_flatMap
  intro c hc heff
  have hw := h c hc
  cases c with
  | write bs => simpa [StreamCall.isEffective, StreamCall.put] using heff
  | read | flush | shutdown => cases hw

theorem countP_le_got {calls : List StreamCall} (h : ∀ c ∈ calls, c.isRead = true) :
    calls.countP StreamCall.isEffective ≤ (calls.flatMap StreamCall.got).length := by
  apply countP_le_flatMap
  intro c hc heff
  have hr := h c hc
  cases c with
  | read bs => simpa [StreamCall.isEffective, StreamCall.got] using heff
  | write | flush | shutdown => cases hr

theorem countP_flush {calls : List StreamCall} (h : ∀ c ∈ calls, c = .flush false) :
    calls.countP StreamCall.isEffective = 0 := by
  apply List.countP_eq_zero.mpr
  intro c hc
  rw [h c hc]
  simp [StreamCall.isEffective]

/-- Calls that are no writes put nothing in. -/
theorem flatMap_put_eq_nil {calls : List StreamCall} (h : ∀ c ∈ calls, c.isWrite = false) :
    calls.flatMap StreamCall.put = [] := by
  apply List.flatMap_eq_nil_iff.mpr
  intro c hc
  have hw := h c hc
  cases c with
  | write bs => cases hw
  | read | flush | shutdown => rfl

theorem flatMap_put_flush {calls : List StreamCall} (h : ∀ c ∈ calls, c = .flush false) :
    calls.flatMap StreamCall.put = [] := by
  apply flatMap_put_eq_nil
  intro c hc
  rw [h c hc]
  rfl

theorem flatMap_put_read {calls : List StreamCall} (h : ∀ c ∈ calls, c.isRead = true) :
    calls.flatMap StreamCall.put = [] := by
  apply flatMap_put_eq_nil
  intro c hc
  have hread := h c hc
  cases c with
  | read bs => rfl
  | write | flush | shutdown => cases hread

theorem Sent.written {calls reads : List StreamCall} (h : Sent request calls reads) :
    calls.flatMap StreamCall.put = request := by
  obtain ⟨ws, fs, rfl, hws, hput, hfs, hrs⟩ := h
  simp [hput, flatMap_put_flush hfs, flatMap_put_read hrs, StreamCall.put]

/-- An exchange that is not over has had no more calls with an effect than there are bytes to
move, and one flush. -/
theorem Stage.countP_le (hs : Stage v request answer e s) :
    s.calls.countP StreamCall.isEffective ≤ request.length + answer.length + 1 := by
  cases hs with
  | writing hp hcalls hreq hans =>
    have h1 := countP_le_put hcalls
    have h2 := congrArg List.length hreq
    simp only [RecordedStream.written, List.length_append] at h2
    omega
  | flushing hp hcalls hws hput hfs hans =>
    have h1 := countP_le_put hws
    rw [hput] at h1
    rw [hcalls, List.countP_append, countP_flush hfs]
    omega
  | reading hp hsent hfeed hans =>
    obtain ⟨ws, fs, hcalls, hws, hput, hfs, hrs⟩ := hsent
    have h1 := countP_le_put hws
    have h2 := countP_le_got hrs
    have h3 := congrArg List.length hans
    rw [hput] at h1
    rw [List.length_append] at h3
    rw [hcalls, List.countP_append, List.countP_append, countP_flush hfs, List.countP_cons]
    simp only [StreamCall.isEffective, if_true]
    omega

/-- Before the reads the calls have put in a part of the request, and none of them is a read. -/
theorem Stage.unsent (hs : Stage v request answer e s)
    (hp : ∀ head, e.phase ≠ .reading head) :
    (∀ c ∈ s.calls, c.isRead = false) ∧ s.written <+: request := by
  cases hs with
  | writing hp' hcalls hreq hans =>
    refine ⟨fun c hc => ?_, ⟨_, hreq⟩⟩
    have hw := hcalls c hc
    cases c <;> first | rfl | cases hw
  | flushing hp' hcalls hws hput hfs hans =>
    constructor
    · intro c hc
      rw [hcalls] at hc
      rcases List.mem_append.mp hc with hc | hc
      · have hw := hws c hc
        cases c <;> first | rfl | cases hw
      · rw [hfs c hc]
        rfl
    · refine ⟨[], ?_⟩
      rw [RecordedStream.written, hcalls, List.flatMap_append, flatMap_put_flush hfs, hput,
        List.append_nil, List.append_nil]
  | reading hp' => exact absurd hp' (hp _)

/-- Reading a tunnel makes nothing but reads on its connection. -/
theorem gather_calls (t : PlainTunnel (RecordedStream σ)) (calls : List (Nat × Nat)) :
    ∃ reads, (ByteStream.gather t calls).2.inner.calls = t.inner.calls ++ reads ∧
      ∀ c ∈ reads, c.isRead = true := by
  induction calls generalizing t with
  | nil => exact ⟨[], (List.append_nil _).symm, by simp⟩
  | cons call calls ih =>
    obtain ⟨now, room⟩ := call
    have hone : ∃ reads, (ByteStream.read now room t).2.inner.calls = t.inner.calls ++ reads ∧
        ∀ c ∈ reads, c.isRead = true := by
      by_cases he : t.replay = []
      · rw [PlainTunnel.read_inner now room he]
        exact ⟨_, rfl, fun c hc => by rw [List.mem_singleton.mp hc]; rfl⟩
      · rw [PlainTunnel.read_replay now room he]
        exact ⟨[], (List.append_nil _).symm, by simp⟩
    obtain ⟨first, hfirst, hread⟩ := hone
    obtain ⟨reads, hreads, hrest⟩ := ih (ByteStream.read now room t).2
    refine ⟨first ++ reads, ?_, fun c hc => ?_⟩
    · rw [← List.append_assoc, ← hfirst, ← hreads, ByteStream.gather]
      rcases ByteStream.read now room t with ⟨a, t'⟩
      cases a <;> rfl
    · rcases List.mem_append.mp hc with hc | hc
      · exact hread c hc
      · exact hrest c hc

/-- On every stream that gives an answer and then ends, and takes what is written: however the
answer is cut and the request accepted, before the deadline the exchange puts in exactly the request
and flushes it before its first read; it ends, by the time that it has moved all bytes, as the
answer alone says; and the tunnel gives exactly the bytes behind the head, without another write. A
read of the tunnel gives what is to be replayed, or else is answered as the connection answers it;
once more reads than there are such bytes did not wait, all of them were given. -/
theorem course_transparent (v : SoundStream σ) (s : σ) (hs : v.good s) (r : ConnectRequest)
    (deadline : Nat) (nows : List Nat) (hnows : ∀ now ∈ nows, now < deadline) :
    let c := (start r.head deadline).course (⟨s, []⟩ : RecordedStream σ) nows
    ((∃ reads, Sent r.head c.2.calls reads) ∨ ∃ e, c.1 = .next e ∧
      (∀ head, e.phase ≠ .reading head) ∧ (∀ call ∈ c.2.calls, call.isRead = false) ∧
      c.2.written <+: r.head) ∧
    ((∃ e, c.1 = .next e ∧ nows.length ≤ c.2.calls.length + 1 ∧
      c.2.calls.countP StreamCall.isEffective ≤ r.head.length + (v.left s).length + 1) ∨
      c.1.andThen (v.left c.2.inner) = verdict (v.left s)) ∧
    ∀ status rest, c.1 = .accepted status rest → ∃ head tail, v.left s = head ++ tail ∧
      HeadReader.start.feed head = .done status [] ∧
      let tunnel : PlainTunnel (RecordedStream σ) := ⟨rest, c.2⟩
      ∀ calls, let g := ByteStream.gather tunnel calls
        g.2.inner.written = r.head ∧ g.1 <+: tail ∧
        (∀ now room, (ByteStream.read now room g.2).1 =
            (if g.2.replay = [] then (ByteStream.read now room g.2.inner).1
              else .ready (g.2.replay.take room)) ∧
          ∀ f, (ByteStream.read now room g.2).1 ≠ .fault f) ∧
        ((∀ call ∈ calls, 0 < call.2) →
          tail.length + ByteStream.idle tunnel calls < calls.length → g.1 = tail) ∧
        ∀ now room t, 0 < room → ByteStream.read now room g.2 = (.ready [], t) → g.1 = tail := by
  intro c
  have hstage : Stage v r.head (v.left s) (start r.head deadline) (⟨s, []⟩ : RecordedStream σ) :=
    .writing rfl (by simp) rfl rfl
  have hcourse : Leads v r.head (v.left s) deadline nows.length c :=
    (hstage.course hs hnows).mono (by simp)
  clear_value c
  cases hcourse with
  | @next e s' hg hs' hd hn =>
    refine ⟨?_, .inl ⟨e, rfl, ?_, hs'.countP_le⟩, fun status rest h => by cases h⟩
    · by_cases hp : ∃ head, e.phase = .reading head
      · obtain ⟨head, hp⟩ := hp
        cases hs' with
        | reading _ hsent => exact .inl ⟨_, hsent⟩
        | writing hp' => rw [hp] at hp'; cases hp'
        | flushing hp' => rw [hp] at hp'; cases hp'
      · have hnot : ∀ head, e.phase ≠ .reading head := fun head h => hp ⟨head, h⟩
        exact .inr ⟨e, rfl, hnot, hs'.unsent hnot⟩
    · have hslack : e.slack ≤ 1 := by
        unfold slack
        split <;> omega
      exact Nat.le_trans hn (Nat.add_le_add_left hslack _)
  | @accepted status rest s' reads hg hsent ho =>
    refine ⟨.inl ⟨reads, hsent⟩, .inr ho.symm, fun status' rest' h => ?_⟩
    cases h
    obtain ⟨head, hhead, hfeed⟩ := HeadReader.feed_done (feed_of_verdict ho)
    refine ⟨head, rest ++ v.left s'.inner, hhead, hfeed, ?_⟩
    intro tunnel calls
    have hsound : v.recorded.plain.good tunnel := hg
    obtain ⟨hsound', hall⟩ := v.recorded.plain.gather hsound calls
    have hbytes : (ByteStream.gather tunnel calls).1 <+: rest ++ v.left s'.inner := ⟨_, hall.symm⟩
    obtain ⟨more, hcalls, hmore⟩ := gather_calls tunnel calls
    refine ⟨?_, hbytes, fun now room => ⟨PlainTunnel.read_answer now room _,
      v.recorded.plain.read_ne_fault hsound' now room⟩, fun hroom hmany => ?_,
      fun now room t hroom hend => ?_⟩
    · have hput : more.flatMap StreamCall.put = [] := flatMap_put_read hmore
      change (ByteStream.gather tunnel calls).2.inner.calls.flatMap StreamCall.put = r.head
      rw [hcalls, List.flatMap_append, hput, List.append_nil]
      exact hsent.written
    · have hlength := hbytes.length_le
      rcases v.recorded.plain.gather_progress hsound hroom with hle | heq
      · omega
      · exact heq
    · exact v.recorded.plain.gather_end hsound calls hroom hend
  | @failed f s' reads hg hsent ho =>
    exact ⟨.inl ⟨reads, hsent⟩, .inr ho.symm, fun status rest h => by cases h⟩

/-- A stream that takes nine bytes at first, and gives its answer late and in pieces. -/
def slowStream : ScriptedStream :=
  .ofActs [.delay 2, .data (Bytes.ofText "HTTP/1.1 2"), .data (Bytes.ofText "00\n\nh"),
    .data (Bytes.ofText "i")] [.atMost 9, .delay 1] [] []

theorem course_transparent_slow :
    let tunnel : PlainTunnel (RecordedStream ScriptedStream) :=
      ⟨[104], ((start (ConnectRequest.head ⟨"a:1", .empty⟩) 9).course
        (⟨slowStream, []⟩ : RecordedStream ScriptedStream) [0, 0, 1, 1, 1, 1, 3, 3, 3]).2⟩
    (∃ head, Script.dataOf slowStream.reads.acts = head ++ Bytes.ofText "hi" ∧
      HeadReader.start.feed head = .done ⟨200, []⟩ []) ∧
    (∀ calls, (ByteStream.gather tunnel calls).1 <+: Bytes.ofText "hi") ∧
    (ByteStream.gather tunnel [(3, 8), (3, 8), (3, 8)]).1 = Bytes.ofText "hi" := by
  intro tunnel
  have hgood : ScriptedStream.sound.good slowStream := ⟨rfl, rfl, rfl⟩
  have haccepted : ((start (ConnectRequest.head ⟨"a:1", .empty⟩) 9).course
      (⟨slowStream, []⟩ : RecordedStream ScriptedStream) [0, 0, 1, 1, 1, 1, 3, 3, 3]).1 =
        .accepted ⟨200, []⟩ [104] := by decide +kernel
  obtain ⟨head, tail, hsplit, hfeed, hread⟩ := (course_transparent ScriptedStream.sound slowStream
    hgood ⟨"a:1", .empty⟩ 9 [0, 0, 1, 1, 1, 1, 3, 3, 3] (by decide)).2.2 _ _ haccepted
  -- the two reads that give a byte, and one that finds the end
  have hbytes : (ByteStream.gather tunnel [(3, 8), (3, 8)]).1 = Bytes.ofText "hi" := by
    decide +kernel
  have htail : Bytes.ofText "hi" = tail :=
    hbytes ▸ (hread [(3, 8), (3, 8)]).2.2.2.2 3 8 _ (by decide) (Prod.ext (by decide +kernel) rfl)
  subst htail
  exact ⟨⟨head, hsplit, hfeed⟩, fun calls => (hread calls).2.1,
    (hread [(3, 8), (3, 8), (3, 8)]).2.2.2.1 (by decide) (by decide +kernel)⟩

end Exchange
end TunnelDial
