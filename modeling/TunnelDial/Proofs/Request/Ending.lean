import TunnelDial.Proofs.Request.Exchange
import TunnelDial.Proofs.Stream.Patience
import TunnelDial.Request.Timing

/-! How exchanges come to their end under the clock. On a scripted stream a call that waits is as
good as one that is made later, so there is one end; it comes by the deadline, and it is the one
without a deadline if that comes in time. A stream that serves its calls lets the exchange end as
its answer says, after no more than its delays. -/
namespace TunnelDial

namespace ScriptedStream

variable {s : ScriptedStream} {now : Nat} {sc : Script}

theorem write_of_writeFrom (bs : Bytes) (a : Poll Nat) :
    Script.writeFrom now bs.length s.writes.acts s.writes.since = (a, sc) →
      ByteStream.write now bs s = (a, match a with
        | .ready n => { s with writes := sc, written := s.written ++ bs.take n }
        | _ => { s with writes := sc }) := by
  intro h
  change ScriptedStream.write now bs s = _
  rw [ScriptedStream.write, h]
  cases a <;> rfl

theorem flush_of_callFrom (a : Poll Unit) :
    Script.callFrom now s.flushes.acts s.flushes.since = (a, sc) →
      ByteStream.flush now s = (a, match a with
        | .waiting => { s with flushes := sc }
        | _ => { s with flushes := sc, flushed := s.flushed + 1 }) := by
  intro h
  change ScriptedStream.flush now s = _
  rw [ScriptedStream.flush, h]
  cases a <;> rfl

theorem read_of_readFrom {room : Nat} (hroom : room ≠ 0) {a : Poll Bytes}
    (h : Script.readFrom now room s.reads.acts s.reads.since = (a, sc)) :
    ByteStream.read now room s = (a, { s with reads := sc }) := by
  change ScriptedStream.read now room s = _
  rw [ScriptedStream.read, Script.read, if_neg hroom, h]

/-- No delay is running but the one of a script. -/
theorem wake?_eq (s : ScriptedStream) : ByteStream.wake? s = earlier?
    (earlier? s.reads.wake? s.writes.wake?) (earlier? s.flushes.wake? s.shutdowns.wake?) := rfl

@[simp] theorem earlier?_none_left (b : Option Nat) : earlier? none b = b := by
  cases b <;> rfl

@[simp] theorem earlier?_none_right (a : Option Nat) : earlier? a none = a := by
  cases a <;> rfl

end ScriptedStream

namespace Exchange

/-- In good states, a call that waits does so until the given instant however often it is made. -/
structure Patient {σ : Type} (call : Nat → Exchange → σ → ExchangeStep × σ)
    (wake? : Exchange → σ → Option Nat) (good : Exchange → σ → Prop) : Prop where
  next : ∀ {now e s e' s'}, good e s → call now e s = (.next e', s') → good e' s'
  waits : ∀ {now e s s'}, good e s → call now e s = (.waiting, s') → good e s' ∧
    ∀ w, wake? e s' = some w → ∀ later, now ≤ later → later < w → call later e s' = (.waiting, s')

section

variable {σ : Type} {call : Nat → Exchange → σ → ExchangeStep × σ}
  {wake? : Exchange → σ → Option Nat} {now t : Nat} {e e' : Exchange} {s s' s'' : σ}
  {o o' : ExchangeStep}

theorem Ends.of_over (hcall : call now e s = (o', s')) (ho : o'.isOver = true)
    (h : Ends call wake? now e s o t s'') : o = o' ∧ t = now ∧ s'' = s' := by
  cases h with
  | ended hc _ =>
    cases hcall.symm.trans hc
    exact ⟨rfl, rfl, rfl⟩
  | next hc _ =>
    cases hcall.symm.trans hc
    cases ho
  | woken hc =>
    cases hcall.symm.trans hc
    cases ho

theorem Ends.of_next (hcall : call now e s = (.next e', s'))
    (h : Ends call wake? now e s o t s'') : Ends call wake? now e' s' o t s'' := by
  cases h with
  | ended hc ho =>
    cases hcall.symm.trans hc
    cases ho
  | next hc h =>
    cases hcall.symm.trans hc
    exact h
  | woken hc => cases hcall.symm.trans hc

theorem Ends.of_waiting (hcall : call now e s = (.waiting, s'))
    (h : Ends call wake? now e s o t s'') : ∃ w later, wake? e s' = some w ∧ now < later ∧
      later ≤ w ∧ Ends call wake? later e s' o t s'' := by
  cases h with
  | ended hc ho =>
    cases hcall.symm.trans hc
    cases ho
  | next hc => cases hcall.symm.trans hc
  | woken hc hw hlt hle h =>
    cases hcall.symm.trans hc
    exact ⟨_, _, hw, hlt, hle, h⟩

theorem Ends.le (h : Ends call wake? now e s o t s') : now ≤ t := by
  induction h with
  | ended => exact Nat.le_refl _
  | next _ _ ih => exact ih
  | woken _ _ hlt _ _ ih => exact Nat.le_trans (Nat.le_of_lt hlt) ih

/-- As long as a call waits, it makes no difference when it is made. -/
theorem Ends.at_wake {w : Nat} (hw : wake? e s = some w)
    (hwait : ∀ later, now ≤ later → later < w → call later e s = (.waiting, s)) (hle : now ≤ w) :
    Ends call wake? now e s o t s' ↔ Ends call wake? w e s o t s' := by
  constructor
  · intro h
    -- on the time left until the call is answered
    induction hn : w - now using Nat.strongRecOn generalizing now with
    | ind n ih =>
      rcases Nat.eq_or_lt_of_le hle with rfl | hlt
      · exact h
      · obtain ⟨w', later, hw', hlater, hle', h⟩ := h.of_waiting (hwait now (Nat.le_refl _) hlt)
        cases hw.symm.trans hw'
        exact ih _ (by omega) (fun a ha => hwait a (by omega)) hle' h rfl
  · intro h
    rcases Nat.eq_or_lt_of_le hle with rfl | hlt
    · exact h
    · exact .woken (hwait now (Nat.le_refl _) hlt) hw hlt (Nat.le_refl _) h

/-- Of two later calls that replace one that waits, each leads where the other does. -/
theorem Ends.move {good : Exchange → σ → Prop} (hp : Patient call wake? good) (hg : good e s)
    (hcall : call now e s = (.waiting, s')) {w first later : Nat} (hw : wake? e s' = some w)
    (hfirst : now < first ∧ first ≤ w) (hlater : now < later ∧ later ≤ w)
    (h : Ends call wake? first e s' o t s'') : Ends call wake? later e s' o t s'' := by
  have hwait (a : Nat) (ha : now < a) : ∀ b, a ≤ b → b < w → call b e s' = (.waiting, s') :=
    fun b hb => (hp.waits hg hcall).2 w hw b (by omega)
  have hwake := (Ends.at_wake hw (hwait first hfirst.1) hfirst.2).mp h
  exact (Ends.at_wake hw (hwait later hlater.1) hlater.2).mpr hwake

/-- Calls that are patient lead to one end, whenever they are made. -/
theorem Ends.unique {good : Exchange → σ → Prop} (hp : Patient call wake? good) (hg : good e s)
    (h : Ends call wake? now e s o t s') {t' : Nat} (h' : Ends call wake? now e s o' t' s'') :
    o' = o ∧ t' = t ∧ s'' = s' := by
  induction h generalizing o' t' s'' with
  | ended hc ho => exact h'.of_over hc ho
  | next hc _ ih => exact ih (hp.next hg hc) (h'.of_next hc)
  | woken hc hw hlt hle _ ih =>
    obtain ⟨w', later', hw', hlt', hle', h'⟩ := h'.of_waiting hc
    cases hw.symm.trans hw'
    exact ih (hp.waits hg hc).1 (h'.move hp hg hc hw ⟨hlt', hle'⟩ ⟨hlt, hle⟩)

end

section

variable {σ : Type} [ByteStream σ] {now later t : Nat} {e e' : Exchange} {s s' : σ}
  {o : ExchangeStep}

theorem lt_wakeAt_iff :
    later < e.wakeAt s ↔ later < e.deadline ∧ ∀ w, ByteStream.wake? s = some w → later < w := by
  unfold wakeAt
  cases ByteStream.wake? s with
  | none => simp
  | some w => simp only [Option.elim_some, Nat.lt_min, Option.some.injEq, forall_eq']

theorem le_wakeAt_iff :
    later ≤ e.wakeAt s ↔ later ≤ e.deadline ∧ ∀ w, ByteStream.wake? s = some w → later ≤ w := by
  unfold wakeAt
  cases ByteStream.wake? s with
  | none => simp
  | some w => simp only [Option.elim_some, Nat.le_min, Option.some.injEq, forall_eq']

theorem attend_eq_next : e.attend now s = (.next e', s') ↔ e.step now s = (.next e', s') := by
  unfold attend
  rcases e.step now s with ⟨_ | _ | _ | _, s''⟩
  · rfl
  · dsimp only
    split <;> simp
  · rfl
  · rfl

theorem attend_eq_waiting :
    e.attend now s = (.waiting, s') ↔ e.step now s = (.waiting, s') ∧ now < e.deadline := by
  unfold attend
  rcases e.step now s with ⟨_ | _ | _ | _, s''⟩
  · simp
  · dsimp only
    split
    · rename_i hle
      simp [Nat.not_lt.mpr hle]
    · rename_i hlt
      simp [Nat.not_le.mp hlt]
  · simp
  · simp

/-- A call ends the exchange as the call on the stream does, or because the deadline has come while
that has to wait. -/
theorem attend_eq_over (ho : o.isOver = true) :
    e.attend now s = (o, s') ↔ e.step now s = (o, s') ∨
      e.step now s = (.waiting, s') ∧ e.deadline ≤ now ∧ o = .failed e.expired := by
  unfold attend
  rcases e.step now s with ⟨_ | _ | _ | _, s''⟩
  · simp
  · dsimp only
    split
    · rename_i hle
      cases o with
      | next | waiting => cases ho
      | accepted | failed => simp [hle, and_comm, eq_comm]
    · rename_i hlt
      cases o with
      | next | waiting => cases ho
      | accepted | failed => simp [hlt]
  · simp
  · simp

end

/-- How far the exchange of a request has come on a scripted stream: what was written and flushed,
and that no delay is running but for the call that the exchange is at. -/
inductive Ready (request : Bytes) (e : Exchange) (s : ScriptedStream) : Prop
  | writing {left} : e.phase = .writing left → s.written ++ left = request → s.flushed = 0 →
      (left = [] → s.writes.since = none) → s.flushes.since = none → s.reads.since = none →
      s.shutdowns.since = none → Ready request e s
  | flushing : e.phase = .flushing → s.written = request → s.flushed = 0 →
      s.writes.since = none → s.reads.since = none → s.shutdowns.since = none →
      Ready request e s
  | reading {head} : e.phase = .reading head → s.written = request → s.flushed = 1 →
      s.writes.since = none → s.flushes.since = none → s.shutdowns.since = none →
      Ready request e s

/-- How many calls on a scripted stream can still be answered, at most. -/
def work (e : Exchange) (s : ScriptedStream) : Nat :=
  Script.weight s.writes.acts + Script.weight s.flushes.acts + Script.weight s.reads.acts +
    match e.phase with
    | .writing left => left.length + 2
    | .flushing => 1
    | .reading _ => 0

/-- What one call leads to: less work, or a wait in which the same call waits again. -/
def Advances (request : Bytes) (now : Nat) (e : Exchange) (r : ExchangeStep × ScriptedStream)
    (work : Nat) : Prop :=
  match r.1 with
  | .next e' => Ready request e' r.2 ∧ e'.deadline = e.deadline ∧ e'.work r.2 < work
  | .waiting => Ready request e r.2 ∧ (∀ w, ByteStream.wake? r.2 = some w → now < w) ∧
      ∀ later, now ≤ later → (∀ w, ByteStream.wake? r.2 = some w → later < w) →
        e.step later r.2 = (.waiting, r.2)
  | _ => True

variable {request : Bytes} {now t : Nat} {e : Exchange} {s s' : ScriptedStream}
  {o : ExchangeStep}

theorem advances_over {n : Nat} {r : ExchangeStep × ScriptedStream} (ho : r.1.isOver = true) :
    Advances request now e r n := by
  rcases r with ⟨_ | _ | _ | _, s⟩
  · cases ho
  · cases ho
  · trivial
  · trivial

/-- A call that waits, while its script is the only one with a delay running. -/
theorem advances_waiting {n : Nat} {α : Type} {call : Script.Call α} {sc : Script}
    (hready : Ready request e s) (hwake : ByteStream.wake? s = sc.wake?)
    (hstalls : Script.Stalls call now sc)
    (hagain : ∀ later, call later sc.acts sc.since = (.waiting, sc) →
      e.step later s = (.waiting, s)) : Advances request now e (.waiting, s) n := by
  refine ⟨hready, ?_, fun later hle hlt => ?_⟩
  · rw [hwake]
    exact hstalls.wakes
  · rw [hwake] at hlt
    exact hagain later (hstalls.again later hle hlt)

theorem Ready.write {left : Bytes} (hp : e.phase = .writing left)
    (hreq : s.written ++ left = request) (hflushed : s.flushed = 0)
    (hidle : left = [] → s.writes.since = none) (hf : s.flushes.since = none)
    (hr : s.reads.since = none) (hd : s.shutdowns.since = none) :
    Advances request now e (e.step now s) (e.work s) := by
  cases left with
  | nil =>
    have hstep : e.step now s = (.next { e with phase := .flushing }, s) := by simp [step, hp]
    rw [hstep]
    refine ⟨.flushing rfl (by simpa using hreq) hflushed (hidle rfl) hr hd, rfl, ?_⟩
    simp [work, hp]
  | cons b left =>
    have hkeeps := Script.keeps_writeFrom now (b :: left).length s.writes.acts s.writes.since
    rcases hw : Script.writeFrom now (b :: left).length s.writes.acts s.writes.since with ⟨a, sc⟩
    rw [hw] at hkeeps
    have hcall := ScriptedStream.write_of_writeFrom (b :: left) a hw
    cases a with
    | ready n =>
      cases n with
      | zero =>
        have hstep : (e.step now s).1 = .failed (.io IoKind.writeZero.fault) := by
          simp only [step, hp, hcall]
        exact advances_over (by rw [hstep]; rfl)
      | succ n =>
        have hstep : e.step now s = (.next { e with phase := .writing ((b :: left).drop (n + 1)) },
            { s with writes := sc, written := s.written ++ (b :: left).take (n + 1) }) := by
          simp only [step, hp, hcall]
        rw [hstep]
        refine ⟨.writing rfl ?_ hflushed (fun _ => hkeeps.1) hf hr hd, rfl, ?_⟩
        · rw [List.append_assoc, List.take_append_drop, hreq]
        · have hle : Script.weight sc.acts ≤ Script.weight s.writes.acts := hkeeps.2
          simp only [work, hp, List.drop_succ_cons, List.length_drop, List.length_cons]
          omega
    | fault f =>
      have hstep : e.step now s = (retry e f, { s with writes := sc }) := by
        simp only [step, hp, hcall]
      rw [hstep, retry]
      split
      · refine ⟨.writing hp hreq hflushed (fun _ => hkeeps.1) hf hr hd, rfl, ?_⟩
        have hlt : Script.weight sc.acts < Script.weight s.writes.acts := hkeeps.2
        simp only [work, hp]
        omega
      · exact advances_over rfl
    | waiting =>
      have hstep : e.step now s = (.waiting, { s with writes := sc }) := by
        simp only [step, hp, hcall]
      rw [hstep]
      refine advances_waiting (.writing hp hreq hflushed (fun h => by cases h) hf hr hd) ?_ hkeeps
        fun later hagain => ?_
      · rw [ScriptedStream.wake?_eq]
        simp [Script.wake?_of_since hf, Script.wake?_of_since hr, Script.wake?_of_since hd]
      · have hcall := ScriptedStream.write_of_writeFrom (s := { s with writes := sc }) (b :: left)
          .waiting hagain
        simp only [step, hp, hcall]

theorem Ready.flush (hp : e.phase = .flushing) (hreq : s.written = request)
    (hflushed : s.flushed = 0) (hw : s.writes.since = none) (hr : s.reads.since = none)
    (hd : s.shutdowns.since = none) : Advances request now e (e.step now s) (e.work s) := by
  have hkeeps := Script.keeps_callFrom now s.flushes.acts s.flushes.since
  rcases hf : Script.callFrom now s.flushes.acts s.flushes.since with ⟨a, sc⟩
  rw [hf] at hkeeps
  have hcall := ScriptedStream.flush_of_callFrom a hf
  cases a with
  | ready u =>
    have hstep : e.step now s = (.next { e with phase := .reading .start },
        { s with flushes := sc, flushed := s.flushed + 1 }) := by
      simp only [step, hp, hcall]
    rw [hstep]
    refine ⟨.reading rfl hreq (by rw [hflushed]) hw hkeeps.1 hd, rfl, ?_⟩
    have hle : Script.weight sc.acts ≤ Script.weight s.flushes.acts := hkeeps.2
    simp only [work, hp]
    omega
  | fault f =>
    have hstep : (e.step now s).1 = .failed (.io f) := by simp only [step, hp, hcall]
    exact advances_over (by rw [hstep]; rfl)
  | waiting =>
    have hstep : e.step now s = (.waiting, { s with flushes := sc }) := by
      simp only [step, hp, hcall]
    rw [hstep]
    refine advances_waiting (.flushing hp hreq hflushed hw hr hd) ?_ hkeeps fun later hagain => ?_
    · rw [ScriptedStream.wake?_eq]
      simp [Script.wake?_of_since hw, Script.wake?_of_since hr, Script.wake?_of_since hd]
    · have hcall := ScriptedStream.flush_of_callFrom (s := { s with flushes := sc }) .waiting hagain
      simp only [step, hp, hcall]

theorem Ready.read {head : HeadReader} (hp : e.phase = .reading head) (hreq : s.written = request)
    (hflushed : s.flushed = 1) (hw : s.writes.since = none) (hf : s.flushes.since = none)
    (hd : s.shutdowns.since = none) : Advances request now e (e.step now s) (e.work s) := by
  have hkeeps := Script.keeps_readFrom now readSize s.reads.acts s.reads.since
  rcases hr : Script.readFrom now readSize s.reads.acts s.reads.since with ⟨a, sc⟩
  rw [hr] at hkeeps
  have hcall := ScriptedStream.read_of_readFrom (by decide) hr
  cases a with
  | ready bs =>
    cases bs with
    | nil =>
      have hstep : (e.step now s).1 = .failed (.io headUnfinished) := by
        simp only [step, hp, hcall]
      exact advances_over (by rw [hstep]; rfl)
    | cons b bs =>
      cases hk : head.feed (b :: bs) with
      | more head' =>
        have hstep : e.step now s = (.next { e with phase := .reading head' },
            { s with reads := sc }) := by
          simp only [step, hp, hcall, hk]
        rw [hstep]
        refine ⟨.reading rfl hreq hflushed hw hf hd, rfl, ?_⟩
        have hlt := Script.weight_readFrom (by decide) hr (by simp)
        simp only [work, hp]
        omega
      | done status rest =>
        have hstep : e.step now s = (conclude status rest, { s with reads := sc }) := by
          simp only [step, hp, hcall, hk]
        rw [hstep, conclude]
        split <;> exact advances_over rfl
      | fault f =>
        have hstep : (e.step now s).1 = .failed (.io f) := by simp only [step, hp, hcall, hk]
        exact advances_over (by rw [hstep]; rfl)
  | fault f =>
    have hstep : e.step now s = (retry e f, { s with reads := sc }) := by
      simp only [step, hp, hcall]
    rw [hstep, retry]
    split
    · refine ⟨.reading hp hreq hflushed hw hf hd, rfl, ?_⟩
      have hlt : Script.weight sc.acts < Script.weight s.reads.acts := hkeeps.2
      simp only [work, hp]
      omega
    · exact advances_over rfl
  | waiting =>
    have hstep : e.step now s = (.waiting, { s with reads := sc }) := by
      simp only [step, hp, hcall]
    rw [hstep]
    refine advances_waiting (.reading hp hreq hflushed hw hf hd) ?_ hkeeps fun later hagain => ?_
    · rw [ScriptedStream.wake?_eq]
      simp [Script.wake?_of_since hw, Script.wake?_of_since hf, Script.wake?_of_since hd]
    · have hcall := ScriptedStream.read_of_readFrom (s := { s with reads := sc }) (by decide) hagain
      simp only [step, hp, hcall]

theorem Ready.advances (hs : Ready request e s) (now : Nat) :
    Advances request now e (e.step now s) (e.work s) := by
  cases hs with
  | writing hp hreq hflushed hidle hf hr hd => exact Ready.write hp hreq hflushed hidle hf hr hd
  | flushing hp hreq hflushed hw hr hd => exact Ready.flush hp hreq hflushed hw hr hd
  | reading hp hreq hflushed hw hf hd => exact Ready.read hp hreq hflushed hw hf hd

theorem patient_step (request : Bytes) :
    Patient step (fun _ (s : ScriptedStream) => ByteStream.wake? s) (Ready request) where
  next := by
    intro now e s e' s' hs hstep
    have hadv := hs.advances now
    rw [hstep] at hadv
    exact hadv.1
  waits := by
    intro now e s s' hs hstep
    have hadv := hs.advances now
    rw [hstep] at hadv
    obtain ⟨hs', -, hagain⟩ := hadv
    refine ⟨hs', fun w hw later hle hlt => hagain later hle fun w' hw' => ?_⟩
    cases hw.symm.trans hw'
    exact hlt

theorem patient_attend (request : Bytes) :
    Patient attend (fun e (s : ScriptedStream) => some (e.wakeAt s)) (Ready request) where
  next hs hstep := (patient_step request).next hs (attend_eq_next.mp hstep)
  waits := by
    intro now e s s' hs hcall
    obtain ⟨hstep, -⟩ := attend_eq_waiting.mp hcall
    have hadv := hs.advances now
    rw [hstep] at hadv
    obtain ⟨hs', -, hagain⟩ := hadv
    refine ⟨hs', fun w hw later hle hlt => ?_⟩
    cases hw
    obtain ⟨hearly, hwait⟩ := lt_wakeAt_iff.mp hlt
    exact attend_eq_waiting.mpr ⟨hagain later hle hwait, hearly⟩

/-- An exchange that is not past its deadline comes to an end. -/
theorem Ready.exists_returns {now : Nat} {e : Exchange} {s : ScriptedStream}
    (hs : Ready request e s) (hle : now ≤ e.deadline) : ∃ o t s', Returns now e s o t s' := by
  have hadv := hs.advances now
  rcases hstep : e.step now s with ⟨o, s'⟩
  rw [hstep] at hadv
  cases ho : o.isOver with
  | true => exact ⟨o, now, s', .ended ((attend_eq_over ho).mpr (.inl hstep)) ho⟩
  | false =>
    cases o with
    | next e' =>
      obtain ⟨hs', hd, hwork⟩ := hadv
      obtain ⟨o, t, s'', h⟩ := hs'.exists_returns (hd ▸ hle)
      exact ⟨o, t, s'', .next (attend_eq_next.mpr hstep) h⟩
    | waiting =>
      obtain ⟨hs', hwakes, -⟩ := hadv
      rcases Nat.lt_or_ge now e.deadline with hlt | hge
      · have hwake : now < e.wakeAt s' := lt_wakeAt_iff.mpr ⟨hlt, hwakes⟩
        have hlast : e.wakeAt s' ≤ e.deadline := (le_wakeAt_iff.mp (Nat.le_refl _)).1
        obtain ⟨o, t, s'', h⟩ := hs'.exists_returns hlast
        exact ⟨o, t, s'', .woken (attend_eq_waiting.mpr ⟨hstep, hlt⟩) rfl hwake (Nat.le_refl _) h⟩
      · exact ⟨.failed e.expired, now, s',
          .ended ((attend_eq_over rfl).mpr (.inr ⟨hstep, hge, rfl⟩)) rfl⟩
    | accepted | failed => cases ho
termination_by (e.deadline - now, e.work s)
decreasing_by
  · rw [hd]
    exact Prod.Lex.right _ hwork
  · exact Prod.Lex.left _ _ (by omega)

/-- What an exchange is busy with, read off its stream. -/
theorem Ready.activity_eq (hs : Ready request e s) :
    e.activity = if s.written = request ∧ s.flushed = 1 then "read" else "write" := by
  cases hs with
  | writing hp _ hflushed | flushing hp _ hflushed => simp [activity, hp, hflushed]
  | reading hp hreq hflushed => simp [activity, hp, hreq, hflushed]

/-- An exchange comes to its end by its deadline: to the end that it would have without a deadline,
or, if that comes only later, to the failure of the deadline, at the deadline. -/
theorem Returns.settles_or_expires (h : Returns now e s o t s') (hs : Ready request e s)
    (hle : now ≤ e.deadline) : now ≤ t ∧ t ≤ e.deadline ∧ (Settles now e s o t s' ∨
      t = e.deadline ∧
      o = .failed (.deadline (if s'.written = request ∧ s'.flushed = 1 then "read" else "write")) ∧
      ∀ o' t' s'', Settles now e s o' t' s'' → e.deadline < t') := by
  unfold Returns at h
  induction h with
  | @ended now e s o s' hcall ho =>
    refine ⟨Nat.le_refl _, hle, ?_⟩
    rcases (attend_eq_over ho).mp hcall with hstep | ⟨hstep, hge, rfl⟩
    · exact .inl (.ended hstep ho)
    · have hadv := hs.advances now
      rw [hstep] at hadv
      refine .inr ⟨Nat.le_antisymm hle hge, by rw [expired, hadv.1.activity_eq], ?_⟩
      intro o' t' s'' hnatural
      obtain ⟨w, later, -, hlt, -, h⟩ := Ends.of_waiting hstep hnatural
      have ht := h.le
      omega
  | @next now e s e' s' o t s'' hcall h ih =>
    have hstep := attend_eq_next.mp hcall
    have hadv := hs.advances now
    rw [hstep] at hadv
    obtain ⟨hs', hd, -⟩ := hadv
    obtain ⟨hfrom, hby, hend⟩ := ih hs' (hd ▸ hle)
    rw [hd] at hby hend
    refine ⟨hfrom, hby, ?_⟩
    rcases hend with hset | ⟨ht, ho, hnatural⟩
    · exact .inl (.next hstep hset)
    · exact .inr ⟨ht, ho, fun o' t' s'' h' => hnatural o' t' s'' (Ends.of_next hstep h')⟩
  | @woken now e s s' wake later o t s'' hcall hw hlt hle' h ih =>
    obtain ⟨hstep, hearly⟩ := attend_eq_waiting.mp hcall
    cases hw
    obtain ⟨hlater, hwake⟩ := le_wakeAt_iff.mp hle'
    have hadv := hs.advances now
    rw [hstep] at hadv
    obtain ⟨hs', -, hagain⟩ := hadv
    obtain ⟨hfrom, hby, hend⟩ := ih hs' hlater
    refine ⟨by omega, hby, ?_⟩
    rcases hend with hset | ⟨ht, ho, hnatural⟩
    · cases hw : ByteStream.wake? s' with
      | some w => exact .inl (.woken hstep hw hlt (hwake w hw) hset)
      | none =>
        -- a call that waits for ever comes to no end
        have hstuck := hagain later (Nat.le_of_lt hlt) fun w h => by cases hw.symm.trans h
        obtain ⟨w, -, hw', -⟩ := Ends.of_waiting hstuck hset
        cases hw.symm.trans hw'
    · refine .inr ⟨ht, ho, fun o' t' s₁ h' => ?_⟩
      obtain ⟨w, first, hw, hfirst, hfirst', h'⟩ := Ends.of_waiting hstep h'
      exact hnatural o' t' s₁
        (h'.move (patient_step request) hs hstep hw ⟨hfirst, hfirst'⟩ ⟨hlt, hwake w hw⟩)

theorem retry_ne_waiting (e : Exchange) (f : IoFault) : e.retry f ≠ .waiting := by
  unfold retry
  split <;> exact nofun

section

variable {σ : Type} [ByteStream σ] {now t : Nat} {e : Exchange} {s s' : σ} {o : ExchangeStep}

theorem step_write (now : Nat) (s : σ) {left : Bytes} (hp : e.phase = .writing left)
    (hne : left ≠ []) :
    (e.step now s).2 = (ByteStream.write now left s).2 ∧
      ((e.step now s).1 = .waiting ↔ (ByteStream.write now left s).1 = .waiting) := by
  rcases hr : ByteStream.write now left s with ⟨a, s'⟩
  cases left with
  | nil => exact absurd rfl hne
  | cons b left =>
    cases a with
    | ready n => cases n <;> simp [step, hp, hr]
    | fault f => simp [step, hp, hr, retry_ne_waiting]
    | waiting => simp [step, hp, hr]

theorem step_flush (now : Nat) (s : σ) (hp : e.phase = .flushing) :
    (e.step now s).2 = (ByteStream.flush now s).2 ∧
      ((e.step now s).1 = .waiting ↔ (ByteStream.flush now s).1 = .waiting) := by
  rcases hr : ByteStream.flush now s with ⟨a, s'⟩
  cases a <;> simp [step, hp, hr]

theorem step_read (now : Nat) (s : σ) {head : HeadReader} (hp : e.phase = .reading head) :
    (e.step now s).2 = (ByteStream.read now readSize s).2 ∧
      ((e.step now s).1 = .waiting ↔ (ByteStream.read now readSize s).1 = .waiting) := by
  have hconclude (status : Status) (rest : Bytes) : conclude status rest ≠ .waiting := by
    unfold conclude
    split <;> exact nofun
  rcases hr : ByteStream.read now readSize s with ⟨a, s'⟩
  cases a with
  | ready bs =>
    cases bs with
    | nil => simp [step, hp, hr]
    | cons b bs => cases hk : head.feed (b :: bs) <;> simp [step, hp, hr, hk, hconclude]
  | fault f => simp [step, hp, hr, retry_ne_waiting]
  | waiting => simp [step, hp, hr]

/-- That calls are recorded makes no difference to an exchange. -/
theorem step_recorded (now : Nat) (e : Exchange) (s : RecordedStream σ) : ∃ calls,
    e.step now s = ((e.step now s.inner).1, ⟨(e.step now s.inner).2, calls⟩) := by
  cases hp : e.phase with
  | writing left =>
    cases left with
    | nil => exact ⟨s.calls, by simp [step, hp]⟩
    | cons b left =>
      rcases hr : ByteStream.write now (b :: left) s.inner with ⟨a, s'⟩
      have hrecorded := RecordedStream.write_eq hr
      refine ⟨s.calls ++ [.write (RecordedStream.accepted (b :: left) a)], ?_⟩
      cases a with
      | ready n => cases n <;> simp only [step, hp, hr, hrecorded]
      | fault | waiting => simp only [step, hp, hr, hrecorded]
  | flushing =>
    rcases hr : ByteStream.flush now s.inner with ⟨a, s'⟩
    have hrecorded := RecordedStream.flush_eq hr
    refine ⟨s.calls ++ [.flush (RecordedStream.isDone a)], ?_⟩
    cases a <;> simp only [step, hp, hr, hrecorded]
  | reading head =>
    rcases hr : ByteStream.read now readSize s.inner with ⟨a, s'⟩
    have hrecorded := RecordedStream.read_eq hr
    refine ⟨s.calls ++ [.read (RecordedStream.given a)], ?_⟩
    cases a with
    | ready bs =>
      cases bs with
      | nil => simp only [step, hp, hr, hrecorded]
      | cons b bs => cases hk : head.feed (b :: bs) <;> simp only [step, hp, hr, hrecorded, hk]
    | fault | waiting => simp only [step, hp, hr, hrecorded]

variable {v : SoundStream σ} {request answer : Bytes} {calls : List StreamCall}

theorem Stage.goes (hs : Stage v request answer e ⟨s, calls⟩) (hg : v.good s)
    (hstep : e.step now s = (o, s')) : ∃ calls',
      Goes v request answer e (⟨s, calls⟩ : RecordedStream σ) (o, ⟨s', calls'⟩) := by
  have hgoes := hs.step hg now
  obtain ⟨calls', hrecorded⟩ := step_recorded now e ⟨s, calls⟩
  rw [hrecorded, hstep] at hgoes
  exact ⟨calls', hgoes⟩

/-- On a sound stream an exchange ends as the answer says. -/
theorem Settles.verdict (h : Settles now e s o t s') (hg : v.good s)
    (hs : Stage v request answer e ⟨s, calls⟩) : o.andThen (v.left s') = verdict answer := by
  unfold Settles at h
  induction h generalizing calls with
  | @ended now e s o s' hcall ho =>
    obtain ⟨calls', hgoes⟩ := hs.goes hg hcall
    cases o with
    | next | waiting => cases ho
    | accepted =>
      cases hgoes with
      | accepted _ _ hverdict => exact hverdict.symm
    | failed =>
      cases hgoes with
      | failed _ _ hverdict => exact hverdict.symm
  | next hcall _ ih =>
    obtain ⟨calls', hgoes⟩ := hs.goes hg hcall
    cases hgoes with
    | next hg' hs' => exact ih hg' hs'
  | woken hcall _ _ _ _ ih =>
    obtain ⟨calls', hgoes⟩ := hs.goes hg hcall
    cases hgoes with
    | next hg' hs' => exact ih hg' hs'

end

/-- One call on a stream that serves its calls: time for its delays is all that it takes. -/
structure Ebbs (now : Nat) (s : ScriptedStream) (r : ExchangeStep × ScriptedStream) : Prop where
  good : ScriptedStream.sound.good r.2
  leads : r.1 ≠ .waiting → r.2.lag now ≤ s.lag now
  waits : r.1 = .waiting → ∃ w, ByteStream.wake? r.2 = some w ∧ now < w ∧
    w + r.2.lag w ≤ now + s.lag now

theorem Ready.wake?_eq (hs : Ready request e s) : ByteStream.wake? s =
    match e.phase with
    | .writing [] => none
    | .writing _ => s.writes.wake?
    | .flushing => s.flushes.wake?
    | .reading _ => s.reads.wake? := by
  rw [ScriptedStream.wake?_eq]
  cases hs with
  | @writing left hp _ _ hidle hf hr hd =>
    rw [hp]
    cases left with
    | nil => simp [Script.wake?_of_since (hidle rfl), Script.wake?_of_since hf,
        Script.wake?_of_since hr, Script.wake?_of_since hd]
    | cons => simp [Script.wake?_of_since hf, Script.wake?_of_since hr, Script.wake?_of_since hd]
  | flushing hp _ _ hw hr hd =>
    simp [hp, Script.wake?_of_since hw, Script.wake?_of_since hr, Script.wake?_of_since hd]
  | reading hp _ _ hw hf hd =>
    simp [hp, Script.wake?_of_since hw, Script.wake?_of_since hf, Script.wake?_of_since hd]

theorem Ready.of_waiting (hs : Ready request e s) (h : (e.step now s).1 = .waiting) :
    Ready request e (e.step now s).2 := by
  have hadv := hs.advances now
  unfold Advances at hadv
  rw [h] at hadv
  exact hadv.1

/-- What a call does on one of the scripts, while no delay is running on the others. -/
theorem ebbs_of_script {α : Type} {r : Poll α × Script} {sc : Script} {n : Nat}
    {step : ExchangeStep × ScriptedStream} (h : Script.Ebbs now (sc.lag now) r)
    (hgood : ScriptedStream.sound.good step.2) (hwaits : step.1 = .waiting ↔ r.1 = .waiting)
    (hwake : step.1 = .waiting → ByteStream.wake? step.2 = r.2.wake?)
    (hlag : s.lag now = sc.lag now + n) (hlag' : ∀ u, step.2.lag u = r.2.lag u + n) :
    Ebbs now s step := by
  unfold Script.Ebbs at h
  refine ⟨hgood, fun hne => ?_, fun heq => ?_⟩
  · have hle : r.2.lag now ≤ sc.lag now := by
      cases hr : r.1 with
      | waiting => exact absurd (hwaits.mpr hr) hne
      | ready | fault =>
        rw [hr] at h
        exact h
    rw [hlag', hlag]
    omega
  · rw [hwaits.mp heq] at h
    obtain ⟨w, hw, hlt, hsum⟩ := h
    refine ⟨w, (hwake heq).trans hw, hlt, ?_⟩
    rw [hlag', hlag]
    omega

theorem Ready.ebbs (hs : Ready request e s) (hg : ScriptedStream.sound.good s) (now : Nat) :
    Ebbs now s (e.step now s) := by
  have hwake (h : (e.step now s).1 = .waiting) := (hs.of_waiting h).wake?_eq
  cases hs with
  | @writing left hp _ _ _ hf hr hd =>
    cases left with
    | nil =>
      have hstep : e.step now s = (.next { e with phase := .flushing }, s) := by simp [step, hp]
      rw [hstep]
      exact ⟨hg, fun _ => Nat.le_refl _, fun h => by cases h⟩
    | cons b left =>
      obtain ⟨hs', hwaits⟩ := step_write now s hp (by simp)
      obtain ⟨ha, hreads, hwrites, hflushes⟩ := ScriptedStream.write_eq now (b :: left) s
      change (e.step now s).2 = (s.write now (b :: left)).2 at hs'
      change _ ↔ (s.write now (b :: left)).1 = .waiting at hwaits
      rw [hp, hs'] at hwake
      have hscript : Script.Ebbs now (s.writes.lag now) _ :=
        Script.ebbs_writeFrom now (b :: left).length s.writes.acts s.writes.since hg.2.1
      refine ebbs_of_script (n := Script.delays s.flushes.acts + Script.delays s.reads.acts) hscript
        ?_ (ha ▸ hwaits) (fun h => ?_) ?_ fun u => ?_
      · rw [hs']
        have hwrite := ScriptedStream.sound.write now (b :: left) s hg (by simp)
        exact hwrite.after (fun _ h => h.1) (·.1)
      · rw [hs', hwake h, hwrites]
      · rw [ScriptedStream.lag, Script.lag_of_since hf, Script.lag_of_since hr, Nat.add_assoc]
      · rw [hs', ScriptedStream.lag, hreads, hwrites, hflushes, Script.lag_of_since hf,
          Script.lag_of_since hr, Nat.add_assoc]
  | flushing hp _ _ hw hr hd =>
    obtain ⟨hs', hwaits⟩ := step_flush now s hp
    obtain ⟨ha, hreads, hwrites, hflushes⟩ := ScriptedStream.flush_eq now s
    change (e.step now s).2 = (s.flush now).2 at hs'
    change _ ↔ (s.flush now).1 = .waiting at hwaits
    rw [hp, hs'] at hwake
    have hscript : Script.Ebbs now (s.flushes.lag now) _ :=
      Script.ebbs_callFrom now s.flushes.acts s.flushes.since hg.2.2
    refine ebbs_of_script (n := Script.delays s.writes.acts + Script.delays s.reads.acts) hscript
      ?_ (ha ▸ hwaits) (fun h => ?_) ?_ fun u => ?_
    · rw [hs']
      exact (ScriptedStream.sound.flush now s hg).after (fun _ h => h.1) (·.1)
    · rw [hs', hwake h, hflushes]
    · rw [ScriptedStream.lag, Script.lag_of_since hw, Script.lag_of_since hr]
      omega
    · rw [hs', ScriptedStream.lag, hreads, hwrites, hflushes, Script.lag_of_since hw,
        Script.lag_of_since hr]
      omega
  | @reading head hp _ _ hw hf hd =>
    obtain ⟨hs', hwaits⟩ := step_read now s hp
    have hread : s.reads.read now readSize =
        Script.readFrom now readSize s.reads.acts s.reads.since := if_neg (by decide)
    change (e.step now s).2 = { s with reads := (s.reads.read now readSize).2 } at hs'
    change _ ↔ (s.reads.read now readSize).1 = .waiting at hwaits
    rw [hread] at hs' hwaits
    rw [hp, hs'] at hwake
    have hscript : Script.Ebbs now (s.reads.lag now) _ :=
      Script.ebbs_readFrom now readSize s.reads.acts s.reads.since hg.1
    refine ebbs_of_script (n := Script.delays s.writes.acts + Script.delays s.flushes.acts) hscript
      ?_ hwaits (fun h => ?_) ?_ fun u => ?_
    · rw [hs', ← hread]
      exact (ScriptedStream.sound.read now readSize s hg).after (fun _ h => h.1) (·.1)
    · rw [hs', hwake h]
    · rw [ScriptedStream.lag, Script.lag_of_since hw, Script.lag_of_since hf]
      omega
    · rw [hs', ScriptedStream.lag, Script.lag_of_since hw, Script.lag_of_since hf]
      exact Nat.add_comm ..

/-- Where calls are served, an exchange comes to its end once the delays are over. -/
theorem Ready.exists_settles {e : Exchange} {s : ScriptedStream} (hs : Ready request e s)
    (hg : ScriptedStream.sound.good s) (now : Nat) :
    ∃ o t s', Settles now e s o t s' ∧ t ≤ now + s.lag now := by
  have hadv := hs.advances now
  have hebbs := hs.ebbs hg now
  rcases hstep : e.step now s with ⟨o, s'⟩
  rw [hstep] at hadv hebbs
  cases o with
  | next e' =>
    obtain ⟨hs', -, hwork⟩ := hadv
    have hlag : s'.lag now ≤ s.lag now := hebbs.leads nofun
    obtain ⟨o, t, s'', h, ht⟩ := hs'.exists_settles hebbs.good now
    exact ⟨o, t, s'', .next hstep h, Nat.le_trans ht (Nat.add_le_add_left hlag now)⟩
  | waiting =>
    obtain ⟨w, hw, hlt, hsum⟩ := hebbs.waits rfl
    obtain ⟨o, t, s'', h, ht⟩ := hadv.1.exists_settles hebbs.good w
    exact ⟨o, t, s'', .woken hstep hw hlt (Nat.le_refl w) h, Nat.le_trans ht hsum⟩
  | accepted | failed => exact ⟨_, now, s', .ended hstep rfl, Nat.le_add_right ..⟩
termination_by (s.lag now, e.work s)
decreasing_by
  · exact Prod.Lex.right' _ hlag hwork
  · exact Prod.Lex.left _ _ (by simp_all; omega)

end Exchange
end TunnelDial
