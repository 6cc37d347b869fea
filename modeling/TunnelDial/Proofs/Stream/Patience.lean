import TunnelDial.Proofs.Stream.Sound

/-! Waiting on scripted streams. A call that waits leaves the delay at the front of its script
running, and until that is over the same call waits again and changes nothing; a call that is
answered leaves no delay running. On a script that serves its calls, the delays that are left bound
the time that these take. -/
namespace TunnelDial

/-- How many calls an act can answer, at most. -/
def Act.weight : Act → Nat
  | data bs => bs.length + 1
  | _ => 1

namespace Script

/-- How many calls the acts can answer, at most. -/
def weight : List Act → Nat
  | [] => 0
  | a :: acts => a.weight + weight acts

@[simp] theorem weight_cons (a : Act) (acts : List Act) :
    weight (a :: acts) = a.weight + weight acts := rfl

theorem weight_lt_cons (a : Act) (acts : List Act) : weight acts < weight (a :: acts) := by
  rw [weight_cons]
  cases a <;> simp [Act.weight]

theorem wake?_of_since {s : Script} (h : s.since = none) : s.wake? = none := by
  rw [wake?, h]
  split
  · contradiction
  · rfl

/-- Calls of one kind at an instant, on the acts that are left and the delay that is running. -/
abbrev Call (α : Type) : Type := Nat → List Act → Option Nat → Poll α × Script

/-- The script lets calls wait until the delay at its front is over, for ever if there is none. -/
structure Stalls {α : Type} (call : Call α) (now : Nat) (s : Script) : Prop where
  wakes : ∀ w, s.wake? = some w → now < w
  again : ∀ later, now ≤ later → (∀ w, s.wake? = some w → later < w) →
    call later s.acts s.since = (.waiting, s)

/-- A call on acts of some weight waits and lets the same call wait, or it is answered and leaves no
delay running. -/
def Keeps {α : Type} (call : Call α) (now size : Nat) (r : Poll α × Script) : Prop :=
  match r.1 with
  | .waiting => Stalls call now r.2
  | .fault _ => r.2.since = none ∧ weight r.2.acts < size
  | .ready _ => r.2.since = none ∧ weight r.2.acts ≤ size

section

variable {α : Type} {call : Call α} {now : Nat} {rest : List Act}

theorem Keeps.mono {r : Poll α × Script} {m n : Nat} (h : Keeps call now m r) (hle : m ≤ n) :
    Keeps call now n r := by
  unfold Keeps at h ⊢
  cases hr : r.1 with
  | waiting => simpa only [hr] using h
  | fault f =>
    rw [hr] at h
    exact ⟨h.1, Nat.lt_of_lt_of_le h.2 hle⟩
  | ready a =>
    rw [hr] at h
    exact ⟨h.1, Nat.le_trans h.2 hle⟩

theorem stalls_hang (hcall : ∀ later, call later (.hang :: rest) none =
    (.waiting, ⟨.hang :: rest, none⟩)) : Stalls call now ⟨.hang :: rest, none⟩ where
  wakes w hw := by cases hw
  again later _ _ := hcall later

theorem stalls_delay {start n : Nat} (hn : ¬start + n ≤ now)
    (hcall : ∀ later, ¬start + n ≤ later → call later (.delay n :: rest) (some start) =
      (.waiting, ⟨.delay n :: rest, some start⟩)) :
    Stalls call now ⟨.delay n :: rest, some start⟩ where
  wakes w hw := by
    cases hw
    omega
  again later _ hlate := by
    have hlt : later < start + n := hlate _ rfl
    exact hcall later (by omega)

end

theorem keeps_writeFrom (now size : Nat) (acts : List Act) (since : Option Nat) :
    Keeps (fun now => writeFrom now size) now (weight acts) (writeFrom now size acts since) := by
  induction acts generalizing since with
  | nil => exact ⟨rfl, Nat.le_refl _⟩
  | cons a acts ih =>
    cases a with
    | delay n =>
      simp only [writeFrom]
      split
      · exact (ih none).mono (Nat.le_of_lt (weight_lt_cons _ _))
      · rename_i hn
        exact stalls_delay hn fun later hlater => by simp [writeFrom, hlater]
    | hang => exact stalls_hang fun _ => rfl
    | fault f => exact ⟨rfl, weight_lt_cons _ _⟩
    | data | atMost | eof => exact ⟨rfl, Nat.le_of_lt (weight_lt_cons _ _)⟩

theorem keeps_callFrom (now : Nat) (acts : List Act) (since : Option Nat) :
    Keeps callFrom now (weight acts) (callFrom now acts since) := by
  induction acts generalizing since with
  | nil => exact ⟨rfl, Nat.le_refl _⟩
  | cons a acts ih =>
    cases a with
    | delay n =>
      simp only [callFrom]
      split
      · exact (ih none).mono (Nat.le_of_lt (weight_lt_cons _ _))
      · rename_i hn
        exact stalls_delay hn fun later hlater => by simp [callFrom, hlater]
    | hang => exact stalls_hang fun _ => rfl
    | fault f => exact ⟨rfl, weight_lt_cons _ _⟩
    | data | atMost | eof => exact ⟨rfl, Nat.le_of_lt (weight_lt_cons _ _)⟩

theorem keeps_readFrom (now room : Nat) (acts : List Act) (since : Option Nat) :
    Keeps (fun now => readFrom now room) now (weight acts) (readFrom now room acts since) := by
  induction acts generalizing since with
  | nil => exact ⟨rfl, Nat.le_refl _⟩
  | cons a acts ih =>
    cases a with
    | delay n =>
      simp only [readFrom]
      split
      · exact (ih none).mono (Nat.le_of_lt (weight_lt_cons _ _))
      · rename_i hn
        exact stalls_delay hn fun later hlater => by simp [readFrom, hlater]
    | data bs =>
      simp only [readFrom]
      split
      · exact (ih none).mono (Nat.le_of_lt (weight_lt_cons _ _))
      · split
        · exact ⟨rfl, by simp⟩
        · exact ⟨rfl, by simp [Act.weight]⟩
    | atMost n => exact (ih none).mono (Nat.le_of_lt (weight_lt_cons _ _))
    | hang => exact stalls_hang fun _ => rfl
    | fault f => exact ⟨rfl, weight_lt_cons _ _⟩
    | eof => exact ⟨rfl, Nat.le_refl _⟩

/-- A read with room that gives bytes uses some of the acts up. -/
theorem weight_readFrom {now room : Nat} (hroom : 0 < room) {acts : List Act} {since : Option Nat}
    {bs : Bytes} {s : Script} (hr : readFrom now room acts since = (.ready bs, s)) (hbs : bs ≠ []) :
    weight s.acts < weight acts := by
  induction acts generalizing since with
  | nil =>
    cases hr
    exact absurd rfl hbs
  | cons a acts ih =>
    cases a with
    | delay n =>
      simp only [readFrom] at hr
      split at hr
      · exact Nat.lt_trans (ih hr) (weight_lt_cons _ _)
      · cases hr
    | data piece =>
      simp only [readFrom] at hr
      split at hr
      · exact Nat.lt_trans (ih hr) (weight_lt_cons _ _)
      · split at hr
        · cases hr
          simp [Act.weight]
        · cases hr
          simp [Act.weight]
          omega
    | atMost n => exact Nat.lt_trans (ih hr) (weight_lt_cons _ _)
    | hang => cases hr
    | fault f => cases hr
    | eof =>
      cases hr
      exact absurd rfl hbs

/-- How long the delays of some acts are together. -/
def delays : List Act → Nat
  | [] => 0
  | .delay n :: rest => n + delays rest
  | _ :: rest => delays rest

/-- How long the delays are that are left, of which the first one may be running. -/
def lag (now : Nat) (s : Script) : Nat :=
  match s.acts, s.since with
  | .delay n :: rest, some start => start + n - now + delays rest
  | acts, _ => delays acts

theorem lag_of_since {s : Script} (h : s.since = none) (now : Nat) : s.lag now = delays s.acts := by
  obtain ⟨acts, _⟩ := s
  cases h
  unfold lag
  split
  · contradiction
  · rfl

theorem delays_le_lag (now n : Nat) (rest : List Act) (since : Option Nat) :
    delays rest ≤ lag now ⟨.delay n :: rest, since⟩ := by
  cases since <;> simp [lag, delays]

/-- A call waits for a delay that was left to the script, or it leaves no longer delays. -/
def Ebbs {α : Type} (now size : Nat) (r : Poll α × Script) : Prop :=
  match r.1 with
  | .waiting => ∃ w, r.2.wake? = some w ∧ now < w ∧ w + r.2.lag w ≤ now + size
  | _ => r.2.lag now ≤ size

section

variable {α : Type} {now n : Nat} {rest : List Act} {since : Option Nat}

theorem ebbs_waiting (hlate : ¬since.getD now + n ≤ now) :
    Ebbs now (lag now ⟨.delay n :: rest, since⟩)
      ((.waiting, ⟨.delay n :: rest, some (since.getD now)⟩) : Poll α × Script) := by
  refine ⟨since.getD now + n, rfl, by omega, ?_⟩
  cases since <;> simp [lag, delays] at hlate ⊢ <;> omega

theorem ebbs_over {r : Poll α × Script} (h : Ebbs now (lag now ⟨rest, none⟩) r) :
    Ebbs now (lag now ⟨.delay n :: rest, since⟩) r := by
  have hle : lag now ⟨rest, none⟩ ≤ lag now ⟨.delay n :: rest, since⟩ :=
    Nat.le_trans (Nat.le_of_eq (lag_of_since rfl now)) (delays_le_lag now n rest since)
  unfold Ebbs at h ⊢
  cases hr : r.1 with
  | waiting =>
    rw [hr] at h
    obtain ⟨w, hw, hlt, hsum⟩ := h
    exact ⟨w, hw, hlt, by omega⟩
  | ready | fault =>
    rw [hr] at h
    exact Nat.le_trans h hle

end

theorem ebbs_writeFrom (now size : Nat) (acts : List Act) (since : Option Nat)
    (ha : acts.all isServing = true) :
    Ebbs now (lag now ⟨acts, since⟩) (writeFrom now size acts since) := by
  induction acts generalizing since with
  | nil => exact Nat.zero_le _
  | cons act acts ih =>
    obtain ⟨hact, hacts⟩ : isServing act = true ∧ acts.all isServing = true := by simpa using ha
    cases act with
    | delay n =>
      rw [writeFrom]
      split
      · exact ebbs_over (ih none hacts)
      · exact ebbs_waiting ‹_›
    | data | atMost | eof => exact Nat.le_of_eq (lag_of_since rfl now)
    | fault | hang => cases hact

theorem ebbs_callFrom (now : Nat) (acts : List Act) (since : Option Nat)
    (ha : acts.all isServing = true) :
    Ebbs now (lag now ⟨acts, since⟩) (callFrom now acts since) := by
  induction acts generalizing since with
  | nil => exact Nat.zero_le _
  | cons act acts ih =>
    obtain ⟨hact, hacts⟩ : isServing act = true ∧ acts.all isServing = true := by simpa using ha
    cases act with
    | delay n =>
      rw [callFrom]
      split
      · exact ebbs_over (ih none hacts)
      · exact ebbs_waiting ‹_›
    | data | atMost | eof => exact Nat.le_of_eq (lag_of_since rfl now)
    | fault | hang => cases hact

theorem ebbs_readFrom (now room : Nat) (acts : List Act) (since : Option Nat)
    (ha : acts.all isServing = true) :
    Ebbs now (lag now ⟨acts, since⟩) (readFrom now room acts since) := by
  induction acts generalizing since with
  | nil => exact Nat.zero_le _
  | cons act acts ih =>
    obtain ⟨hact, hacts⟩ : isServing act = true ∧ acts.all isServing = true := by simpa using ha
    have hnext : Ebbs now (delays acts) (readFrom now room acts none) := by
      simpa only [lag_of_since] using ih none hacts
    cases act with
    | delay n =>
      rw [readFrom]
      split
      · exact ebbs_over (ih none hacts)
      · exact ebbs_waiting ‹_›
    | data bs =>
      rw [readFrom]
      split
      · exact hnext
      · split <;> exact Nat.le_of_eq (lag_of_since rfl now)
    | atMost => exact hnext
    | eof => exact Nat.le_of_eq (lag_of_since rfl now)
    | fault | hang => cases hact

end Script

namespace ScriptedStream

/-- How long the delays are that are left to the calls of an exchange. -/
def lag (now : Nat) (s : ScriptedStream) : Nat :=
  s.writes.lag now + s.flushes.lag now + s.reads.lag now

end ScriptedStream
end TunnelDial
