import TunnelDial.Stream.Use

/-! Runs, event by event: what holds of each step holds of the whole run, and events that one side
of a system never sees can be left out of a run without that side's noticing. -/
namespace TunnelDial

section
variable {σ τ ε α : Type} {step : σ → ε → α × σ} {step' : τ → ε → α × τ}

@[simp] theorem transcript_nil (s : σ) : transcript step s [] = ([], s) := rfl

theorem transcript_cons (s : σ) (e : ε) (es : List ε) :
    transcript step s (e :: es) =
      ((e, (step s e).1) :: (transcript step (step s e).2 es).1,
        (transcript step (step s e).2 es).2) := rfl

/-- A run goes on where another one ended. -/
theorem transcript_append (s : σ) (es fs : List ε) :
    transcript step s (es ++ fs) =
      ((transcript step s es).1 ++ (transcript step (transcript step s es).2 fs).1,
        (transcript step (transcript step s es).2 fs).2) := by
  induction es generalizing s with
  | nil => rfl
  | cons e es ih => rw [List.cons_append, transcript_cons, ih, transcript_cons, List.cons_append]

/-- What one more event adds to a run. -/
theorem transcript_concat (s : σ) (es : List ε) (e : ε) :
    transcript step s (es ++ [e]) =
      ((transcript step s es).1 ++ [(e, (step (transcript step s es).2 e).1)],
        (step (transcript step s es).2 e).2) :=
  transcript_append s es [e]

/-- What every step keeps holds after every run. -/
theorem transcript_keeps {P : σ → Prop} (hstep : ∀ s e, P s → P (step s e).2) {s : σ} (hs : P s)
    (es : List ε) : P (transcript step s es).2 := by
  induction es generalizing s with
  | nil => exact hs
  | cons e es ih => exact ih (hstep s e hs)

/-- Two systems that are related, answer the kept events alike and stay related at every event, also
when only the first one sees it, answer all kept events of a run alike. -/
theorem transcript_filter {p : ε → Bool} {R : σ → τ → Prop}
    (hkept : ∀ s t e, p e = true → R s t →
      (step s e).1 = (step' t e).1 ∧ R (step s e).2 (step' t e).2)
    (hleft : ∀ s t e, p e = false → R s t → R (step s e).2 t) {s : σ} {t : τ} (h : R s t)
    (es : List ε) :
    (transcript step s es).1.filter (fun x => p x.1) = (transcript step' t (es.filter p)).1 ∧
      R (transcript step s es).2 (transcript step' t (es.filter p)).2 := by
  induction es generalizing s t with
  | nil => exact ⟨rfl, h⟩
  | cons e es ih =>
    cases hp : p e with
    | true =>
      obtain ⟨hanswer, hnext⟩ := hkept s t e hp h
      obtain ⟨hlog, hlast⟩ := ih hnext
      rw [List.filter_cons_of_pos hp, transcript_cons, transcript_cons,
        List.filter_cons_of_pos (by exact hp), hlog, hanswer]
      exact ⟨rfl, hlast⟩
    | false =>
      have hnot : ¬p e = true := by simp [hp]
      rw [List.filter_cons_of_neg hnot, transcript_cons, List.filter_cons_of_neg (by exact hnot)]
      exact ih (hleft s t e hp h)

/-- Two systems that are related and answer every event alike have the same transcripts. -/
theorem transcript_eq {R : σ → τ → Prop}
    (hstep : ∀ s t e, R s t → (step s e).1 = (step' t e).1 ∧ R (step s e).2 (step' t e).2)
    {s : σ} {t : τ} (h : R s t) (es : List ε) :
    (transcript step s es).1 = (transcript step' t es).1 ∧
      R (transcript step s es).2 (transcript step' t es).2 := by
  have hall := transcript_filter (p := fun _ => true) (fun s t e _ => hstep s t e) nofun h es
  rwa [List.filter_eq_self.mpr (fun _ _ => rfl), List.filter_eq_self.mpr (fun _ _ => rfl)] at hall

end

end TunnelDial
