import TunnelDial.Request.Reply

/-! Reading a head in pieces. It makes no difference where the bytes are cut, and a head that is
over leaves all bytes after it. -/
namespace TunnelDial

/-- What reading led to, with more bytes behind those that were read. -/
def HeadProgress.andThen (p : HeadProgress) (bs : Bytes) : HeadProgress :=
  match p with
  | more r => r.feed bs
  | done status rest => .done status (rest ++ bs)
  | fault f => .fault f

namespace HeadReader

theorem feed_cons (r : HeadReader) (b : UInt8) (bs : Bytes) :
    r.feed (b :: bs) =
      match (if b = 10 then r.endLine bs
        else room { r with taken := r.taken + 1, line := b :: r.line }) with
      | .more r' => r'.feed bs
      | other => other := rfl

theorem room_ne_done (r : HeadReader) (status : Status) (rest : Bytes) :
    r.room ≠ .done status rest := by
  unfold room
  split <;> simp

/-- The end of a line treats the bytes after it alike, however many there are. -/
theorem endLine_append (r : HeadReader) (rest bs : Bytes) :
    r.endLine (rest ++ bs) = match r.endLine rest with
      | .done status rest => .done status (rest ++ bs)
      | other => other := by
  have hroom (k : HeadReader) : k.room = match k.room with
      | .done status rest => .done status (rest ++ bs)
      | other => other := by
    unfold room
    split <;> rfl
  unfold endLine
  cases r.status with
  | none =>
    dsimp only
    cases Status.parse? (lineText r.line.reverse) with
    | none => rfl
    | some s => exact hroom _
  | some s =>
    dsimp only
    split
    · rfl
    · exact hroom _

/-- It makes no difference whether bytes come in one piece or in two. -/
theorem feed_append (r : HeadReader) (bs cs : Bytes) :
    r.feed (bs ++ cs) = (r.feed bs).andThen cs := by
  induction bs generalizing r with
  | nil => rfl
  | cons b bs ih =>
    rw [List.cons_append, feed_cons, feed_cons]
    by_cases hb : b = 10
    · rw [if_pos hb, if_pos hb, endLine_append]
      cases r.endLine bs with
      | more r' => exact ih r'
      | done status rest => rfl
      | fault f => rfl
    · rw [if_neg hb, if_neg hb]
      cases hr : room { r with taken := r.taken + 1, line := b :: r.line } with
      | more r' => exact ih r'
      | done status rest => exact absurd hr (room_ne_done _ status rest)
      | fault f => rfl

/-- The bytes behind the end of a line are those that the head leaves. -/
theorem endLine_done {r : HeadReader} {bs rest : Bytes} {status : Status}
    (h : r.endLine bs = .done status rest) : rest = bs ∧ r.endLine [] = .done status [] := by
  unfold endLine at h ⊢
  cases hs : r.status with
  | none =>
    rw [hs] at h
    dsimp only at h
    split at h
    · exact absurd h (room_ne_done _ status rest)
    · cases h
  | some s =>
    rw [hs] at h
    dsimp only at h ⊢
    by_cases hb : isBlankLine r.line = true
    · rw [if_pos hb] at h ⊢
      cases h
      exact ⟨rfl, rfl⟩
    · rw [if_neg hb] at h
      exact absurd h (room_ne_done _ status rest)

/-- A head that is over is a beginning of the bytes, and the rest is what is behind it. -/
theorem feed_done {r : HeadReader} {bs rest : Bytes} {status : Status}
    (h : r.feed bs = .done status rest) :
    ∃ head, bs = head ++ rest ∧ r.feed head = .done status [] := by
  induction bs generalizing r with
  | nil => cases h
  | cons b bs ih =>
    rw [feed_cons] at h
    by_cases hb : b = 10
    · rw [if_pos hb] at h
      cases hr : r.endLine bs with
      | more r' =>
        rw [hr] at h
        obtain ⟨head, rfl, hhead⟩ := ih h
        have hmore : r.endLine head = .more r' := by
          rw [endLine_append] at hr
          cases hk : r.endLine head with
          | more k => rw [hk] at hr; exact hr
          | done status' rest' => rw [hk] at hr; cases hr
          | fault f => rw [hk] at hr; cases hr
        exact ⟨b :: head, rfl, by rw [feed_cons, if_pos hb, hmore]; exact hhead⟩
      | done status' rest' =>
        rw [hr] at h
        cases h
        obtain ⟨rfl, hnil⟩ := endLine_done hr
        exact ⟨[b], rfl, by rw [feed_cons, if_pos hb, hnil]⟩
      | fault f =>
        rw [hr] at h
        cases h
    · rw [if_neg hb] at h
      cases hr : room { r with taken := r.taken + 1, line := b :: r.line } with
      | more r' =>
        rw [hr] at h
        obtain ⟨head, rfl, hhead⟩ := ih h
        exact ⟨b :: head, rfl, by rw [feed_cons, if_neg hb, hr]; exact hhead⟩
      | done status' rest' => exact absurd hr (room_ne_done _ status' rest')
      | fault f =>
        rw [hr] at h
        cases h

end HeadReader
end TunnelDial
