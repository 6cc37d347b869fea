import Mathlib.Data.List.Induction
import Mathlib.Data.List.Infix
import Mathlib.Data.List.TakeWhile
import TunnelDial.Proofs.Request.Exchange
import TunnelDial.Proofs.Text.Lossy

/-! Which heads are accepted. What the reader knows after some bytes is told by the bytes alone: how
many they are, whether the first line is over and what it says, and that none of them ends an empty
line behind it. So the whole answer is a function of the bytes, with one limit for all lines; and to
read line by line, with what is left of the limit for each, comes to the same. -/
namespace TunnelDial

open Text

namespace HeadReader

theorem dropTrailing_eq_nil {p : Char → Bool} {cs : List Char} :
    dropTrailing p cs = [] ↔ cs.all p = true := by
  simp [dropTrailing, List.dropWhile_eq_nil_iff]

/-- A line is empty, without the characters that end it, exactly if it has no other bytes. -/
theorem lineText_eq_nil {line : Bytes} : lineText line = [] ↔ isBlankLine line = true := by
  have hall : isBlankLine line = (Utf8.decodeLossy line).all Utf8.showsEnd :=
    (Utf8.all_decodeLossy line).symm
  rw [hall]
  exact dropTrailing_eq_nil

/-- The line feed of a line is not in its text. -/
theorem lineText_concat (line : Bytes) : lineText (line ++ [10]) = lineText line := by
  simp [lineText, Utf8.decodeLossy_concat, dropTrailing]

theorem isBlankLine_reverse (line : Bytes) : isBlankLine line.reverse = isBlankLine line := by
  simp [isBlankLine]

end HeadReader

open HeadReader

/-- What a head comes to when the stream ends. -/
def HeadProgress.atEnd : HeadProgress → Except IoFault (Status × Bytes)
  | more _ => .error headUnfinished
  | done status rest => .ok (status, rest)
  | fault f => .error f

/-- What a head comes to when these are all the bytes that the proxy sends. -/
def readHead (answer : Bytes) : Except IoFault (Status × Bytes) :=
  (HeadReader.start.feed answer).atEnd

/-- An exchange leads to what its head comes to. -/
theorem Exchange.verdict_eq (answer : Bytes) :
    verdict answer = match readHead answer with
      | .ok (status, rest) => conclude status rest
      | .error f => .failed (.io f) := by
  unfold verdict readHead
  cases HeadReader.start.feed answer <;> rfl

/-- Why a head is not over. -/
def shortage (answer : Bytes) : IoFault :=
  if headLimit ≤ answer.length then headTooLarge else headUnfinished

/-- The bytes before the first line feed. -/
def firstLine (answer : Bytes) : Bytes := answer.takeWhile (· != 10)

/-- The status that the first line says. -/
def saidStatus? (answer : Bytes) : Option Status := Status.parse? (lineText (firstLine answer))

/-- The bytes end with the end of an empty line, which is not the first one. -/
def Closes (head : Bytes) : Prop :=
  ∃ before line, head = before ++ 10 :: (line ++ [10]) ∧ 10 ∉ line ∧ lineText line = []

/-- The bytes end with the first empty line behind the first line. -/
def ClosesFirst (head : Bytes) : Prop := Closes head ∧ ∀ p, p <+: head → Closes p → p = head

theorem firstLine_append {p : Bytes} (hp : 10 ∈ p) (bs : Bytes) :
    firstLine (p ++ bs) = firstLine p := by
  induction p with
  | nil => cases hp
  | cons b p ih =>
    by_cases hb : b = 10
    · simp [firstLine, hb]
    · have hcons (q : Bytes) : firstLine (b :: q) = b :: firstLine q :=
        List.takeWhile_cons_of_pos (bne_iff_ne.mpr hb)
      rw [List.cons_append, hcons, hcons, ih ((List.mem_cons.mp hp).resolve_left (Ne.symm hb))]

theorem firstLine_concat {p : Bytes} (hp : 10 ∉ p) (bs : Bytes) :
    firstLine (p ++ 10 :: bs) = p := by
  have hall : ∀ b ∈ p, b ≠ 10 := fun b hb he => hp (he ▸ hb)
  rw [firstLine, List.takeWhile_append_of_pos (by simpa using hall)]
  simp

theorem Closes.mem {head : Bytes} (h : Closes head) : 10 ∈ head := by
  obtain ⟨before, line, rfl, _, _⟩ := h
  simp

theorem not_closes_concat {p : Bytes} {b : UInt8} (hb : b ≠ 10) : ¬Closes (p ++ [b]) := by
  rintro ⟨before, line, h, _, _⟩
  have hsame : p ++ [b] = (before ++ 10 :: line) ++ [10] := by simpa using h
  obtain ⟨_, hlast⟩ := List.append_inj' hsame rfl
  exact hb (by simpa using hlast)

/-- What stands behind the last line feed is one line, however it is parted. -/
theorem eq_of_append_cons {xs ys l m : Bytes} (h : xs ++ 10 :: l = ys ++ 10 :: m) (hl : 10 ∉ l)
    (hm : 10 ∉ m) : l = m := by
  have hr := congrArg List.reverse h
  simp only [List.reverse_append, List.reverse_cons, List.append_assoc, List.singleton_append] at hr
  have hfirst := congrArg firstLine hr
  rw [firstLine_concat (by simpa using hl), firstLine_concat (by simpa using hm)] at hfirst
  exact List.reverse_injective hfirst

/-- A line feed closes the head exactly if the line before it is empty, and not the first one. -/
theorem closes_concat_iff {before line : Bytes} (hl : 10 ∉ line) :
    Closes (before ++ 10 :: line ++ [10]) ↔ lineText line = [] := by
  constructor
  · rintro ⟨before', line', h, hl', hempty⟩
    have hends : (before ++ 10 :: line) ++ [10] = (before' ++ 10 :: line') ++ [10] := by
      simpa using h
    rw [eq_of_append_cons (List.append_cancel_right hends) hl hl']
    exact hempty
  · intro hempty
    exact ⟨before, line, by simp, hl, hempty⟩

theorem not_closes_first {p : Bytes} (hp : 10 ∉ p) : ¬Closes (p ++ [10]) := by
  rintro ⟨before, line, h, _, _⟩
  have hends : p ++ [10] = (before ++ 10 :: line) ++ [10] := by simpa using h
  exact hp (by simp [List.append_cancel_right hends])

/-- The reader after some bytes that do not settle the answer, as the bytes tell it. -/
structure Reads (p : Bytes) (r : HeadReader) : Prop where
  taken : r.taken = p.length
  short : p.length < headLimit
  unclosed : ∀ q, q <+: p → ¬Closes q
  place : r.status = none ∧ 10 ∉ p ∧ r.line = p.reverse ∨
    ∃ s before, r.status = some s ∧ saidStatus? p = some s ∧
      p = before ++ 10 :: r.line.reverse ∧ 10 ∉ r.line

/-- What reading some bytes led to, as the bytes tell it. -/
inductive Told (p : Bytes) : HeadProgress → Prop
  | more {r} : Reads p r → Told p (.more r)
  | done {head rest s} : p = head ++ rest → ClosesFirst head → head.length ≤ headLimit →
      saidStatus? p = some s → Told p (.done s rest)
  | endless : headLimit ≤ p.length → 10 ∉ p.take headLimit → Told p (.fault headTooLarge)
  | unclosed {s} : headLimit ≤ p.length → 10 ∈ p.take headLimit → saidStatus? p = some s →
      (∀ q, q <+: p → Closes q → headLimit < q.length) → Told p (.fault headTooLarge)
  | invalid : 10 ∈ p.take headLimit → saidStatus? p = none →
      Told p (.fault (badStatusLine (lineText (firstLine p))))

theorem saidStatus?_append {p : Bytes} (hp : 10 ∈ p) (bs : Bytes) :
    saidStatus? (p ++ bs) = saidStatus? p := by
  rw [saidStatus?, firstLine_append hp, saidStatus?]

theorem mem_of_mem_take {p : Bytes} (hp : 10 ∈ p.take headLimit) : 10 ∈ p := List.mem_of_mem_take hp

/-- An answer that is settled stays so, whatever comes behind. -/
theorem Told.settled {p : Bytes} {o : HeadProgress} (ht : Told p o) (hm : ∀ r, o ≠ .more r)
    (b : UInt8) : Told (p ++ [b]) (o.andThen [b]) := by
  have take {q : Bytes} (h : headLimit ≤ q.length) : (q ++ [b]).take headLimit = q.take headLimit :=
    List.take_append_of_le_length h
  cases ht with
  | more => exact absurd rfl (hm _)
  | @done head rest s hp hc hlen hs =>
    have hmem : 10 ∈ p := by
      rw [hp]
      exact List.mem_append_left _ hc.1.mem
    exact .done (by rw [hp, List.append_assoc]) hc hlen (by rw [saidStatus?_append hmem, hs])
  | endless hlen hno => exact .endless (by simp; omega) (by rwa [take hlen])
  | @unclosed s hlen hmem hs hq =>
    refine .unclosed (by simp; omega) (by rwa [take hlen])
      (by rw [saidStatus?_append (mem_of_mem_take hmem), hs]) fun q hpre hc => ?_
    rcases List.prefix_concat_iff.mp hpre with rfl | hpre
    · simp
      omega
    · exact hq q hpre hc
  | invalid hmem hs =>
    have h10 := mem_of_mem_take hmem
    rw [← firstLine_append h10 [b]]
    refine .invalid ?_ (by rw [saidStatus?_append h10, hs])
    exact List.IsPrefix.subset (List.IsPrefix.take (List.prefix_append ..) _) hmem

/-- No line feed ends an empty line that was not there before. -/
theorem Reads.unclosed_concat {p : Bytes} {r : HeadReader} (hr : Reads p r) {b : UInt8}
    (hc : ¬Closes (p ++ [b])) (q : Bytes) (hq : q <+: p ++ [b]) : ¬Closes q := by
  rcases List.prefix_concat_iff.mp hq with rfl | hq
  · exact hc
  · exact hr.unclosed q hq

/-- A byte that is in a line. -/
theorem Reads.byte {p : Bytes} {r : HeadReader} (hr : Reads p r) {b : UInt8} (hb : b ≠ 10) :
    Told (p ++ [b]) (room { r with taken := r.taken + 1, line := b :: r.line }) := by
  have hlen : (p ++ [b]).length = p.length + 1 := by simp
  have hopen := hr.unclosed_concat (not_closes_concat hb)
  have hshort := hr.short
  simp only [room, hr.taken]
  by_cases hlim : headLimit ≤ p.length + 1
  · have htake : (p ++ [b]).take headLimit = p ++ [b] := List.take_of_length_le (by omega)
    rw [if_pos hlim]
    rcases hr.place with ⟨_, h10, _⟩ | ⟨s, before, _, hs, hp, _⟩
    · exact .endless (by omega) (by simp [htake, h10, Ne.symm hb])
    · have h10 : 10 ∈ p := by simp [hp]
      refine .unclosed (by omega) (by simp [htake, h10]) (by rw [saidStatus?_append h10, hs]) ?_
      exact fun q hq hc => absurd hc (hopen q hq)
  · rw [if_neg hlim]
    refine .more ⟨by simp, by omega, hopen, ?_⟩
    rcases hr.place with ⟨hs, h10, hl⟩ | ⟨s, before, hrs, hs, hp, hl⟩
    · exact .inl ⟨hs, by simp [h10, Ne.symm hb], by simp [hl]⟩
    · have h10 : 10 ∈ p := by simp [hp]
      refine .inr ⟨s, before, hrs, by rw [saidStatus?_append h10, hs], ?_, by
        simp [hl, Ne.symm hb]⟩
      conv => lhs; rw [hp]
      simp

/-- More of a head after a line that did not close it. -/
theorem Reads.room {p : Bytes} {r : HeadReader} (hr : Reads p r) {s : Status}
    (hs : saidStatus? (p ++ [10]) = some s) (hc : ¬Closes (p ++ [10])) :
    Told (p ++ [10]) (HeadReader.room ⟨r.taken + 1, [], some s⟩) := by
  have hlen : (p ++ [10]).length = p.length + 1 := by simp
  have hopen := hr.unclosed_concat hc
  have hshort := hr.short
  simp only [HeadReader.room, hr.taken]
  by_cases hlim : headLimit ≤ p.length + 1
  · have htake : (p ++ [10]).take headLimit = p ++ [10] := List.take_of_length_le (by omega)
    rw [if_pos hlim]
    exact .unclosed (by omega) (by simp [htake]) hs fun q hq hcq => absurd hcq (hopen q hq)
  · rw [if_neg hlim]
    exact .more ⟨by simp, by omega, hopen, .inr ⟨s, p, rfl, hs, by simp, by simp⟩⟩

/-- The end of a line. -/
theorem Reads.endLine {p : Bytes} {r : HeadReader} (hr : Reads p r) :
    Told (p ++ [10]) (r.endLine []) := by
  have hshort := hr.short
  have htake : (p ++ [10]).take headLimit = p ++ [10] := List.take_of_length_le (by simp; omega)
  unfold HeadReader.endLine
  rcases hr.place with ⟨hnone, h10, hl⟩ | ⟨s, before, hrs, hs, hp, hl⟩
  · have hfirst : firstLine (p ++ [10]) = p := firstLine_concat h10 []
    have hsaid : saidStatus? (p ++ [10]) = Status.parse? (lineText p) := by
      rw [saidStatus?, hfirst]
    simp only [hnone, hl, List.reverse_reverse]
    cases hparse : Status.parse? (lineText p) with
    | none =>
      have ht : Told (p ++ [10]) (.fault (badStatusLine (lineText (firstLine (p ++ [10]))))) :=
        .invalid (by simp [htake]) (by rw [hsaid, hparse])
      rwa [hfirst] at ht
    | some s => exact hr.room (by rw [hsaid, hparse]) (not_closes_first h10)
  · have h10 : 10 ∈ p := by simp [hp]
    have hsaid : saidStatus? (p ++ [10]) = some s := by rw [saidStatus?_append h10, hs]
    have hcloses : Closes (p ++ [10]) ↔ isBlankLine r.line = true := by
      rw [← isBlankLine_reverse, ← lineText_eq_nil]
      conv => lhs; rw [hp]
      exact closes_concat_iff (by simpa using hl)
    simp only [hrs]
    split
    · rename_i hblank
      have hfirst : ClosesFirst (p ++ [10]) := by
        refine ⟨hcloses.mpr hblank, fun q hq hc => ?_⟩
        rcases List.prefix_concat_iff.mp hq with rfl | hq
        · rfl
        · exact absurd hc (hr.unclosed q hq)
      exact .done (List.append_nil _).symm hfirst (by simp; omega) hsaid
    · rename_i hblank
      exact hr.room hsaid fun hc => hblank (hcloses.mp hc)

theorem feed_singleton (r : HeadReader) (b : UInt8) :
    r.feed [b] = if b = 10 then r.endLine []
      else room { r with taken := r.taken + 1, line := b :: r.line } := by
  rw [feed_cons]
  split <;> simp_all [feed]

/-- Reading leads to what the bytes tell. -/
theorem told_feed (p : Bytes) : Told p (HeadReader.start.feed p) := by
  induction p using List.reverseRecOn with
  | nil =>
    refine .more ⟨rfl, by decide, fun q hq => ?_, .inl ⟨rfl, by simp, rfl⟩⟩
    rw [List.prefix_nil.mp hq]
    exact fun hc => nomatch hc.mem
  | append_singleton p b ih =>
    rw [feed_append]
    cases ho : HeadReader.start.feed p with
    | more r =>
      rw [ho] at ih
      cases ih with
      | more hr =>
        change Told (p ++ [b]) (r.feed [b])
        rw [feed_singleton]
        by_cases hb : b = 10
        · rw [if_pos hb, hb]
          exact hr.endLine
        · rw [if_neg hb]
          exact hr.byte hb
    | done s rest => exact (ho ▸ ih).settled nofun b
    | fault f => exact (ho ▸ ih).settled nofun b

section

variable {p : Bytes} {o : HeadProgress}

theorem shortage_of_lt (hp : p.length < headLimit) : shortage p = headUnfinished :=
  if_neg (Nat.not_le.mpr hp)

theorem shortage_of_le (hp : headLimit ≤ p.length) : shortage p = headTooLarge := if_pos hp

/-- A first line that is over said some status, or the head would not go on. -/
theorem Reads.said {r : HeadReader} (hr : Reads p r) (h10 : 10 ∈ p) :
    ∃ s, saidStatus? p = some s := by
  rcases hr.place with ⟨_, hno, _⟩ | ⟨s, _, _, hs, _⟩
  · exact absurd h10 hno
  · exact ⟨s, hs⟩

theorem Told.of_endless (ht : Told p o) (h10 : 10 ∉ p.take headLimit) :
    o.atEnd = .error (shortage p) := by
  cases ht with
  | more hr => rw [HeadProgress.atEnd, shortage_of_lt hr.short]
  | @done head rest s hp hc hlen =>
    refine absurd ?_ h10
    rw [hp, List.take_append, List.take_of_length_le hlen]
    exact List.mem_append_left _ hc.1.mem
  | endless hlen => rw [HeadProgress.atEnd, shortage_of_le hlen]
  | unclosed _ hmem => exact absurd hmem h10
  | invalid hmem => exact absurd hmem h10

theorem Told.of_invalid (ht : Told p o) (h10 : 10 ∈ p.take headLimit) (hs : saidStatus? p = none) :
    o.atEnd = .error (badStatusLine (lineText (firstLine p))) := by
  cases ht with
  | more hr =>
    obtain ⟨s, hsome⟩ := hr.said (mem_of_mem_take h10)
    simp [hs] at hsome
  | done _ _ _ hsome => simp [hs] at hsome
  | endless _ hno => exact absurd h10 hno
  | unclosed _ _ hsome => simp [hs] at hsome
  | invalid => rfl

theorem Told.of_closed {q : Bytes} {s : Status} (ht : Told p o) (h10 : 10 ∈ p.take headLimit)
    (hs : saidStatus? p = some s) (hq : q <+: p) (hc : Closes q) (hlen : q.length ≤ headLimit) :
    ∃ head rest, p = head ++ rest ∧ ClosesFirst head ∧ head.length ≤ headLimit ∧
      o.atEnd = .ok (s, rest) := by
  cases ht with
  | more hr => exact absurd hc (hr.unclosed q hq)
  | @done head rest s' hp hfirst hle hs' =>
    obtain rfl : s = s' := Option.some.inj (hs.symm.trans hs')
    exact ⟨head, rest, hp, hfirst, hle, rfl⟩
  | endless _ hno => exact absurd h10 hno
  | unclosed _ _ _ hall =>
    have := hall q hq hc
    omega
  | invalid _ hnone => simp [hs] at hnone

theorem Told.of_unclosed {s : Status} (ht : Told p o) (hs : saidStatus? p = some s)
    (hall : ∀ q, q <+: p → Closes q → headLimit < q.length) : o.atEnd = .error (shortage p) := by
  cases ht with
  | more hr => rw [HeadProgress.atEnd, shortage_of_lt hr.short]
  | @done head rest s' hp hc hlen =>
    have := hall head (hp ▸ List.prefix_append ..) hc.1
    omega
  | endless hlen => rw [HeadProgress.atEnd, shortage_of_le hlen]
  | unclosed hlen => rw [HeadProgress.atEnd, shortage_of_le hlen]
  | invalid _ hnone => simp [hs] at hnone

/-- A head that was accepted ends with the first empty line, within the limit. -/
theorem Told.of_ok {rest : Bytes} {s : Status} (ht : Told p o) (ho : o.atEnd = .ok (s, rest)) :
    ∃ head, p = head ++ rest ∧ ClosesFirst head ∧ head.length ≤ headLimit := by
  cases ht with
  | @done head rest' s' hp hc hlen =>
    cases ho
    exact ⟨head, hp, hc, hlen⟩
  | more | endless | unclosed | invalid => cases ho

end

/-- At most that many bytes, up to the first line feed, and the bytes behind them. -/
def takeLine : Nat → Bytes → Bytes × Bytes
  | 0, bs => ([], bs)
  | _ + 1, [] => ([], [])
  | n + 1, b :: bs =>
    if b = 10 then ([10], bs) else (b :: (takeLine n bs).1, (takeLine n bs).2)

theorem takeLine_append (n : Nat) (bs : Bytes) : (takeLine n bs).1 ++ (takeLine n bs).2 = bs := by
  induction n generalizing bs with
  | zero => rfl
  | succ n ih =>
    cases bs with
    | nil => rfl
    | cons b bs =>
      rw [takeLine]
      split
      · rename_i hb
        simp [hb]
      · simp [ih]

theorem length_takeLine_lt {n : Nat} {bs : Bytes} (h : (takeLine n bs).1.getLast? = some 10) :
    (takeLine n bs).2.length < bs.length := by
  have happend := congrArg List.length (takeLine_append n bs)
  have hne : (takeLine n bs).1 ≠ [] := fun h0 => by simp [h0] at h
  have hpos := List.length_pos_iff.mpr hne
  rw [List.length_append] at happend
  omega

/-- Reads a head line by line. `total` counts the bytes of the lines before; the next line may have
what that leaves of the limit, and there is no result where it leaves less than nothing. -/
def readLines (total : Nat) (status : Option Status) (bs : Bytes) :
    Option (Except IoFault (Status × Bytes)) :=
  if headLimit < total then none
  else
    let line := (takeLine (headLimit - total) bs).1
    let rest := (takeLine (headLimit - total) bs).2
    let total := total + line.length
    if _ended : line.getLast? = some 10 then
      match status with
      | none =>
        match Status.parse? (lineText line) with
        | none => some (.error (badStatusLine (lineText line)))
        | some s => readLines total (some s) rest
      | some s => if lineText line = [] then some (.ok (s, rest)) else readLines total (some s) rest
    else some (.error (if headLimit ≤ total then headTooLarge else headUnfinished))
termination_by bs.length
decreasing_by all_goals exact length_takeLine_lt ‹_›

/-- What the reader does until the line is over, or there is no more room for it. -/
theorem feed_takeLine {r : HeadReader} (hr : r.taken < headLimit) (bs : Bytes) :
    (∃ line rest, takeLine (headLimit - r.taken) bs = (line ++ [10], rest) ∧
      r.taken + line.length < headLimit ∧
      r.feed bs = match HeadReader.endLine
          ⟨r.taken + line.length, line.reverse ++ r.line, r.status⟩ rest with
        | .more r' => r'.feed rest
        | other => other) ∨
    (takeLine (headLimit - r.taken) bs).1.getLast? ≠ some 10 ∧
      (r.feed bs).atEnd = .error
        (if headLimit ≤ r.taken + (takeLine (headLimit - r.taken) bs).1.length then headTooLarge
          else headUnfinished) := by
  induction bs generalizing r with
  | nil =>
    have hnil : takeLine (headLimit - r.taken) [] = ([], []) := by
      cases headLimit - r.taken <;> rfl
    have hroom : ¬headLimit ≤ r.taken := by omega
    refine .inr ⟨by simp [hnil], ?_⟩
    simp [hnil, hroom, feed, HeadProgress.atEnd]
  | cons b bs ih =>
    obtain ⟨n, hn⟩ : ∃ n, headLimit - r.taken = n + 1 := ⟨headLimit - r.taken - 1, by omega⟩
    rw [hn, takeLine, feed_cons]
    by_cases hb : b = 10
    · refine .inl ⟨[], bs, by simp [hb], by simpa using hr, ?_⟩
      rw [if_pos hb]
      rfl
    · rw [if_neg hb, if_neg hb]
      by_cases hlim : headLimit ≤ r.taken + 1
      · obtain rfl : n = 0 := by omega
        refine .inr ⟨by simpa [takeLine] using hb, ?_⟩
        simp [room, hlim, takeLine, HeadProgress.atEnd]
      · have hroom : room { r with taken := r.taken + 1, line := b :: r.line } =
            .more { r with taken := r.taken + 1, line := b :: r.line } := if_neg hlim
        have hleft : headLimit - (r.taken + 1) = n := by omega
        rw [hroom]
        rcases ih (r := { r with taken := r.taken + 1, line := b :: r.line })
          (by simpa using hlim) with ⟨line, rest, htake, hlt, hfeed⟩ | ⟨hlast, hfeed⟩
        · rw [hleft] at htake
          have hlen : r.taken + (b :: line).length = r.taken + 1 + line.length := by
            rw [List.length_cons]
            omega
          have hline : (b :: line).reverse ++ r.line = line.reverse ++ b :: r.line := by simp
          refine .inl ⟨b :: line, rest, by rw [htake]; rfl, by rw [hlen]; exact hlt, ?_⟩
          rw [hlen, hline]
          exact hfeed
        · rw [hleft] at hlast hfeed
          have hlen : r.taken + (b :: (takeLine n bs).1).length =
              r.taken + 1 + (takeLine n bs).1.length := by
            rw [List.length_cons]
            omega
          refine .inr ⟨?_, by rw [hlen]; exact hfeed⟩
          cases hl : (takeLine n bs).1 with
          | nil => simpa using hb
          | cons b' bs' =>
            rw [hl] at hlast
            simpa using hlast

theorem room_andThen (r : HeadReader) (bs : Bytes) :
    (match r.room with
      | .more r' => r'.feed bs
      | other => other) = r.room.andThen bs := by
  cases hr : r.room with
  | done s rest => exact absurd hr (room_ne_done r s rest)
  | more r' => rfl
  | fault f => rfl

/-- To read line by line comes to the same, from the beginning of any line. -/
theorem readLines_eq {total : Nat} (ht : total ≤ headLimit) (status : Option Status) (bs : Bytes) :
    readLines total status bs = some ((HeadReader.room ⟨total, [], status⟩).andThen bs).atEnd := by
  induction hn : bs.length using Nat.strongRecOn generalizing total status bs with
  | ind n ih =>
    rw [readLines, if_neg (by omega)]
    by_cases hfull : total = headLimit
    · subst hfull
      simp [takeLine, HeadReader.room, HeadProgress.andThen, HeadProgress.atEnd]
    · have hroom : HeadReader.room ⟨total, [], status⟩ = .more ⟨total, [], status⟩ :=
        if_neg (by simp only; omega)
      have hlt : total < headLimit := by omega
      rw [hroom]
      change _ = some (HeadReader.feed ⟨total, [], status⟩ bs).atEnd
      rcases feed_takeLine (r := ⟨total, [], status⟩) hlt bs with
        ⟨line, rest, htake, hlen, hfeed⟩ | ⟨hlast, hfeed⟩
      · have hshorter : rest.length < n := by
          have happend := takeLine_append (headLimit - total) bs
          rw [htake] at happend
          have := congrArg List.length happend
          simp at this
          omega
        have hnext (s : Status) : readLines (total + (line ++ [10]).length) (some s) rest =
            some ((HeadReader.room ⟨total + line.length + 1, [], some s⟩).andThen rest).atEnd := by
          have hsum : total + (line ++ [10]).length = total + line.length + 1 := by
            simp
            omega
          rw [hsum]
          exact ih rest.length hshorter hlen (some s) rest rfl
        rw [hfeed]
        simp only [htake, List.getLast?_concat, dif_pos, lineText_concat, hnext]
        unfold HeadReader.endLine
        cases status with
        | none =>
          simp only [List.append_nil, List.reverse_reverse]
          cases Status.parse? (lineText line) with
          | none => rfl
          | some s => rw [room_andThen]
        | some s =>
          have hblank : isBlankLine (line.reverse ++ []) = true ↔ lineText line = [] := by
            rw [List.append_nil, isBlankLine_reverse, lineText_eq_nil]
          simp only [hblank]
          split
          · rfl
          · rw [room_andThen]
      · rw [dif_neg hlast, hfeed]

/-- It makes no difference in which pieces the bytes come. -/
theorem feed_pieces (ps : List Bytes) :
    ps.foldl HeadProgress.andThen (.more .start) = HeadReader.start.feed ps.flatten := by
  induction ps using List.reverseRecOn with
  | nil => rfl
  | append_singleton ps p ih =>
    rw [List.foldl_append, ih, List.flatten_append, feed_append]
    simp

/-- Two beginnings of the same bytes that end with the first empty line are the same. -/
theorem ClosesFirst.eq {answer p q : Bytes} (hp : ClosesFirst p) (hq : ClosesFirst q)
    (hpa : p <+: answer) (hqa : q <+: answer) : p = q := by
  rcases List.prefix_or_prefix_of_prefix hpa hqa with h | h
  · exact hq.2 p h hp.1
  · exact (hp.2 q h hq.1).symm

/-- What a head comes to, if these are all the bytes that the proxy sends. Without a line feed
within the limit it falls short; else a first line that says no status is refused, whatever comes
behind; else the head is over with the first empty line behind the first one, if that ends within
the limit, and the bytes behind it are left; else it falls short, for lack of room exactly if there
are as many bytes as the limit. To read line by line, with what is left of the limit, comes to the
same and never lacks a difference, and so does to read in any pieces. No head is longer than the
limit, and a reader that wants more bytes has less than that. -/
theorem readHead_eq (answer : Bytes) :
    (10 ∉ answer.take headLimit → readHead answer = .error (shortage answer)) ∧
    (10 ∈ answer.take headLimit → saidStatus? answer = none →
      readHead answer = .error (badStatusLine (lineText (firstLine answer)))) ∧
    (∀ s, 10 ∈ answer.take headLimit → saidStatus? answer = some s →
      (∀ p, p <+: answer → Closes p → p.length ≤ headLimit →
        ∃ head rest, answer = head ++ rest ∧ ClosesFirst head ∧ head.length ≤ headLimit ∧
          readHead answer = .ok (s, rest)) ∧
      ((∀ p, p <+: answer → Closes p → headLimit < p.length) →
        readHead answer = .error (shortage answer))) ∧
    readLines 0 none answer = some (readHead answer) ∧
    (∀ ps : List Bytes, ps.flatten = answer →
      (ps.foldl HeadProgress.andThen (.more .start)).atEnd = readHead answer) ∧
    (∀ r, HeadReader.start.feed answer = .more r →
      r.taken = answer.length ∧ answer.length < headLimit) ∧
    ∀ head rest s, answer = head ++ rest → ClosesFirst head → saidStatus? answer = some s →
      (readHead answer = .ok (s, rest) ↔ head.length ≤ headLimit) := by
  have ht := told_feed answer
  have hlines : readLines 0 none answer = some (readHead answer) := readLines_eq (by decide) none answer
  have hpieces (ps : List Bytes) (hps : ps.flatten = answer) :
      (ps.foldl HeadProgress.andThen (.more .start)).atEnd = readHead answer := by
    rw [feed_pieces, hps, readHead]
  refine ⟨ht.of_endless, ht.of_invalid, fun s h10 hs => ⟨fun p hp hc hlen => ?_, fun hall => ?_⟩,
    hlines, hpieces, fun r hr => ?_, fun head rest s hsplit hc hs => ⟨fun hok => ?_, fun hlen => ?_⟩⟩
  · exact ht.of_closed h10 hs hp hc hlen
  · exact ht.of_unclosed hs hall
  · rw [hr] at ht
    cases ht with
    | more hreads => exact ⟨hreads.taken, hreads.short⟩
  · obtain ⟨head', hsplit', hc', hlen'⟩ := ht.of_ok hok
    rw [hc.eq hc' (hsplit ▸ List.prefix_append ..) (hsplit' ▸ List.prefix_append ..)]
    exact hlen'
  · have hprefix : head <+: answer := hsplit ▸ List.prefix_append ..
    have h10 : 10 ∈ answer.take headLimit := by
      rw [hsplit, List.take_append, List.take_of_length_le hlen]
      exact List.mem_append_left _ hc.1.mem
    obtain ⟨head', rest', hsplit', hc', _, hok⟩ := ht.of_closed h10 hs hprefix hc.1 hlen
    obtain rfl := hc.eq hc' hprefix (hsplit' ▸ List.prefix_append ..)
    obtain rfl : rest = rest' := List.append_cancel_left (hsplit.symm.trans hsplit')
    exact hok

/-- A head with the status line `HTTP/1.1 200 OK` and one line of that many letters. -/
def paddedHead (n : Nat) : Bytes :=
  [72, 84, 84, 80, 47, 49, 46, 49, 32, 50, 48, 48, 32, 79, 75, 10] ++
    (List.replicate n 97 ++ [10, 10])

theorem length_paddedHead (n : Nat) : (paddedHead n).length = n + 18 := by simp [paddedHead]

theorem saidStatus?_paddedHead (n : Nat) : saidStatus? (paddedHead n) = some ⟨200, ['O', 'K']⟩ := by
  rw [paddedHead, saidStatus?_append (by decide)]
  decide

theorem closesFirst_paddedHead {n : Nat} (hn : 0 < n) : ClosesFirst (paddedHead n) := by
  let status : Bytes := [72, 84, 84, 80, 47, 49, 46, 49, 32, 50, 48, 48, 32, 79, 75]
  have hletters : 10 ∉ List.replicate n (97 : UInt8) := by simp
  have hline : ¬Closes (status ++ 10 :: List.replicate n 97 ++ [10]) := by
    rw [closes_concat_iff hletters, lineText_eq_nil, isBlankLine, List.all_replicate]
    simp
    omega
  have hsplit : paddedHead n = (status ++ 10 :: List.replicate n 97 ++ [10]) ++ [10] := by
    simp [paddedHead, status]
  refine ⟨⟨status ++ 10 :: List.replicate n 97, [], by simp [hsplit], by simp, by decide⟩, ?_⟩
  intro q hq hc
  rw [hsplit] at hq ⊢
  rcases List.prefix_concat_iff.mp hq with rfl | hq
  · rfl
  rcases List.prefix_concat_iff.mp hq with rfl | hq
  · exact absurd hc hline
  · -- so far there was one line feed only
    obtain ⟨before, line, rfl, _, _⟩ := hc
    have hcount := hq.sublist.count_le 10
    simp [status, List.count_replicate] at hcount
    omega

theorem readHead_eq_padded :
    readHead (paddedHead 65518) = .ok (⟨200, ['O', 'K']⟩, []) ∧
      readHead (paddedHead 65519) ≠ .ok (⟨200, ['O', 'K']⟩, []) := by
  have accepted (n : Nat) (hn : 0 < n) :
      readHead (paddedHead n) = .ok (⟨200, ['O', 'K']⟩, []) ↔ n + 18 ≤ headLimit := by
    rw [← length_paddedHead]
    exact (readHead_eq (paddedHead n)).2.2.2.2.2.2 (paddedHead n) [] _ (by simp)
      (closesFirst_paddedHead hn) (saidStatus?_paddedHead n)
  exact ⟨(accepted 65518 (by decide)).mpr (by decide),
    fun h => absurd ((accepted 65519 (by decide)).mp h) (by decide)⟩

end TunnelDial
