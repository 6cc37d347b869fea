import TunnelDial.Proofs.Request.Bound
import TunnelDial.Proofs.Text.Blank
import TunnelDial.Proofs.Text.Numeral

/-! Status lines. A line is read exactly if it has a version of HTTP/1, a word for the code and
perhaps a reason. The word may be longer than the three digits of the code: a plus sign and zeros
are let through before them. What a refused dial is told has the three digits. -/
namespace TunnelDial

open Text

namespace Status

/-- A line of a version of HTTP/1, a word and perhaps a reason, with one blank before each of the
latter two. -/
structure Consists (line version word : List Char) (reason : Option (List Char)) : Prop where
  isVersion : "HTTP/1.".toList <+: version
  unbroken : ' ' ∉ version
  joined : line = version ++ ' ' :: (word ++ (reason.map (' ' :: ·)).getD [])

/-- The word is a code in three digits. -/
structure IsCode (word : List Char) (n : Nat) : Prop where
  least : 100 ≤ n
  most : n ≤ 999
  digits : word = decimal n

/-- The word is taken for a code: that stands at its end, behind zeros and at most one plus sign. -/
def PassesFor (word : List Char) (n : Nat) : Prop :=
  ∃ sign k code, (sign = [] ∨ sign = ['+']) ∧ IsCode code n ∧
    word = sign ++ (List.replicate k '0' ++ code)

variable {line word : List Char} {n : Nat} {s : Status}

theorem IsCode.length_eq (h : IsCode word n) : word.length = 3 := by
  have hle {k : Nat} (hk : 0 < k) : (decimal n).length ≤ k ↔ n < 10 ^ k :=
    Nat.length_toDigits_le_iff (by decide) hk
  have hmost : (decimal n).length ≤ 3 := (hle (by decide)).mpr (Nat.lt_succ_of_le h.most)
  have hleast : ¬(decimal n).length ≤ 2 := fun hlt =>
    absurd ((hle (by decide)).mp hlt) (Nat.not_lt.mpr h.least)
  rw [h.digits]
  omega

/-- Of the words of three characters just the codes are taken for one. -/
theorem isCode_iff : IsCode word n ↔ PassesFor word n ∧ word.length = 3 := by
  refine ⟨fun h => ⟨⟨[], 0, word, .inl rfl, h, rfl⟩, h.length_eq⟩, ?_⟩
  rintro ⟨⟨sign, k, code, -, hcode, rfl⟩, hlength⟩
  rw [List.length_append, List.length_append, hcode.length_eq] at hlength
  have hsign : sign = [] := List.length_eq_zero_iff.mp (by omega)
  have hzeros : List.replicate k '0' = [] := List.length_eq_zero_iff.mp (by omega)
  rw [hsign, hzeros]
  exact hcode

theorem code?_eq_some_iff : code? word = some n ↔ PassesFor word n := by
  rw [code?, Option.filter_eq_some_iff, decimal?_eq_some_iff]
  constructor
  · rintro ⟨⟨-, sign, k, hsign, rfl⟩, hrange⟩
    simp only [Bool.and_eq_true, decide_eq_true_eq] at hrange
    exact ⟨sign, k, decimal n, hsign, ⟨hrange.1, hrange.2, rfl⟩, rfl⟩
  · rintro ⟨sign, k, code, hsign, ⟨hleast, hmost, rfl⟩, rfl⟩
    exact ⟨⟨by omega, sign, k, hsign, rfl⟩, by simp [hleast, hmost]⟩

theorem PassesFor.unbroken (h : PassesFor word n) : ' ' ∉ word := by
  obtain ⟨sign, k, code, hsign, ⟨-, -, rfl⟩, rfl⟩ := h
  intro hmem
  rcases List.mem_append.mp hmem with hmem | hmem
  · rcases hsign with rfl | rfl
    · cases hmem
    · exact absurd (List.mem_singleton.mp hmem) (by decide)
  rcases List.mem_append.mp hmem with hmem | hmem
  · exact absurd (List.eq_of_mem_replicate hmem) (by decide)
  · exact absurd (isDigit_of_mem_decimal hmem) (by decide)

/-- Exactly the lines of a version, a word that is taken for a code, and perhaps a reason are
read. -/
theorem parse?_eq_some_iff : parse? line = some s ↔ ∃ version word reason,
    Consists line version word reason ∧ PassesFor word s.code ∧
      s.reason = trim (reason.getD []) := by
  constructor
  · intro h
    rw [parse?] at h
    cases hline : cut? ' ' line with
    | none => simp [hline] at h
    | some p =>
      obtain ⟨version, rest⟩ := p
      obtain ⟨hversion, rfl⟩ := cut?_eq_some_iff.mp hline
      rw [hline] at h
      dsimp only at h
      split at h
      · cases h
      · next hbegins =>
        have hbegins : "HTTP/1.".toList <+: version := by simpa using hbegins
        obtain ⟨n, hcode, rfl⟩ := Option.map_eq_some_iff.mp h
        have hword := code?_eq_some_iff.mp hcode
        cases hrest : cut? ' ' rest with
        | none =>
          rw [hrest] at hword
          exact ⟨version, rest, none, ⟨hbegins, hversion, by simp⟩, hword, rfl⟩
        | some q =>
          obtain ⟨word, reason⟩ := q
          obtain ⟨-, rfl⟩ := cut?_eq_some_iff.mp hrest
          rw [hrest] at hword
          exact ⟨version, word, some reason, ⟨hbegins, hversion, by simp⟩, hword, rfl⟩
  · obtain ⟨n, said⟩ := s
    rintro ⟨version, word, reason, ⟨hbegins, hversion, rfl⟩, hword, rfl⟩
    have hcode := code?_eq_some_iff.mpr hword
    have hbegins : "HTTP/1.".toList.isPrefixOf version = true := by simpa using hbegins
    rw [parse?, cut?_append hversion]
    dsimp only
    rw [hbegins]
    cases reason with
    | none => simp [cut?_of_not_mem hword.unbroken, hcode]
    | some reason => simp [cut?_append hword.unbroken, hcode]

/-- The text of a status has the code in three digits, and behind a blank its reason or, without
one, the standard reason of the code if it has one. -/
theorem toList_text (s : Status) : s.text.toList = decimal s.code ++
    if s.reason ≠ [] then ' ' :: s.reason
    else ((standardReason? s.code).map fun r => ' ' :: r.toList).getD [] := by
  unfold text statusText
  by_cases hreason : s.reason = []
  · cases hstandard : standardReason? s.code with
    | none => simp [hreason]
    | some r => simp [hreason]
  · simp [hreason]

end Status

open HeadReader

variable {answer : Bytes} {s : Status}

/-- A proxy whose first line says no status is not understood. -/
theorem verdict_of_unsaid (h10 : 10 ∈ answer.take headLimit) (hs : saidStatus? answer = none) :
    Exchange.verdict answer = .failed (.io (badStatusLine (lineText (firstLine answer)))) := by
  have hread : readHead answer = .error _ := (told_feed answer).of_invalid h10 hs
  rw [Exchange.verdict_eq, hread]

/-- A head that ends within the limit leads to what its first line says. -/
theorem verdict_of_said {head rest : Bytes} (hsplit : answer = head ++ rest)
    (hc : ClosesFirst head) (hlen : head.length ≤ headLimit) (hs : saidStatus? answer = some s) :
    Exchange.verdict answer = Exchange.conclude s rest := by
  have hbegins : head <+: answer := hsplit ▸ List.prefix_append head rest
  have h10 : 10 ∈ answer.take headLimit := by
    rw [hsplit, List.take_append, List.take_of_length_le hlen]
    exact List.mem_append_left _ hc.1.mem
  obtain ⟨head', rest', hsplit', hc', -, hread⟩ :=
    (told_feed answer).of_closed h10 hs hbegins hc.1 hlen
  have hsame : head = head' := hc.eq hc' hbegins (hsplit' ▸ List.prefix_append head' rest')
  have hrest : rest = rest' := by
    rw [hsplit, hsame] at hsplit'
    exact List.append_cancel_left hsplit'
  have hread : readHead answer = .ok (s, rest') := hread
  rw [Exchange.verdict_eq, hread, hrest]

/-- What is made of a first line. It is read exactly if it has a version of HTTP/1, a word that is
taken for a code and perhaps a reason, each behind one blank. The code is the number of the three
digits at the end of the word, and of the words of three characters just those from 100 to 999 are
taken. The text of the status has the three digits, and behind a blank the reason without white
space around it, or without one the standard reason if there is one. If the line is not read, the
proxy is not understood; else, once the head is over, the code 200 grants the tunnel, and any other
refuses it with that text. -/
theorem Status.line_told (line : List Char) :
    (∀ s, parse? line = some s ↔ ∃ version word reason, Consists line version word reason ∧
      PassesFor word s.code ∧ s.reason = trim (reason.getD [])) ∧
    (∀ word n, IsCode word n ↔ PassesFor word n ∧ word.length = 3) ∧
    (∀ s, parse? line = some s → ∃ digits, IsCode digits s.code ∧ s.text.toList = digits ++
      if s.reason ≠ [] then ' ' :: s.reason
      else ((standardReason? s.code).map fun r => ' ' :: r.toList).getD []) ∧
    ∀ answer, lineText (firstLine answer) = line →
      (10 ∈ answer.take headLimit → parse? line = none →
        Exchange.verdict answer = .failed (.io (badStatusLine line))) ∧
      ∀ s head rest, parse? line = some s → answer = head ++ rest → ClosesFirst head →
        head.length ≤ headLimit → Exchange.verdict answer =
          if s.code = 200 then .accepted s rest else .failed (.rejected s.text) := by
  refine ⟨fun s => parse?_eq_some_iff, fun word n => isCode_iff, fun s hs => ?_,
    fun answer hline => ⟨fun h10 hnone => ?_, fun s head rest hs hsplit hc hlen => ?_⟩⟩
  · obtain ⟨version, word, reason, -, ⟨sign, k, digits, -, hdigits, -⟩, -⟩ :=
      parse?_eq_some_iff.mp hs
    exact ⟨digits, hdigits, hdigits.digits ▸ s.toList_text⟩
  · rw [verdict_of_unsaid h10 (by rw [saidStatus?, hline, hnone]), hline]
  · rw [verdict_of_said hsplit hc hlen (by rw [saidStatus?, hline, hs])]
    rfl

/-- A first line and an empty one are a head. -/
theorem closesFirst_line {line : Bytes} (hl : 10 ∉ line) : ClosesFirst (line ++ [10, 13, 10]) := by
  refine ⟨⟨line, [13], by simp, by decide, by decide⟩, fun q hq hc => ?_⟩
  have hsplit : line ++ [10, 13, 10] = line ++ [10] ++ [13] ++ [10] := by simp
  rw [hsplit] at hq ⊢
  rcases List.prefix_concat_iff.mp hq with rfl | hq
  · rfl
  rcases List.prefix_concat_iff.mp hq with rfl | hq
  · exact absurd hc (not_closes_concat (by decide))
  rcases List.prefix_concat_iff.mp hq with rfl | hq
  · exact absurd hc (not_closes_first hl)
  · exact absurd (hq.subset hc.mem) hl

/-- The bytes of `HTTP/1.1 +0407  No  `, with a carriage return behind them. -/
def paddedLine : Bytes :=
  [72, 84, 84, 80, 47, 49, 46, 49, 32, 43, 48, 52, 48, 55, 32, 32, 78, 111, 32, 32, 13]

theorem Status.line_told_padded : lineText paddedLine = "HTTP/1.1 +0407  No  ".toList ∧
    Status.parse? (lineText paddedLine) = some ⟨407, ['N', 'o']⟩ ∧
    Exchange.verdict (paddedLine ++ [10, 13, 10]) = .failed (.rejected "407 No") := by
  have hline : lineText (firstLine (paddedLine ++ [10, 13, 10])) = lineText paddedLine := by decide
  have hread : Status.parse? (lineText paddedLine) = some ⟨407, ['N', 'o']⟩ := by decide
  have htold := ((Status.line_told (lineText paddedLine)).2.2.2 _ hline).2 _ _ [] hread
    (List.append_nil _).symm (closesFirst_line (by decide)) (by decide)
  exact ⟨by decide, hread, htold.trans (by decide)⟩

/-- Not only codes of three digits are read: with a plus sign before it, 200 grants a tunnel. -/
theorem Status.read_signed : ¬ ∀ line s, Status.parse? line = some s ↔ ∃ version word reason,
    Consists line version word reason ∧ IsCode word s.code ∧ s.reason = trim (reason.getD []) := by
  intro hall
  have hread : Status.parse? "HTTP/1.1 +200 OK".toList = some ⟨200, ['O', 'K']⟩ := by decide
  obtain ⟨version, word, reason, ⟨-, hversion, hjoined⟩, ⟨-, -, rfl⟩, -⟩ := (hall _ _).mp hread
  have hcut : cut? ' ' "HTTP/1.1 +200 OK".toList =
      some ("HTTP/1.1".toList, "+200 OK".toList) := by decide
  rw [hjoined, cut?_append hversion] at hcut
  have hrest : decimal 200 ++ _ = "+200 OK".toList := (Prod.mk.inj (Option.some.inj hcut)).2
  have hdigits : decimal 200 = ['2', '0', '0'] := by decide
  rw [hdigits] at hrest
  have hfirst : '2' = '+' := (List.cons.inj hrest).1
  exact absurd hfirst (by decide)

end TunnelDial
