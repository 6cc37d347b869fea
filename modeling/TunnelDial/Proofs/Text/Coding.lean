import Mathlib.Tactic.IntervalCases
import TunnelDial.Proofs.Text.Bytes
import TunnelDial.Text.Base64
import TunnelDial.Text.Percent

/-! What was written is read back: the UTF-8 form of a text, the percent sequences of its bytes and
the base64 form of bytes. -/
namespace TunnelDial

namespace Utf8

/-- A first byte asks for the bytes that were written behind it. -/
theorem lead?_two {k : Nat} (hlow : 2 ≤ k) (hhigh : k < 32) :
    lead? (UInt8.ofNat (k + 192)) = some ⟨1, k, 0x80, 0xBF⟩ := by
  interval_cases k <;> rfl

theorem lead?_three {k : Nat} (hk : k < 16) :
    lead? (UInt8.ofNat (k + 224)) =
      some ⟨2, k, if k = 0 then 0xA0 else 0x80, if k = 13 then 0x9F else 0xBF⟩ := by
  interval_cases k <;> rfl

theorem lead?_four {k : Nat} (hk : k < 5) :
    lead? (UInt8.ofNat (k + 240)) =
      some ⟨3, k, if k = 0 then 0x90 else 0x80, if k = 4 then 0x8F else 0xBF⟩ := by
  interval_cases k <;> rfl

/-- A byte behind the first carries six bits. -/
theorem toNat_tail {m : Nat} (hm : m < 64) : (UInt8.ofNat (m + 128)).toNat = m + 128 :=
  UInt8.toNat_ofNat_of_lt' (by omega : m + 128 < 256)

theorem continueChar_cons {n m : Nat} (hm : m < 64) (v seen : Nat) (rest : Bytes) :
    continueChar (n + 1) v seen (UInt8.ofNat (m + 128) :: rest) =
      continueChar n (v * 64 + m) (seen + 1) rest := by
  have hrange : 0x80 ≤ UInt8.ofNat (m + 128) ∧ UInt8.ofNat (m + 128) ≤ 0xBF := by
    simp only [UInt8.le_iff_toNat_le, toNat_tail hm, UInt8.reduceToNat]
    omega
  rw [continueChar, if_pos hrange, toNat_tail hm]
  simp

theorem nextChar_cons {b : UInt8} {l : Lead} {m : Nat} (hb : 128 ≤ b.toNat) (hl : lead? b = some l)
    (hm : m < 64) (hlow : l.low.toNat ≤ m + 128) (hhigh : m + 128 ≤ l.high.toNat) (rest : Bytes) :
    nextChar b (UInt8.ofNat (m + 128) :: rest) =
      continueChar (l.tail - 1) (l.payload * 64 + m) 2 rest := by
  have hlong : ¬b < 0x80 := by
    simp only [UInt8.lt_iff_toNat_lt, UInt8.reduceToNat]
    omega
  have hrange : l.low ≤ UInt8.ofNat (m + 128) ∧ UInt8.ofNat (m + 128) ≤ l.high := by
    simp only [UInt8.le_iff_toNat_le, toNat_tail hm]
    exact ⟨hlow, hhigh⟩
  rw [nextChar, if_neg hlong, hl]
  dsimp only
  rw [if_pos hrange, toNat_tail hm]
  simp

theorem nextChar_two {k m : Nat} (hlow : 2 ≤ k) (hhigh : k < 32) (hm : m < 64) (rest : Bytes) :
    nextChar (UInt8.ofNat (k + 192)) (UInt8.ofNat (m + 128) :: rest) =
      .char (Char.ofNat (k * 64 + m)) rest := by
  have hb : (UInt8.ofNat (k + 192)).toNat = k + 192 :=
    UInt8.toNat_ofNat_of_lt' (by omega : k + 192 < 256)
  exact nextChar_cons (by omega) (lead?_two hlow hhigh) hm (Nat.le_add_left ..)
    (by simp; omega) rest

/-- The first of two more bytes tells long forms and surrogates apart. -/
theorem nextChar_three {k m₁ m₂ : Nat} (hk : k < 16) (hm₁ : m₁ < 64) (hm₂ : m₂ < 64)
    (hlow : k = 0 → 32 ≤ m₁) (hhigh : k = 13 → m₁ < 32) (rest : Bytes) :
    nextChar (UInt8.ofNat (k + 224)) (UInt8.ofNat (m₁ + 128) :: UInt8.ofNat (m₂ + 128) :: rest) =
      .char (Char.ofNat ((k * 64 + m₁) * 64 + m₂)) rest := by
  have hb : (UInt8.ofNat (k + 224)).toNat = k + 224 :=
    UInt8.toNat_ofNat_of_lt' (by omega : k + 224 < 256)
  rw [nextChar_cons (by omega) (lead?_three hk) hm₁ ?_ ?_]
  · exact continueChar_cons hm₂ ..
  · dsimp only
    split
    · simp
      omega
    · simp
  · dsimp only
    split <;> (simp; omega)

theorem nextChar_four {k m₁ m₂ m₃ : Nat} (hk : k < 5) (hm₁ : m₁ < 64) (hm₂ : m₂ < 64)
    (hm₃ : m₃ < 64) (hlow : k = 0 → 16 ≤ m₁) (hhigh : k = 4 → m₁ < 16) (rest : Bytes) :
    nextChar (UInt8.ofNat (k + 240))
      (UInt8.ofNat (m₁ + 128) :: UInt8.ofNat (m₂ + 128) :: UInt8.ofNat (m₃ + 128) :: rest) =
      .char (Char.ofNat (((k * 64 + m₁) * 64 + m₂) * 64 + m₃)) rest := by
  have hb : (UInt8.ofNat (k + 240)).toNat = k + 240 :=
    UInt8.toNat_ofNat_of_lt' (by omega : k + 240 < 256)
  rw [nextChar_cons (by omega) (lead?_four hk) hm₁ ?_ ?_]
  · exact (continueChar_cons hm₂ ..).trans (continueChar_cons hm₃ ..)
  · dsimp only
    split
    · simp
      omega
    · simp
  · dsimp only
    split <;> (simp; omega)

/-- A character is read back from its bytes. -/
theorem nextChar_encode (c : Char) (rest : Bytes) :
    ∃ b bs, String.utf8EncodeChar c = b :: bs ∧ nextChar b (bs ++ rest) = .char c rest := by
  have hchar : Char.ofNat c.val.toNat = c := Char.ofNat_toNat c
  have hvalid : c.val.toNat < 0xD800 ∨ 0xDFFF < c.val.toNat ∧ c.val.toNat < 0x110000 := c.valid
  generalize hn : c.val.toNat = n at hchar hvalid
  rw [String.utf8EncodeChar.eq_1, hn]
  split
  · have hb : UInt8.ofNat n < 0x80 := by
      rw [UInt8.lt_iff_toNat_lt, UInt8.toNat_ofNat_of_lt' (by omega : n < 256)]
      exact Nat.lt_succ_of_le ‹_›
    refine ⟨_, _, rfl, ?_⟩
    rw [nextChar, if_pos hb, UInt8.toNat_ofNat_of_lt' (by omega : n < 256), hchar]
    rfl
  split
  · have hk : n / 64 % 32 = n / 64 := by omega
    have hvalue : n / 64 * 64 + n % 64 = n := by omega
    refine ⟨_, _, rfl, (nextChar_two (by omega) (by omega) (by omega) rest).trans ?_⟩
    rw [hk, hvalue, hchar]
  split
  · have hk : n / 4096 % 16 = n / 4096 := by omega
    have hvalue : (n / 4096 * 64 + n / 64 % 64) * 64 + n % 64 = n := by omega
    refine ⟨_, _, rfl, (nextChar_three (by omega) (by omega) (by omega) (by omega) (by omega)
      rest).trans ?_⟩
    rw [hk, hvalue, hchar]
  · have hk : n / 262144 % 8 = n / 262144 := by omega
    have hvalue :
        ((n / 262144 * 64 + n / 4096 % 64) * 64 + n / 64 % 64) * 64 + n % 64 = n := by omega
    refine ⟨_, _, rfl, (nextChar_four (by omega) (by omega) (by omega) (by omega) (by omega)
      (by omega) rest).trans ?_⟩
    rw [hk, hvalue, hchar]

theorem decodeFrom_encode (cs : List Char) {fuel : Nat} (hfuel : cs.length ≤ fuel)
    (done : List Char) (index : Nat) :
    decodeFrom fuel done index (cs.flatMap String.utf8EncodeChar) = .ok (done.reverse ++ cs) := by
  induction cs generalizing fuel done index with
  | nil => cases fuel <;> simp [decodeFrom]
  | cons c cs ih =>
    obtain ⟨fuel, rfl⟩ := Nat.exists_eq_add_one_of_ne_zero (n := fuel) (by
      rintro rfl
      cases hfuel)
    obtain ⟨b, bs, hbytes, hnext⟩ := nextChar_encode c (cs.flatMap String.utf8EncodeChar)
    rw [List.flatMap_cons, hbytes, List.cons_append, decodeFrom, hnext]
    dsimp only
    rw [ih (Nat.le_of_succ_le_succ hfuel)]
    simp

/-- A text is read back from its bytes. -/
@[simp] theorem decode_ofChars (cs : List Char) : decode (Bytes.ofChars cs) = .ok cs := by
  have hlen : cs.length ≤ (cs.flatMap String.utf8EncodeChar).length := by
    induction cs with
    | nil => exact Nat.le_refl 0
    | cons c cs ih =>
      have hpos := List.length_pos_iff.mpr (String.utf8EncodeChar_ne_nil (c := c))
      rw [List.flatMap_cons, List.length_append, List.length_cons]
      omega
  rw [Bytes.ofChars_eq, decode, decodeFrom_encode cs hlen]
  rfl

end Utf8

namespace Percent

open Text

variable {escape : Char → Bool} {cs : List Char}

theorem decode_cons {b : UInt8} (hb : b ≠ 37) (bs : Bytes) : decode (b :: bs) = b :: decode bs := by
  rw [decode.eq_def]
  split
  · next heq =>
    exact absurd (List.cons.inj heq).1 hb
  · next heq =>
    obtain ⟨rfl, rfl⟩ := List.cons.inj heq
    rfl
  · next heq => cases heq

theorem pair?_capitalHexDigit (n : Nat) :
    pair? (UInt8.ofNat (capitalHexDigit (n / 16)).toNat) (UInt8.ofNat (capitalHexDigit n).toNat) =
      some (UInt8.ofNat (n / 16 % 16 * 16 + n % 16)) := by
  have digit : ∀ d < 16, digitValue? 16
      (Char.ofNat (UInt8.ofNat (capitalHexDigit d).toNat).toNat) = some d := by decide
  have hmod (n : Nat) : capitalHexDigit n = capitalHexDigit (n % 16) := by
    rw [capitalHexDigit, capitalHexDigit, Nat.mod_mod]
  have hlt (n : Nat) : n % 16 < 16 := Nat.mod_lt n (by decide)
  rw [pair?, hmod (n / 16), hmod n, digit _ (hlt _), digit _ (hlt _)]
  rfl

theorem capitalHexDigit_spec (n : Nat) :
    (capitalHexDigit n).toNat < 128 ∧ (capitalHexDigit n).isAlphanum = true := by
  have digit : ∀ d < 16,
      (capitalHexDigit d).toNat < 128 ∧ (capitalHexDigit d).isAlphanum = true := by
    decide
  have h := digit (n % 16) (Nat.mod_lt n (by decide))
  rwa [capitalHexDigit, Nat.mod_mod] at h

/-- The sequence of a byte is replaced by the byte. -/
theorem decode_sequence (b : UInt8) (bs : Bytes) :
    decode (Bytes.ofChars (sequence b) ++ bs) = b :: decode bs := by
  have hbytes : Bytes.ofChars (sequence b) = [37,
      UInt8.ofNat (capitalHexDigit (b.toNat / 16)).toNat,
      UInt8.ofNat (capitalHexDigit b.toNat).toNat] := by
    rw [Bytes.ofChars_eq, sequence, List.flatMap_cons, List.flatMap_cons, List.flatMap_cons,
      Bytes.utf8EncodeChar_of_lt (by decide), Bytes.utf8EncodeChar_of_lt (capitalHexDigit_spec _).1,
      Bytes.utf8EncodeChar_of_lt (capitalHexDigit_spec _).1]
    rfl
  have hb : b.toNat < 256 := b.toNat_lt
  have hvalue : b.toNat / 16 % 16 * 16 + b.toNat % 16 = b.toNat := by omega
  rw [hbytes, List.cons_append, List.cons_append, List.singleton_append, decode,
    pair?_capitalHexDigit, hvalue]
  simp

theorem decode_sequences (bs rest : Bytes) :
    decode (Bytes.ofChars (bs.flatMap sequence) ++ rest) = bs ++ decode rest := by
  induction bs with
  | nil => simp
  | cons b bs ih =>
    rw [List.flatMap_cons, Bytes.ofChars_append, List.append_assoc, decode_sequence, ih]
    rfl

theorem encode_cons (c : Char) (cs : List Char) :
    encode escape (c :: cs) =
      (if c.toNat < 128 && !escape c then [c] else (Bytes.ofChars [c]).flatMap sequence) ++
        encode escape cs := rfl

/-- The text is read back if its percent signs are escaped. -/
theorem decode_encode (hescape : escape '%' = true) (cs : List Char) :
    decode (Bytes.ofChars (encode escape cs)) = Bytes.ofChars cs := by
  induction cs with
  | nil => simp [encode, decode]
  | cons c cs ih =>
    rw [encode_cons, Bytes.ofChars_append, Bytes.ofChars_cons c cs]
    split
    · next hc =>
      obtain ⟨hlt, hplain⟩ : c.toNat < 128 ∧ escape c = false := by simpa using hc
      have hne : UInt8.ofNat c.toNat ≠ 37 := by
        intro h
        have hnat := congrArg UInt8.toNat h
        rw [UInt8.toNat_ofNat_of_lt' (by omega : c.toNat < 256)] at hnat
        have hpercent : c = '%' := Char.toNat_inj.mp hnat
        rw [hpercent, hescape] at hplain
        cases hplain
      rw [Bytes.ofChars_eq [c], List.flatMap_singleton, Bytes.utf8EncodeChar_of_lt hlt,
        List.singleton_append, decode_cons hne, ih]
      rfl
    · rw [decode_sequences, ih]

/-- Digits and signs of sequences, and characters without escape, stay in an encoded text. -/
theorem encode_of_plain (hcs : ∀ c ∈ cs, c.toNat < 128 ∧ escape c = false) :
    encode escape cs = cs := by
  induction cs with
  | nil => rfl
  | cons c cs ih =>
    obtain ⟨hc, hcs⟩ := List.forall_mem_cons.mp hcs
    rw [encode_cons, if_pos (by simpa using hc), ih hcs]
    rfl

theorem mem_encode {c : Char} (hc : c ∈ encode escape cs) :
    c.toNat < 128 ∧ (c ∈ cs ∧ escape c = false ∨ c.isAlphanum = true ∨ c = '%') := by
  obtain ⟨x, hmem, hc⟩ := List.mem_flatMap.mp hc
  split at hc
  · next hx =>
    obtain rfl := List.mem_singleton.mp hc
    obtain ⟨hlt, hplain⟩ : c.toNat < 128 ∧ escape c = false := by simpa using hx
    exact ⟨hlt, .inl ⟨hmem, hplain⟩⟩
  · obtain ⟨b, -, hc⟩ := List.mem_flatMap.mp hc
    rcases List.mem_cons.mp hc with rfl | hc
    · exact ⟨by decide, .inr (.inr rfl)⟩
    · rcases List.mem_cons.mp hc with rfl | hc
      · exact ⟨(capitalHexDigit_spec _).1, .inr (.inl (capitalHexDigit_spec _).2)⟩
      · obtain rfl := List.mem_singleton.mp hc
        exact ⟨(capitalHexDigit_spec _).1, .inr (.inl (capitalHexDigit_spec _).2)⟩

end Percent

namespace Base64

theorem value?_symbol {n : Nat} (hn : n < 64) : value? (symbol n) = some n := by
  have small : ∀ n < 64, value? (symbol n) = some n := by decide
  exact small n hn

theorem symbol_ne_pad {n : Nat} (hn : n < 64) : symbol n ≠ '=' := by
  have small : ∀ n < 64, symbol n ≠ '=' := by decide
  exact small n hn

theorem ofNat_of_eq {a : UInt8} {n : Nat} (h : n % 256 = a.toNat) : UInt8.ofNat n = a := by
  rw [← UInt8.toNat_inj, UInt8.toNat_ofNat']
  exact h

/-- Bytes are read back from their base64 form. -/
theorem decode?_encode (bs : Bytes) : decode? (encode bs) = some bs := by
  induction bs using encode.induct with
  | case1 a b c rest ih =>
    have ha := a.toNat_lt
    have hb := b.toNat_lt
    have hc := c.toNat_lt
    rw [encode, decode?.eq_4 _ _ _ _ _ (fun h => absurd h (symbol_ne_pad (by omega)))
      (fun h => absurd h (symbol_ne_pad (by omega))), value?_symbol (by omega),
      value?_symbol (by omega), value?_symbol (by omega), value?_symbol (by omega), ih]
    have h₁ := ofNat_of_eq (a := a) (n := a.toNat / 4 * 4 + (a.toNat % 4 * 16 + b.toNat / 16) / 16)
      (by omega)
    have h₂ := ofNat_of_eq (a := b)
      (n := (a.toNat % 4 * 16 + b.toNat / 16) % 16 * 16 + (b.toNat % 16 * 4 + c.toNat / 64) / 4)
      (by omega)
    have h₃ := ofNat_of_eq (a := c)
      (n := (b.toNat % 16 * 4 + c.toNat / 64) % 4 * 64 + c.toNat % 64) (by omega)
    simp only [Option.bind_eq_bind, Option.bind_some, Option.pure_def, h₁, h₂, h₃]
  | case2 a b =>
    have ha := a.toNat_lt
    have hb := b.toNat_lt
    rw [encode, decode?.eq_3 _ _ _ (symbol_ne_pad (by omega)), value?_symbol (by omega),
      value?_symbol (by omega), value?_symbol (by omega)]
    have h₁ := ofNat_of_eq (a := a) (n := a.toNat / 4 * 4 + (a.toNat % 4 * 16 + b.toNat / 16) / 16)
      (by omega)
    have h₂ := ofNat_of_eq (a := b)
      (n := (a.toNat % 4 * 16 + b.toNat / 16) % 16 * 16 + b.toNat % 16 * 4 / 4) (by omega)
    simp only [Option.bind_eq_bind, Option.bind_some, Option.pure_def, h₁, h₂]
  | case3 a =>
    have ha := a.toNat_lt
    rw [encode, decode?.eq_2, value?_symbol (by omega), value?_symbol (by omega)]
    have h₁ := ofNat_of_eq (a := a) (n := a.toNat / 4 * 4 + a.toNat % 4 * 16 / 16) (by omega)
    simp only [Option.bind_eq_bind, Option.bind_some, Option.pure_def, h₁]
  | case4 => rfl

end Base64

end TunnelDial
