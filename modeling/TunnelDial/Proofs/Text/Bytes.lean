import TunnelDial.Text.Bytes

/-! The bytes of a text, character by character. The byte of an ASCII character is in them
exactly if the text has that character. -/
namespace TunnelDial
namespace Bytes

theorem toList_loop (bs : ByteArray) (i : Nat) (r : List UInt8) :
    ByteArray.toList.loop bs i r = r.reverse ++ bs.data.toList.drop i := by
  induction i, r using ByteArray.toList.loop.induct bs with
  | case1 i r hi ih =>
    have hget : bs.data.toList.drop i = bs.get! i :: bs.data.toList.drop (i + 1) := by
      have hlt : i < bs.data.toList.length := hi
      rw [List.drop_eq_getElem_cons hlt]
      congr 1
      exact (getElem!_pos bs.data i hi).symm
    rw [ByteArray.toList.loop.eq_def, if_pos hi, ih, hget]
    simp
  | case2 i r hi =>
    have hle : bs.data.toList.length ≤ i := Nat.le_of_not_lt hi
    rw [ByteArray.toList.loop.eq_def, if_neg hi, List.drop_eq_nil_of_le hle, List.append_nil]

theorem ofChars_eq (cs : List Char) : ofChars cs = cs.flatMap String.utf8EncodeChar := by
  rw [ofChars, ofText, String.toUTF8, String.toByteArray_ofList, ByteArray.toList, toList_loop]
  simp [List.utf8Encode]

theorem ofText_eq (s : String) : ofText s = s.toList.flatMap String.utf8EncodeChar := by
  rw [← ofChars_eq, ofChars, String.ofList_toList]

@[simp] theorem ofChars_nil : ofChars [] = [] := by simp [ofChars_eq]

@[simp] theorem ofChars_append (cs ds : List Char) :
    ofChars (cs ++ ds) = ofChars cs ++ ofChars ds := by
  simp [ofChars_eq]

theorem ofChars_cons (c : Char) (cs : List Char) :
    ofChars (c :: cs) = ofChars [c] ++ ofChars cs := by
  simp [ofChars_eq]

@[simp] theorem ofText_append (s t : String) : ofText (s ++ t) = ofText s ++ ofText t := by
  simp [ofText_eq]

theorem utf8EncodeChar_of_lt {c : Char} (hc : c.toNat < 128) :
    String.utf8EncodeChar c = [UInt8.ofNat c.toNat] := by
  rw [String.utf8EncodeChar.eq_1]
  exact if_pos (Nat.le_of_lt_succ hc)

/-- The byte of an ASCII character stands for that character only. -/
theorem mem_utf8EncodeChar (k : Char) (hk : k.toNat < 128) (c : Char) :
    UInt8.ofNat k.toNat ∈ String.utf8EncodeChar c ↔ k = c := by
  have hbyte : (UInt8.ofNat k.toNat).toNat = k.toNat :=
    UInt8.toNat_ofNat_of_lt' (by omega : k.toNat < 256)
  by_cases hc : c.toNat < 128
  · have hbyte' : (UInt8.ofNat c.toNat).toNat = c.toNat :=
      UInt8.toNat_ofNat_of_lt' (by omega : c.toNat < 256)
    rw [utf8EncodeChar_of_lt hc, List.mem_singleton, ← UInt8.toNat_inj, hbyte, hbyte',
      Char.toNat_inj]
  · have hne : k ≠ c := by
      rintro rfl
      exact hc hk
    have high {n : Nat} (h1 : 128 ≤ n) (h2 : n < 256) : UInt8.ofNat k.toNat ≠ UInt8.ofNat n := by
      intro h
      rw [← UInt8.toNat_inj, hbyte, UInt8.toNat_ofNat_of_lt' h2] at h
      omega
    have hnat : c.val.toNat = c.toNat := rfl
    -- all bytes of a longer character are 128 or more
    refine iff_of_false ?_ hne
    rw [String.utf8EncodeChar.eq_1, hnat, if_neg (by omega : ¬c.toNat ≤ 127)]
    repeat' split
    all_goals
      simp only [List.mem_cons, List.not_mem_nil, or_false, not_or]
      and_intros <;> exact high (by omega) (by omega)

theorem mem_ofText (k : Char) (hk : k.toNat < 128) (s : String) :
    UInt8.ofNat k.toNat ∈ ofText s ↔ k ∈ s.toList := by
  simp [ofText_eq, mem_utf8EncodeChar k hk]

end Bytes
end TunnelDial
