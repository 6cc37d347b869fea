import TunnelDial.Dial.Options
import TunnelDial.Proofs.Text.Bytes

/-! Header fields that can be sent: names are tokens and values hold no control bytes. Whatever is
made of such fields has it too, the authorization that a dialer adds among it. -/
namespace TunnelDial

open Text

/-- The name is a token. -/
def HeaderName.IsToken (n : HeaderName) : Prop := n.chars ≠ [] ∧ ∀ c ∈ n.chars, isToken c = true

/-- The name is a token and every value can be sent. -/
def HeaderBucket.Valid (b : HeaderBucket) : Prop :=
  b.name.IsToken ∧ ∀ v ∈ b.values, ∀ x ∈ v, isValueByte x = true

def Headers.Valid (h : Headers) : Prop := ∀ b ∈ h.buckets, b.Valid

namespace HeaderName

theorem toNat_lt_of_isToken {c : Char} (hc : isToken c = true) : c.toNat < 128 := by
  rw [isToken, Bool.or_eq_true] at hc
  rcases hc with hc | hc
  · -- a capital, a small letter or a digit
    change (decide ('A'.val ≤ c.val ∧ _) || _ && _ || _ && _) = true at hc
    simp only [Bool.or_eq_true, Bool.and_eq_true, decide_eq_true_eq, ge_iff_le,
      UInt32.le_iff_toNat_le] at hc
    have hnat : c.val.toNat = c.toNat := rfl
    have hbounds : 'Z'.val.toNat < 128 ∧ 'z'.val.toNat < 128 ∧ '9'.val.toNat < 128 := by decide
    omega
  · have hsmall := List.all_eq_true (p := fun k : Char => decide (k.toNat < 128)).mp rfl c
      (List.contains_iff_mem.mp hc)
    exact of_decide_eq_true hsmall

/-- What maps the tokens of ASCII to tokens maps all of them to tokens. -/
theorem isToken_map {f : Char → Char}
    (hf : ∀ n < 128, isToken (Char.ofNat n) = true → isToken (f (Char.ofNat n)) = true) {c : Char}
    (hc : isToken c = true) : isToken (f c) = true := by
  have h := hf c.toNat (toNat_lt_of_isToken hc)
  rw [Char.ofNat_toNat] at h
  exact h hc

theorem isToken_toSmall {c : Char} (hc : isToken c = true) : isToken (toSmall c) = true :=
  isToken_map (by decide) hc

theorem isToken_toCapital {c : Char} (hc : isToken c = true) : isToken (toCapital c) = true :=
  isToken_map (by decide) hc

theorem isToken_of_ofBytes? {bs : Bytes} {n : HeaderName} (h : ofBytes? bs = some n) :
    n.IsToken := by
  unfold ofBytes? at h
  dsimp only at h
  split at h
  · cases h
  · rename_i hb
    simp only [Bool.or_eq_true, not_or, Bool.not_eq_true, Bool.not_eq_true',
      Bool.not_eq_false, List.isEmpty_iff, List.all_eq_true] at hb
    obtain ⟨⟨hne, _⟩, hall⟩ := hb
    cases h
    refine ⟨by simpa using hne, fun c hc => ?_⟩
    obtain ⟨c', hc', rfl⟩ := List.mem_map.mp hc
    exact isToken_toSmall (hall c' hc')

/-- A name with capital letters is made of token characters still. -/
theorem isToken_of_mem_titleFrom {up : Bool} {cs : List Char}
    (hcs : ∀ c ∈ cs, isToken c = true) : ∀ c ∈ titleFrom up cs, isToken c = true := by
  induction cs generalizing up with
  | nil => simp [titleFrom]
  | cons c cs ih =>
    obtain ⟨hc, hcs⟩ := List.forall_mem_cons.mp hcs
    refine List.forall_mem_cons.mpr ⟨?_, ih hcs⟩
    cases up with
    | true => exact isToken_toCapital hc
    | false => exact hc

end HeaderName

namespace Headers

variable {h base upper : Headers} {n : HeaderName} {v : Bytes}

theorem Valid.of_mem_toList (hv : h.Valid) {f : HeaderName × Bytes} (hf : f ∈ h.toList) :
    f.1.IsToken ∧ ∀ x ∈ f.2, isValueByte x = true := by
  obtain ⟨b, hb, hf⟩ := List.mem_flatMap.mp hf
  obtain ⟨v, hv', rfl⟩ := List.mem_map.mp hf
  exact ⟨(hv b hb).1, (hv b hb).2 v hv'⟩

theorem valid_empty : empty.Valid := by simp [Valid, empty]

theorem Valid.append (hv : h.Valid) (hn : n.IsToken) (hb : ∀ x ∈ v, isValueByte x = true) :
    (h.append n v).Valid := by
  have happend (bs : List HeaderBucket) (hbs : ∀ b ∈ bs, b.Valid) :
      ∀ b ∈ appendTo n v bs, b.Valid := by
    induction bs with
    | nil => simpa [appendTo, HeaderBucket.Valid, HeaderBucket.values] using ⟨hn, hb⟩
    | cons b bs ih =>
      obtain ⟨hb', hbs⟩ := List.forall_mem_cons.mp hbs
      rw [appendTo]
      split
      · refine List.forall_mem_cons.mpr ⟨⟨hb'.1, fun v' hv' => ?_⟩, hbs⟩
        have hmem : v' ∈ b.values ∨ v' = v := by
          simpa [HeaderBucket.values, or_assoc] using hv'
        rcases hmem with hmem | rfl
        · exact hb'.2 v' hmem
        · exact hb
      · exact List.forall_mem_cons.mpr ⟨hb', ih hbs⟩
  exact happend h.buckets hv

/-- What holds without fields, and is kept where one that can be sent is added, holds of all fields
that a caller gives. -/
theorem ofPairs_rec {P : Headers → Prop} (hempty : P empty)
    (happend : ∀ (h : Headers) n v, P h → (∃ bs, HeaderName.ofBytes? bs = some n) →
      (∀ x ∈ v, isValueByte x = true) → P (h.append n v))
    {fields : List (Bytes × Bytes)} (he : ofPairs fields = .ok h) : P h := by
  have hone {h h' : Headers} {name value : Bytes} (hh : P h)
      (he : h.append? name value = .ok h') : P h' := by
    unfold append? at he
    split at he
    · cases he
    · rename_i n hn
      split at he
      · rename_i hall
        cases he
        exact happend h n value hh ⟨name, hn⟩ (List.all_eq_true.mp hall)
      · cases he
  have hfold (fields : List (Bytes × Bytes)) {h₀ : Headers} (hh : P h₀)
      (he : fields.foldlM (fun h f => h.append? f.1 f.2) h₀ = .ok h) : P h := by
    induction fields generalizing h₀ with
    | nil =>
      cases he
      exact hh
    | cons f fs ih =>
      rw [List.foldlM_cons] at he
      cases hf : h₀.append? f.1 f.2 with
      | error fault =>
        rw [hf] at he
        cases he
      | ok h₁ =>
        rw [hf] at he
        exact ih (hone hh hf) he
  exact hfold fields hempty he

/-- Fields that a caller gives are valid, or refused. -/
theorem valid_ofPairs {fields : List (Bytes × Bytes)} (he : ofPairs fields = .ok h) : h.Valid := by
  refine ofPairs_rec valid_empty ?_ he
  rintro h n v hv ⟨bs, hn⟩ hb
  exact hv.append (HeaderName.isToken_of_ofBytes? hn) hb

theorem Valid.set (hv : h.Valid) (hn : n.IsToken) (hb : ∀ x ∈ v, isValueByte x = true) :
    (h.set n v).Valid := by
  have hnew : HeaderBucket.Valid ⟨n, v, []⟩ := ⟨hn, by simpa [HeaderBucket.values] using hb⟩
  have hset (bs : List HeaderBucket) (hbs : ∀ b ∈ bs, b.Valid) : ∀ b ∈ setIn n v bs, b.Valid := by
    induction bs with
    | nil => simpa [setIn] using hnew
    | cons b bs ih =>
      obtain ⟨hb', hbs⟩ := List.forall_mem_cons.mp hbs
      rw [setIn]
      split
      · exact List.forall_mem_cons.mpr ⟨hnew, hbs⟩
      · exact List.forall_mem_cons.mpr ⟨hb', ih hbs⟩
  exact hset h.buckets hv

theorem mem_of_mem_swapRemove {α : Type} {p : α → Bool} {xs : List α} {x : α}
    (hx : x ∈ swapRemove p xs) : x ∈ xs := by
  induction xs with
  | nil => cases hx
  | cons y ys ih =>
    rw [swapRemove] at hx
    split at hx
    · split at hx
      · rename_i l hl
        rcases List.mem_cons.mp hx with rfl | hx
        · exact List.mem_cons_of_mem _ (List.mem_of_getLast? hl)
        · exact List.mem_cons_of_mem _ (List.dropLast_subset _ hx)
      · cases hx
    · rcases List.mem_cons.mp hx with rfl | hx
      · exact List.mem_cons_self
      · exact List.mem_cons_of_mem _ (ih hx)

theorem Valid.overlay (hb : base.Valid) (hu : upper.Valid) : (base.overlay upper).Valid := by
  have hbucket (h : Headers) (b : HeaderBucket) (hv : h.Valid) (hb : b.Valid) :
      (h.overlayBucket b).Valid := by
    unfold overlayBucket
    have herase : (h.erase b.name).Valid := fun b' hb' => hv b' (mem_of_mem_swapRemove hb')
    refine List.foldlRecOn b.values _ herase fun h' hv' v hmem => ?_
    exact Valid.append hv' hb.1 (hb.2 v hmem)
  unfold Headers.overlay
  exact List.foldlRecOn upper.buckets _ hb fun h hv b hmem => hbucket h b hv (hu b hmem)

end Headers

/-- The character is one of ASCII that is no control. -/
def IsPrintable (c : Char) : Prop := 32 ≤ c.toNat ∧ c.toNat < 127

instance : DecidablePred IsPrintable := fun _ => inferInstanceAs (Decidable (_ ∧ _))

theorem isTextByte_of_printable {cs : List Char} (hcs : ∀ c ∈ cs, IsPrintable c) :
    ∀ x ∈ Bytes.ofChars cs, isTextByte x = true := by
  intro x hx
  rw [Bytes.ofChars_eq] at hx
  obtain ⟨c, hc, hx⟩ := List.mem_flatMap.mp hx
  obtain ⟨hge, hlt⟩ := hcs c hc
  rw [Bytes.utf8EncodeChar_of_lt (by omega), List.mem_singleton] at hx
  subst hx
  have byte : ∀ n < 127, 32 ≤ n → isTextByte (UInt8.ofNat n) = true := by decide
  exact byte c.toNat hlt hge

theorem isValueByte_of_isTextByte {x : UInt8} (hx : isTextByte x = true) :
    isValueByte x = true := by
  have hbyte : x < 127 → x ≠ 127 := by
    rintro hlt rfl
    exact absurd hlt (by decide)
  simp only [isTextByte, isValueByte, Bool.or_eq_true, Bool.and_eq_true, decide_eq_true_eq,
    bne_iff_ne, beq_iff_eq] at hx ⊢
  exact hx.imp_left fun h => ⟨h.1, hbyte h.2⟩

namespace Base64

theorem printable_symbol (n : Nat) : IsPrintable (symbol n) := by
  have small : ∀ n < 64, IsPrintable (symbol n) := by decide
  by_cases hn : n < 64
  · exact small n hn
  · have hs : symbol n = '/' := by
      unfold symbol
      rw [if_neg (by omega), if_neg (by omega), if_neg (by omega), if_neg (by omega)]
    rw [hs]
    decide

theorem printable_encode (bs : Bytes) : ∀ c ∈ encode bs, IsPrintable c := by
  have pad : IsPrintable '=' := by decide
  induction bs using encode.induct with
  | case1 a b c rest ih =>
    rw [encode]
    simpa [printable_symbol] using ih
  | case2 a b => simp [encode, printable_symbol, pad]
  | case3 a => simp [encode, printable_symbol, pad]
  | case4 => simp [encode]

end Base64

/-- The credentials make the text of a value, whatever they are. -/
theorem Credentials.isTextByte_basic (c : Credentials) :
    ∀ x ∈ Bytes.ofText c.basic, isTextByte x = true := by
  have hword : ∀ c ∈ "Basic ".toList, IsPrintable c := by simp [IsPrintable]
  have htext : Bytes.ofText c.basic = Bytes.ofChars ("Basic ".toList ++
      Base64.encode (Bytes.ofText (c.username ++ ":" ++ c.password))) := by
    simp [basic, Bytes.ofText_eq, Bytes.ofChars_eq]
  rw [htext]
  exact isTextByte_of_printable fun c hc => (List.mem_append.mp hc).elim (hword c)
    (Base64.printable_encode _ c)

/-- The credentials make a value that can be sent, whatever they are. -/
theorem Credentials.isValueByte_basic (c : Credentials) :
    ∀ x ∈ Bytes.ofText c.basic, isValueByte x = true := fun x hx =>
  isValueByte_of_isTextByte (c.isTextByte_basic x hx)

/-- The check of the authorization never fails. -/
theorem Proxy.connectHeaders_eq (p : Proxy) (extra : Headers) :
    p.connectHeaders extra = .ok (p.requestHeaders extra) := by
  rw [connectHeaders, requestHeaders]
  cases p.credentials with
  | none => rfl
  | some c => exact if_pos (List.all_eq_true.mpr c.isTextByte_basic)

theorem Proxy.valid_requestHeaders (p : Proxy) {extra : Headers} (he : extra.Valid) :
    (p.requestHeaders extra).Valid := by
  unfold requestHeaders
  split
  · rename_i c _
    have hname : HeaderName.proxyAuthorization.IsToken := ⟨by decide, List.all_eq_true.mp rfl⟩
    exact he.set hname c.isValueByte_basic
  · exact he

/-- A dialer has the fields of its options, with the authorization of its proxy. -/
theorem Dialer.headers_ofConnect {p : Proxy} {o : DialerOptions} {dialer : Dialer}
    (hd : ofConnect p o = .ok dialer) : dialer.headers = p.requestHeaders o.headers := by
  unfold ofConnect at hd
  cases hc : o.direct.check with
  | error f =>
    rw [hc] at hd
    cases hd
  | ok u =>
    rw [hc] at hd
    by_cases hs : p.scheme.isSocks = true
    · simp only [hs] at hd
      cases hd
    · simp only [hs] at hd
      cases hd
      rfl

theorem Dialer.valid_headers {p : Proxy} {o : DialerOptions} {dialer : Dialer}
    (hd : ofConnect p o = .ok dialer) (ho : o.headers.Valid) : dialer.headers.Valid := by
  rw [headers_ofConnect hd]
  exact p.valid_requestHeaders ho

theorem CallOptions.valid_layered {o : CallOptions} {base : Headers} (hb : base.Valid)
    (ho : ∀ h, o.headers = some h → h.Valid) : (o.layered base).Valid := by
  unfold layered
  split
  · rename_i h hh
    exact hb.overlay (ho h hh)
  · exact hb

end TunnelDial
