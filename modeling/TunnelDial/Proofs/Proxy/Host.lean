import TunnelDial.Proofs.Address.ReadBack
import TunnelDial.Proofs.Name.Shown
import TunnelDial.Proofs.Proxy.Locator
import TunnelDial.Proofs.Text.Coding

/-! Hosts of locators. What a host is read as is a text that shows itself, from which the same host
is read again. -/
namespace TunnelDial

open Text

namespace DomainName

variable {name : List Char}

/-- A name of small ASCII letters without packed labels is its own ASCII form. -/
def isSettled (name : List Char) : Bool := isPlain name && name.map toSmall == name

theorem toAscii?_of_isSettled (h : isSettled name = true)
    (hname : ∀ c ∈ name, isForbidden c = false) : toAscii? (Bytes.ofChars name) = some name := by
  obtain ⟨hplain, hsmall⟩ := Bool.and_eq_true_iff.mp h
  have hforbidden : name.any isForbidden = false := by simpa using hname
  rw [toAscii?, Utf8.decode_ofChars]
  simp [hplain, eq_of_beq hsmall, hforbidden]

end DomainName

theorem Percent.decode_of_plain {cs : List Char} (hcs : ∀ c ∈ cs, c.toNat < 128 ∧ c ≠ '%') :
    decode (Bytes.ofChars cs) = Bytes.ofChars cs := by
  have h : decode (Bytes.ofChars (encode (· == '%') cs)) = Bytes.ofChars cs := decode_encode rfl cs
  rwa [encode_of_plain fun c hc => ⟨(hcs c hc).1, by simpa using (hcs c hc).2⟩] at h

namespace Ipv6

theorem colon_mem_toShort (ip : Ipv6) : ':' ∈ toShort ip.groups := by
  have h := count_read? (read?_toShort ip)
  exact List.count_pos_iff.mp (by simpa using h)

theorem mem_writeGroups {gs : List UInt16} {c : Char} (hc : c ∈ writeGroups gs) :
    c = ':' ∨ digitValue? 16 c ≠ none := by
  have digit (g : UInt16) (h : c ∈ hexadecimal g.toNat) : digitValue? 16 c ≠ none :=
    digitValue?_of_mem_toDigits (by decide) (by decide) h
  cases gs with
  | nil => cases hc
  | cons g gs =>
    rw [writeGroups_cons, List.mem_append, List.mem_flatMap] at hc
    rcases hc with hc | ⟨g', -, hc⟩
    · exact .inr (digit g hc)
    · rcases List.mem_cons.mp hc with rfl | hc
      · exact .inl rfl
      · exact .inr (digit g' hc)

/-- The short form has hexadecimal digits and colons. -/
theorem mem_toShort {groups : List UInt16} {c : Char} (hc : c ∈ toShort groups) :
    c = ':' ∨ digitValue? 16 c ≠ none := by
  rw [toShort] at hc
  split at hc
  · rcases List.mem_append.mp hc with hc | hc
    · exact mem_writeGroups hc
    · rcases List.mem_cons.mp hc with rfl | hc
      · exact .inl rfl
      · rcases List.mem_cons.mp hc with rfl | hc
        · exact .inl rfl
        · exact mem_writeGroups hc
  · exact mem_writeGroups hc

end Ipv6

namespace Locator

variable {host cs : List Char} {c : Char} {f : Family}

/-- A character of a host outside brackets: it is seen, and means nothing else in a locator. -/
def HostChar (c : Char) : Prop := (32 < c.toNat ∧ c.toNat < 127) ∧ c ∉ "#/:?@[\\]".toList

instance : DecidablePred HostChar := fun _ => inferInstanceAs (Decidable (_ ∧ _))

theorem hostChar_of_shown (h : DomainName.Shown c) : HostChar c :=
  of_forall_ascii (P := fun c => DomainName.isForbidden c = false → HostChar c) (by decide) h.1 h.2

theorem hostChar_of_digit (h : digitValue? 16 c ≠ none) : HostChar c := by
  have hlt : c.toNat < 128 := by
    obtain ⟨d, hd⟩ := Option.ne_none_iff_exists'.mp h
    obtain ⟨hv, -⟩ := Option.filter_eq_some_iff.mp hd
    split at hv
    · next hc =>
      have hle : c.toNat ≤ '9'.toNat := hc.2
      exact Nat.lt_of_le_of_lt hle (by decide)
    split at hv
    · next hc =>
      have hle : c.toNat ≤ 'f'.toNat := hc.2
      exact Nat.lt_of_le_of_lt hle (by decide)
    split at hv
    · next hc =>
      have hle : c.toNat ≤ 'F'.toNat := hc.2
      exact Nat.lt_of_le_of_lt hle (by decide)
    · cases hv
  exact of_forall_ascii (P := fun c => digitValue? 16 c ≠ none → HostChar c) (by decide) hlt h

namespace HostChar

theorem ne (h : HostChar c) {x : Char} (hx : x ∈ "#/:?@[\\]".toList) : c ≠ x := by
  rintro rfl
  exact h.2 hx

theorem inside (h : HostChar c) (f : Family) : endsAuthority f c = false := by
  simp [endsAuthority, h.ne (x := '/') (by decide), h.ne (x := '?') (by decide),
    h.ne (x := '#') (by decide), h.ne (x := '\\') (by decide)]

end HostChar

/-- The text of a host in a locator: an IPv6 address in brackets, or characters that mean nothing
else. -/
inductive HostText : List Char → Prop
  | brackets (ip : Ipv6) : HostText ('[' :: (Ipv6.toShort ip.groups ++ [']']))
  | plain {cs : List Char} : cs ≠ [] → (∀ c ∈ cs, HostChar c) → HostText cs

theorem spanHost_plain (hhost : ∀ c ∈ host, HostChar c) {rest : List Char}
    (hrest : ∀ c ∈ rest.head?, c = ':') : spanHost f false (host ++ rest) = (host, rest) := by
  induction host with
  | nil =>
    cases rest with
    | nil => rfl
    | cons c rest =>
      obtain rfl := hrest c rfl
      rfl
  | cons c host ih =>
    obtain ⟨hc, hhost⟩ := List.forall_mem_cons.mp hhost
    rw [List.cons_append, spanHost]
    simp [hc.inside f, hc.ne (x := ':') (by decide), hc.ne (x := '[') (by decide),
      hc.ne (x := ']') (by decide), ih hhost]

theorem spanHost_inside {inside : List Char} (hinside : ∀ c ∈ inside, c = ':' ∨ HostChar c)
    {rest : List Char} (hrest : ∀ c ∈ rest.head?, c = ':') :
    spanHost f true (inside ++ ']' :: rest) = (inside ++ [']'], rest) := by
  induction inside with
  | nil =>
    have hclosed := spanHost_plain (f := f) (List.forall_mem_nil HostChar) hrest
    have hopen : endsAuthority f ']' = false := by cases f <;> rfl
    rw [List.nil_append, spanHost]
    rw [List.nil_append] at hclosed
    simp [hopen, hclosed]
  | cons c inside ih =>
    obtain ⟨hc, hinside⟩ := List.forall_mem_cons.mp hinside
    have hkept : endsAuthority f c = false ∧ c ≠ '[' ∧ c ≠ ']' := by
      rcases hc with rfl | hc
      · cases f <;> decide
      · exact ⟨hc.inside f, hc.ne (by decide), hc.ne (by decide)⟩
    rw [List.cons_append, spanHost]
    simp [hkept, ih hinside]

namespace HostText

theorem ne_nil (h : HostText host) : host ≠ [] := by
  cases h with
  | brackets ip => exact List.cons_ne_nil _ _
  | plain hne => exact hne

/-- A host is seen and holds no `@`. -/
theorem shown (h : HostText host) :
    ∀ c ∈ host, (32 < c.toNat ∧ c.toNat < 127) ∧ endsAuthority f c = false ∧ c ≠ '@' := by
  intro c hc
  have seen (h : HostChar c) :
      (32 < c.toNat ∧ c.toNat < 127) ∧ endsAuthority f c = false ∧ c ≠ '@' :=
    ⟨h.1, h.inside f, h.ne (by decide)⟩
  cases h with
  | brackets ip =>
    rcases List.mem_cons.mp hc with rfl | hc
    · cases f <;> decide
    · rcases List.mem_append.mp hc with hc | hc
      · rcases Ipv6.mem_toShort hc with rfl | hdigit
        · cases f <;> decide
        · exact seen (hostChar_of_digit hdigit)
      · obtain rfl := List.mem_singleton.mp hc
        cases f <;> decide
  | plain _ hall => exact seen (hall c hc)

/-- A host ends at the colon of its port, or with the text. -/
theorem spanHost (h : HostText host) {rest : List Char} (hrest : ∀ c ∈ rest.head?, c = ':') :
    Locator.spanHost f false (host ++ rest) = (host, rest) := by
  cases h with
  | brackets ip =>
    have hinside := spanHost_inside (f := f)
      (fun c (hc : c ∈ Ipv6.toShort ip.groups) => (Ipv6.mem_toShort hc).imp id hostChar_of_digit)
      hrest
    have hopen : endsAuthority f '[' = false := by cases f <;> rfl
    rw [List.cons_append, List.append_assoc, List.singleton_append, Locator.spanHost]
    simp [hopen, hinside]
  | plain _ hall => exact spanHost_plain hall hrest

/-- The address of a host prints the host as it stands. -/
theorem toList_ofHost (h : HostText host) (p : UInt16) :
    (Address.ofHost (String.ofList host) p).toList = host ++ ':' :: decimal p.toNat := by
  cases h with
  | brackets ip =>
    have hcolon := ip.colon_mem_toShort
    simp [Address.ofHost, Address.toList, hcolon]
  | plain hne hall =>
    have hopen : host.head? ≠ some '[' := fun hhead =>
      (hall _ (List.mem_of_mem_head? hhead)).ne (x := '[') (by decide) rfl
    have hcolon : ':' ∉ host := fun hmem => (hall _ hmem).ne (x := ':') (by decide) rfl
    simp [Address.ofHost, Address.toList, Address.unbracket_of_head? hopen, hcolon]

end HostText

theorem ipv6Host_brackets (ip : Ipv6) :
    ipv6Host ('[' :: (Ipv6.toShort ip.groups ++ [']'])) =
      .ok ('[' :: (Ipv6.toShort ip.groups ++ [']'])) := by
  have hread : Ipv6.ofList? (Ipv6.toShort ip.groups) = some ip := by
    rw [Ipv6.ofList?, Ipv6.read?_toShort]
  have hlast : ('[' :: (Ipv6.toShort ip.groups ++ [']'])).getLast? = some ']' := by
    rw [← List.cons_append, List.getLast?_concat]
  simp [ipv6Host, hlast, hread]

theorem eq_of_ipv6Host (h : ipv6Host cs = .ok host) :
    ∃ ip : Ipv6, host = '[' :: (Ipv6.toShort ip.groups ++ [']']) := by
  unfold ipv6Host at h
  split at h
  · split at h
    · next ip _ =>
      cases h
      exact ⟨ip, rfl⟩
    · cases h
  · cases h

theorem splitDots_append {piece : List Char} (hpiece : '.' ∉ piece) (rest : List Char) :
    splitDots (piece ++ '.' :: rest) = piece :: splitDots rest := by
  induction piece with
  | nil => rfl
  | cons c piece ih =>
    obtain ⟨hc, hpiece⟩ := not_or.mp (mt List.mem_cons.mpr hpiece)
    rw [List.cons_append, splitDots, if_neg (Ne.symm hc), ih hpiece]

theorem splitDots_of_not_mem {piece : List Char} (hpiece : '.' ∉ piece) :
    splitDots piece = [piece] := by
  induction piece with
  | nil => rfl
  | cons c piece ih =>
    obtain ⟨hc, hpiece⟩ := not_or.mp (mt List.mem_cons.mpr hpiece)
    rw [splitDots, if_neg (Ne.symm hc), ih hpiece]

theorem dot_not_mem_decimal (n : Nat) : '.' ∉ decimal n := fun h =>
  absurd (isDigit_of_mem_decimal h) (by decide)

/-- The pieces of a dotted address are its octets. -/
theorem ipv4Pieces_toList (ip : Ipv4) :
    ipv4Pieces ip.toList = [decimal ip.a.toNat, decimal ip.b.toNat, decimal ip.c.toNat,
      decimal ip.d.toNat] := by
  have hsplit : splitDots ip.toList = [decimal ip.a.toNat, decimal ip.b.toNat,
      decimal ip.c.toNat, decimal ip.d.toNat] := by
    rw [Ipv4.toList, splitDots_append (dot_not_mem_decimal _),
      splitDots_append (dot_not_mem_decimal _), splitDots_append (dot_not_mem_decimal _),
      splitDots_of_not_mem (dot_not_mem_decimal _)]
  simp [ipv4Pieces, hsplit, decimal_ne_nil]

theorem ipv4Number?_decimal (n : UInt8) : ipv4Number? (decimal n.toNat) = some n.toNat := by
  have hall : ∀ n < 256, ipv4Number? (decimal n) = some n := by decide +kernel
  exact hall n.toNat n.toNat_lt

/-- Four octets are the number of their address. -/
theorem ipv4OfNumbers?_octets (ip : Ipv4) :
    ipv4OfNumbers? [ip.a.toNat, ip.b.toNat, ip.c.toNat, ip.d.toNat] = some ip := by
  obtain ⟨a, b, c, d⟩ := ip
  have ha := a.toNat_lt
  have hb := b.toNat_lt
  have hc := c.toNat_lt
  have hd := d.toNat_lt
  have hnumber : valueOf 256 [a.toNat, b.toNat, c.toNat] <<< 8 =
      ((a.toNat * 256 + b.toNat) * 256 + c.toNat) * 256 := by
    simp [valueOf, Nat.shiftLeft_eq]
  have hfits : ¬(4 < [a.toNat, b.toNat, c.toNat, d.toNat].length ∨
      [a.toNat, b.toNat, c.toNat].any (255 < ·) ∨ 1 <<< (8 * (4 - 3)) ≤ d.toNat) := by
    simp
    omega
  have hoctets : Ipv4.ofNat (d.toNat + ((a.toNat * 256 + b.toNat) * 256 + c.toNat) * 256) =
      ⟨a, b, c, d⟩ := by
    simp only [Ipv4.ofNat, Ipv4.mk.injEq, ← UInt8.toNat_inj, UInt8.toNat_ofNat',
      Nat.shiftRight_eq_div_pow]
    omega
  rw [ipv4OfNumbers?]
  exact (if_neg hfits).trans (congrArg some (hnumber ▸ hoctets))

theorem mem_digits {n : Nat} (h : c ∈ decimal n) : c ∈ "0123456789".toList := by
  have hdigit := isDigit_of_mem_decimal h
  have hbounds : 48 ≤ c.toNat ∧ c.toNat ≤ 57 := by
    simpa [Char.isDigit, UInt32.le_iff_toNat_le] using hdigit
  exact of_forall_ascii (P := fun c => c.isDigit = true → c ∈ "0123456789".toList) (by decide)
    (by omega) hdigit

theorem mem_toList_ipv4 {ip : Ipv4} (hc : c ∈ ip.toList) : c ∈ "0123456789.".toList := by
  have digit (n : Nat) (h : c ∈ decimal n) : c ∈ "0123456789.".toList :=
    List.mem_append_left ['.'] (mem_digits h)
  simp only [Ipv4.toList, List.mem_append, List.mem_cons (b := '.')] at hc
  rcases hc with h | rfl | h | rfl | h | rfl | h
  · exact digit _ h
  · decide
  · exact digit _ h
  · decide
  · exact digit _ h
  · decide
  · exact digit _ h

/-- Digits and dots are no packed label and have no capital letter. -/
theorem isSettled_ipv4 (ip : Ipv4) : DomainName.isSettled ip.toList = true := by
  have hkeep : ∀ c ∈ ip.toList, toSmall c = c ∧ DomainName.isAscii c = true ∧ c ≠ 'x' :=
    fun c hc => of_all (P := fun c => toSmall c = c ∧ DomainName.isAscii c = true ∧ c ≠ 'x')
      (by decide) (mem_toList_ipv4 hc)
  have hsmall : ip.toList.map toSmall = ip.toList :=
    (List.map_congr_left fun c hc => (hkeep c hc).1).trans (List.map_id _)
  have hascii : ip.toList.all DomainName.isAscii = true :=
    List.all_eq_true.mpr fun c hc => (hkeep c hc).2.1
  have hpacked : (DomainName.labels ip.toList).any DomainName.isPacked = false := by
    refine List.any_eq_false.mpr fun label hlabel hpacked => ?_
    have hx : 'x' ∈ label := (List.isPrefixOf_iff_prefix.mp hpacked).subset (by decide)
    exact (hkeep 'x' (DomainName.mem_labels hlabel hx)).2.2 rfl
  simp [DomainName.isSettled, DomainName.isPlain, hsmall, hascii, hpacked]

/-- A host outside brackets that is no settled name is no address. -/
theorem ofList?_eq_none (hhost : ∀ c ∈ host, HostChar c)
    (hsettled : DomainName.isSettled host = false) : Ip.ofList? host = none := by
  have hv4 : Ipv4.ofList? host = none := by
    cases h : Ipv4.ofList? host with
    | none => rfl
    | some ip =>
      rw [Ipv4.eq_of_ofList? h, isSettled_ipv4] at hsettled
      cases hsettled
  have hv6 : Ipv6.ofList? host = none := by
    rw [Ipv6.ofList?]
    cases h : Ipv6.read? host with
    | none => rfl
    | some r =>
      have hcolon : 0 < host.count ':' := Nat.zero_lt_of_lt (Ipv6.count_read? h)
      exact absurd rfl ((hhost ':' (List.count_pos_iff.mp hcolon)).ne (x := ':') (by decide))
  rw [Ip.ofList?, hv4, hv6]
  rfl

/-- A text that shows itself and is its own ASCII form is a name as it stands, or an address. -/
theorem webHost_of_name {name : List Char} (hne : name ≠ [])
    (hshown : ∀ c ∈ name, DomainName.Shown c)
    (hname : DomainName.toAscii? (Bytes.ofChars name) = some name) :
    webHost name = if endsInNumber name then ipv4Host name else .ok name := by
  have hopen : name.head? ≠ some '[' := fun h =>
    absurd (hshown _ (List.mem_of_mem_head? h)).2 (by decide)
  have hpercent : ∀ c ∈ name, c.toNat < 128 ∧ c ≠ '%' := by
    refine fun c hc => ⟨(hshown c hc).1, ?_⟩
    rintro rfl
    exact absurd (hshown _ hc).2 (by decide)
  rw [webHost, if_neg hopen, Percent.decode_of_plain hpercent, hname]
  cases name with
  | nil => exact absurd rfl hne
  | cons c name => rfl

/-- An IPv4 address is read again from its dotted form. -/
theorem webHost_ipv4 (ip : Ipv4) : webHost ip.toList = .ok ip.toList := by
  have hshown : ∀ c ∈ ip.toList, DomainName.Shown c := fun c hc =>
    of_all (P := fun c => c.toNat < 128 ∧ DomainName.isForbidden c = false) (by decide)
      (mem_toList_ipv4 hc)
  have hname := DomainName.toAscii?_of_isSettled (isSettled_ipv4 ip) fun c hc => (hshown c hc).2
  have hnumber : endsInNumber ip.toList = true := by
    have hdigits : (decimal ip.d.toNat).all Char.isDigit = true :=
      List.all_eq_true.mpr fun c hc => isDigit_of_mem_decimal hc
    simp [endsInNumber, ipv4Pieces_toList, decimal_ne_nil, hdigits]
  rw [webHost_of_name ip.toList_ne_nil hshown hname, if_pos hnumber, ipv4Host, ipv4Pieces_toList]
  simp [ipv4Number?_decimal, ipv4OfNumbers?_octets]

/-- The host of a scheme of the web is an address, or the ASCII form of a name that stands for
itself. -/
theorem webHost_cases (h : webHost cs = .ok host) :
    (∃ ip : Ipv6, host = '[' :: (Ipv6.toShort ip.groups ++ [']'])) ∨
    (∃ ip : Ipv4, host = ip.toList) ∨
    host ≠ [] ∧ (∀ c ∈ host, DomainName.Shown c) ∧ endsInNumber host = false := by
  unfold webHost at h
  split at h
  · exact .inl (eq_of_ipv6Host h)
  split at h
  · cases h
  · cases h
  next name hne hname =>
  split at h
  · next hnumber =>
    right; left
    unfold ipv4Host at h
    split at h
    · next ip _ =>
      cases h
      exact ⟨ip, rfl⟩
    · cases h
  · next hnumber =>
    cases h
    refine .inr (.inr ⟨?_, DomainName.shown_toAscii? hname, by simpa using hnumber⟩)
    exact hne

theorem hostText_ipv4 (ip : Ipv4) : HostText ip.toList :=
  .plain ip.toList_ne_nil fun _ hc => of_all (P := HostChar) (by decide) (mem_toList_ipv4 hc)

theorem hostText_of_webHost (h : webHost cs = .ok host) : HostText host := by
  rcases webHost_cases h with ⟨ip, rfl⟩ | ⟨ip, rfl⟩ | ⟨hne, hshown, _⟩
  · exact .brackets ip
  · exact hostText_ipv4 ip
  · exact .plain hne fun c hc => hostChar_of_shown (hshown c hc)

/-- A host of a scheme of the web is read again from its own text. Of names with packed labels this
takes that the ASCII form is its own ASCII form. -/
theorem webHost_again (h : webHost cs = .ok host)
    (hname : host.head? ≠ some '[' → Ip.ofList? host = none → DomainName.isSettled host = false →
      DomainName.toAscii? (Bytes.ofChars host) = some host) : webHost host = .ok host := by
  rcases webHost_cases h with ⟨ip, rfl⟩ | ⟨ip, rfl⟩ | ⟨hne, hshown, hnumber⟩
  · exact (if_pos rfl).trans (ipv6Host_brackets ip)
  · exact webHost_ipv4 ip
  · have hopen : host.head? ≠ some '[' := fun hhead =>
      absurd (hshown _ (List.mem_of_mem_head? hhead)).2 (by decide)
    have hself : DomainName.toAscii? (Bytes.ofChars host) = some host := by
      cases hsettled : DomainName.isSettled host with
      | true => exact DomainName.toAscii?_of_isSettled hsettled fun c hc => (hshown c hc).2
      | false =>
        have hip := ofList?_eq_none (fun c hc => hostChar_of_shown (hshown c hc)) hsettled
        exact hname hopen hip hsettled
    rw [webHost_of_name hne hshown hself, hnumber]
    rfl

/-- What a text with percent sequences for controls is made of: characters that the host may hold.
-/
theorem hostChar_of_encoded {c : Char} (hcs : cs.any forbiddenInHost = false)
    (hc : c ∈ Percent.encode (fun c => c.toNat < 32 || c.toNat == 127) cs) :
    HostChar c ∧ forbiddenInHost c = false := by
  obtain ⟨hlt, h⟩ := Percent.mem_encode hc
  rcases h with ⟨hmem, hkept⟩ | h
  · have hallowed : forbiddenInHost c = false := by simpa using List.any_eq_false.mp hcs c hmem
    have hseen : 32 ≤ c.toNat ∧ c.toNat ≠ 127 := by simpa using hkept
    exact ⟨of_forall_ascii (P := fun c => 32 ≤ c.toNat ∧ c.toNat ≠ 127 →
      forbiddenInHost c = false → HostChar c) (by decide) hlt hseen hallowed, hallowed⟩
  · exact of_forall_ascii (P := fun c => c.isAlphanum = true ∨ c = '%' →
      HostChar c ∧ forbiddenInHost c = false) (by decide) hlt h

/-- The host of another scheme is an IPv6 address, or a text with percent sequences. -/
theorem otherHost_cases (h : otherHost cs = .ok host) :
    (∃ ip : Ipv6, host = '[' :: (Ipv6.toShort ip.groups ++ [']'])) ∨
      ∀ c ∈ host, HostChar c ∧ forbiddenInHost c = false := by
  unfold otherHost at h
  split at h
  · exact .inl (eq_of_ipv6Host h)
  split at h
  · cases h
  next hforbidden =>
  cases h
  exact .inr fun c hc => hostChar_of_encoded (by simpa using hforbidden) hc

theorem hostText_of_otherHost (h : otherHost cs = .ok host) (hne : host ≠ []) : HostText host := by
  rcases otherHost_cases h with ⟨ip, rfl⟩ | hall
  · exact .brackets ip
  · exact .plain hne fun c hc => (hall c hc).1

/-- A host of another scheme is read again from its own text. -/
theorem otherHost_again (h : otherHost cs = .ok host) : otherHost host = .ok host := by
  rcases otherHost_cases h with ⟨ip, rfl⟩ | hall
  · exact (if_pos rfl).trans (ipv6Host_brackets ip)
  · have hopen : host.head? ≠ some '[' := fun hhead =>
      (hall _ (List.mem_of_mem_head? hhead)).1.ne (x := '[') (by decide) rfl
    have hforbidden : host.any forbiddenInHost = false :=
      List.any_eq_false.mpr fun c hc => by simp [(hall c hc).2]
    have hplain : ∀ c ∈ host, c.toNat < 128 ∧ (c.toNat < 32 || c.toNat == 127) = false := by
      intro c hc
      have hseen := (hall c hc).1.1
      simp
      omega
    rw [otherHost, if_neg hopen, hforbidden, Percent.encode_of_plain hplain]
    rfl

end Locator
end TunnelDial
