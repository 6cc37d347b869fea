import TunnelDial.Proofs.Header.Values
import TunnelDial.Proofs.Proxy.Locator
import TunnelDial.Proofs.Text.Coding

/-! Credentials on their way to the proxy. Written with percent sequences in a locator, they are
read as they are; and what is sent to the proxy for them tells it both again. -/
namespace TunnelDial

open Text

namespace Locator

variable {pre tail cs : List Char} {c : Char}

/-- The text with everything but ASCII letters and digits as percent sequences. -/
def escaped (cs : List Char) : List Char := Percent.encode (fun c => !c.isAlphanum) cs

/-- The characters of an escaped text mean nothing else in a locator. -/
structure Inert (c : Char) : Prop where
  shown : 32 < c.toNat ∧ c.toNat < 127
  colon : c ≠ ':'
  inside : endsAuthority .web c = false
  kept : escapesInUser c = false

theorem inert_escaped (hc : c ∈ escaped cs) : Inert c := by
  obtain ⟨hlt, h⟩ := Percent.mem_encode hc
  have hkind : c.isAlphanum = true ∨ c = '%' := by
    rcases h with ⟨-, h⟩ | h | h
    · exact .inl (by simpa using h)
    · exact .inl h
    · exact .inr h
  obtain ⟨hshown, hcolon, hinside, hkept⟩ := of_forall_ascii
    (P := fun c => c.isAlphanum = true ∨ c = '%' → (32 < c.toNat ∧ c.toNat < 127) ∧ c ≠ ':' ∧
      endsAuthority .web c = false ∧ escapesInUser c = false) (by decide) hlt hkind
  exact ⟨hshown, hcolon, hinside, hkept⟩

/-- An escaped text is read back. -/
theorem decode_escaped (cs : List Char) :
    Percent.decode (Bytes.ofChars (escaped cs)) = Bytes.ofChars cs :=
  Percent.decode_encode rfl cs

theorem escaped_eq_nil : escaped cs = [] ↔ cs = [] := by
  constructor
  · intro h
    have hbytes := decode_escaped cs
    rw [h, Bytes.ofChars_nil, Percent.decode] at hbytes
    have hread := Utf8.decode_ofChars cs
    rw [← hbytes] at hread
    exact (Except.ok.inj hread).symm
  · rintro rfl
    rfl

/-- User and password, escaped, as they stand before the `@`. -/
def userInfo (user password : List Char) : List Char := escaped user ++ ':' :: escaped password

theorem userInfo_ne_nil (user password : List Char) : userInfo user password ≠ [] := by
  simp [userInfo]

theorem shown_userInfo (user password : List Char) :
    ∀ c ∈ userInfo user password, (32 < c.toNat ∧ c.toNat < 127) ∧
      endsAuthority .web c = false := by
  intro c hc
  rcases List.mem_append.mp hc with hc | hc
  · exact ⟨(inert_escaped hc).shown, (inert_escaped hc).inside⟩
  · rcases List.mem_cons.mp hc with rfl | hc
    · decide
    · exact ⟨(inert_escaped hc).shown, (inert_escaped hc).inside⟩

/-- They are read as they are, and nothing more is escaped in them. -/
theorem splitUser_userInfo (user password : List Char) :
    splitUser (userInfo user password) =
      (escaped user, if password = [] then none else some (escaped password)) := by
  have hcolon : ':' ∉ escaped user := fun h => (inert_escaped h).colon rfl
  have hkept (cs : List Char) : Percent.encode escapesInUser (escaped cs) = escaped cs :=
    Percent.encode_of_plain fun c hc =>
      ⟨Nat.lt_succ_of_lt (inert_escaped hc).shown.2, (inert_escaped hc).kept⟩
  rw [splitUser, userInfo, cut?_append hcolon]
  by_cases hpassword : password = []
  · rw [if_pos hpassword, escaped_eq_nil.mpr hpassword]
    exact congrArg (·, none) (hkept user)
  · obtain ⟨c, more, hmore⟩ := List.exists_cons_of_ne_nil (mt escaped_eq_nil.mp hpassword)
    rw [if_neg hpassword, hmore]
    dsimp only
    rw [← hmore, hkept, hkept]

/-- What is left of the end of a locator. -/
def ending (tail : List Char) : List Char :=
  (dropTrailing (·.toNat ≤ 32) (dropTrailing isBlank tail)).filter
    fun c => c != '\t' && c != '\n' && c != '\r'

/-- Characters that show themselves are not skipped. -/
theorem unskipped (hc : 32 < c.toNat) : (c != '\t' && c != '\n' && c != '\r') = true := by
  have apart {k : Char} (hk : k.toNat ≤ 32) : c ≠ k := by
    rintro rfl
    omega
  simp [apart (k := '\t') (by decide), apart (k := '\n') (by decide),
    apart (k := '\r') (by decide)]

theorem visible_trim (hne : pre ≠ []) (hpre : ∀ c ∈ pre, 32 < c.toNat ∧ c.toNat < 127)
    (tail : List Char) : visible (trim (pre ++ tail)) = pre ++ ending tail := by
  have hblank : ∀ c ∈ pre, isBlank c = false := by
    intro c hc
    have hshown := hpre c hc
    simp [isBlank]
    omega
  have hcontrol : ∀ c ∈ pre, decide (c.toNat ≤ 32) = false := by
    intro c hc
    have hshown := hpre c hc
    simp
    omega
  have hkept : pre.filter (fun c => c != '\t' && c != '\n' && c != '\r') = pre :=
    List.filter_eq_self.mpr fun c hc => unskipped (hpre c hc).1
  have hfirst (tail : List Char) : ∀ c ∈ (pre ++ tail).head?, c ∈ pre := by
    intro c hc
    rw [List.head?_append, List.head?_eq_some_head hne] at hc
    cases hc
    exact List.head_mem hne
  rw [trim, dropWhile_of_head? fun c hc => hblank c (hfirst _ c hc),
    dropTrailing_append fun c hc => hblank c (List.mem_of_getLast? hc), visible]
  rw [dropWhile_of_head? fun c hc => hcontrol c (hfirst _ c hc),
    dropTrailing_append fun c hc => hcontrol c (List.mem_of_getLast? hc), List.filter_append, hkept]
  rfl

/-- What stands behind the `@`, the host first. -/
structure PlaceText (tail : List Char) : Prop where
  first : ∀ c ∈ tail.head?, 32 < c.toNat ∧ endsAuthority .web c = false
  nobody : '@' ∉ tail

namespace PlaceText

theorem nobody_ending (h : PlaceText tail) : Nobody .web (ending tail) := by
  intro hmem
  have hending := List.mem_of_mem_filter ((List.takeWhile_sublist _).mem hmem)
  have hcut := (dropTrailing_isPrefixOf isBlank tail).sublist.mem
    ((dropTrailing_isPrefixOf _ _).sublist.mem hending)
  exact h.nobody hcut

theorem first_ending (h : PlaceText tail) :
    ∀ c ∈ (ending tail).head?, endsAuthority .web c = false := by
  have hprefix : dropTrailing (·.toNat ≤ 32) (dropTrailing isBlank tail) <+: tail :=
    (dropTrailing_isPrefixOf _ _).trans (dropTrailing_isPrefixOf isBlank tail)
  intro c hc
  rw [ending] at hc
  cases hfront : dropTrailing (·.toNat ≤ 32) (dropTrailing isBlank tail) with
  | nil =>
    rw [hfront] at hc
    cases hc
  | cons x front =>
    rw [hfront] at hc hprefix
    obtain ⟨back, hback⟩ := hprefix
    obtain ⟨hx, hends⟩ := h.first x (by rw [← hback]; rfl)
    have hkept : (x :: front).filter (fun c => c != '\t' && c != '\n' && c != '\r') =
        x :: front.filter fun c => c != '\t' && c != '\n' && c != '\r' :=
      List.filter_cons_of_pos (unskipped hx)
    rw [hkept] at hc
    cases hc
    exact hends

end PlaceText

theorem family_of_web {scheme : Scheme} (hscheme : scheme.isSocks = false) :
    family scheme.name.toList = .web := by
  cases scheme <;> first | rfl | cases hscheme

theorem scheme?_web (scheme : Scheme) (hpre : ∀ c ∈ pre, 32 < c.toNat ∧ c.toNat < 127)
    (tail : List Char) :
    scheme? (visible (trim (scheme.name.toList ++ "://".toList ++ pre ++ tail))) =
      some (scheme.name.toList, "//".toList ++ (pre ++ ending tail)) := by
  have hlead : ∀ c ∈ scheme.name.toList ++ "://".toList, 32 < c.toNat ∧ c.toNat < 127 := by
    have hall : (scheme.name.toList ++ "://".toList).all
        (fun c => 32 < c.toNat && c.toNat < 127) = true := by cases scheme <;> rfl
    intro c hc
    simpa using List.all_eq_true.mp hall c hc
  have hshown : ∀ c ∈ scheme.name.toList ++ "://".toList ++ pre, 32 < c.toNat ∧ c.toNat < 127 :=
    fun c hc => (List.mem_append.mp hc).elim (hlead c) (hpre c)
  rw [visible_trim (by simp) hshown]
  cases scheme <;> rfl

theorem opens_web {scheme : Scheme} (hscheme : scheme.isSocks = false) :
    Opens scheme.name.toList "//".toList := .inl ⟨family_of_web hscheme, by simp⟩

end Locator

namespace Proxy

variable {scheme : Scheme} {place : String} {q : Proxy}

theorem ofName?_name (scheme : Scheme) :
    Scheme.ofName? (String.ofList scheme.name.toList) = some scheme := by
  cases scheme <;> rfl

/-- The locator of a proxy with credentials in it. -/
def locatorOf (scheme : Scheme) (username password place : String) : String :=
  scheme.name ++ "://" ++ String.ofList (Locator.escaped username.toList) ++ ":" ++
    String.ofList (Locator.escaped password.toList) ++ "@" ++ place

theorem toList_locatorOf (scheme : Scheme) (username password place : String) :
    (locatorOf scheme username password place).toList =
      scheme.name.toList ++ "://".toList ++
        (Locator.userInfo username.toList password.toList ++ ['@']) ++ place.toList := by
  simp [locatorOf, Locator.userInfo]

theorem shown_credentials (username password : String) :
    ∀ c ∈ Locator.userInfo username.toList password.toList ++ ['@'],
      32 < c.toNat ∧ c.toNat < 127 := by
  intro c hc
  rcases List.mem_append.mp hc with hc | hc
  · exact (Locator.shown_userInfo _ _ c hc).1
  · obtain rfl := List.mem_singleton.mp hc
    decide

/-- What a locator without credentials says of the proxy. -/
theorem place_of_parse (hscheme : scheme.isSocks = false)
    (hplace : Locator.PlaceText place.toList)
    (hq : parse (scheme.name ++ "://" ++ place) = .ok q) :
    ∃ at', Locator.place scheme.name.toList (Locator.ending place.toList) = .ok at' ∧ at'.1 ≠ [] ∧
      q = ⟨scheme, Address.ofHost (String.ofList at'.1) (at'.2.getD scheme.defaultPort), none⟩ := by
  obtain ⟨l, hl, hq⟩ := parse_eq_ok.mp hq
  have htext : (scheme.name ++ "://" ++ place).toList =
      scheme.name.toList ++ "://".toList ++ [] ++ place.toList := by simp
  have hread := Locator.scheme?_web scheme (List.forall_mem_nil _) place.toList
  rw [← htext, List.nil_append] at hread
  have hfamily := Locator.family_of_web hscheme
  rw [Locator.parse_place hread (Locator.opens_web hscheme) (hfamily ▸ hplace.first_ending)
    (hfamily ▸ hplace.nobody_ending)] at hl
  obtain ⟨at', hat, hjoin⟩ := bind_eq_ok.mp hl
  obtain rfl := Locator.eq_of_join hjoin
  obtain ⟨scheme', c, hname, hhost, hc, rfl⟩ := ofLocator_eq_ok.mp hq
  rw [ofName?_name] at hname
  cases hname
  cases hc
  exact ⟨at', hat, hhost, rfl⟩

theorem decoded_escaped (part : String) (s : String) :
    decoded part (Locator.escaped s.toList) = .ok s := by
  rw [decoded, Locator.decode_escaped, Utf8.decode_ofChars]
  simp

/-- Escaped credentials are read as they are, and nothing else changes. -/
theorem parse_locatorOf (hscheme : scheme.isSocks = false)
    (hplace : Locator.PlaceText place.toList)
    (hq : parse (scheme.name ++ "://" ++ place) = .ok q) {username : String}
    (hname : username ≠ "") (password : String) :
    parse (locatorOf scheme username password place) =
      .ok { q with credentials := some ⟨username, password⟩ } := by
  obtain ⟨at', hat, hhost, rfl⟩ := place_of_parse hscheme hplace hq
  have hwho := Locator.shown_userInfo username.toList password.toList
  have hfamily := Locator.family_of_web hscheme
  have hread := Locator.scheme?_web scheme (shown_credentials username password) place.toList
  rw [← toList_locatorOf, List.append_assoc, List.singleton_append] at hread
  have hl : Locator.parse (trim (locatorOf scheme username password place).toList) =
      .ok ⟨scheme.name.toList, Locator.escaped username.toList,
        if password.toList = [] then none else some (Locator.escaped password.toList),
        at'.1, at'.2⟩ := by
    rw [Locator.parse_user hread (Locator.opens_web hscheme)
      (hfamily ▸ fun c hc => (hwho c hc).2) (hfamily ▸ hplace.nobody_ending),
      if_neg fun h => Locator.userInfo_ne_nil _ _ h.1, hat, Locator.splitUser_userInfo]
    exact Locator.join_of_host hhost
  have huser : Locator.escaped username.toList ≠ [] :=
    mt Locator.escaped_eq_nil.mp (mt String.toList_eq_nil_iff.mp hname)
  refine parse_eq_ok.mpr ⟨_, hl, ofLocator_eq_ok.mpr
    ⟨scheme, some ⟨username, password⟩, ofName?_name scheme, hhost, ?_, rfl⟩⟩
  rw [credentialsOf_eq, if_neg huser, decoded_escaped]
  dsimp only
  split
  · next hempty =>
    rw [String.toList_eq_nil_iff.mp hempty]
    rfl
  · rw [Option.elim_some, decoded_escaped]
    rfl

/-- Credentials arrive at the proxy unchanged. Escaped in a locator of the web they are read as they
are; the headers of every request then have them as the only authorization, from which name and
password are read back, and the caller's fields of all other names. -/
theorem credentials_arrive (hscheme : scheme.isSocks = false)
    (hplace : Locator.PlaceText place.toList)
    (hq : parse (scheme.name ++ "://" ++ place) = .ok q) (username password : String)
    (hname : username ≠ "") :
    ∃ p, parse (locatorOf scheme username password place) = .ok p ∧
      p.credentials = some ⟨username, password⟩ ∧ p.scheme = q.scheme ∧ p.address = q.address ∧
      ∀ extra, ∃ h, p.connectHeaders extra = .ok h ∧
        (extra.names.Nodup → h.names.Nodup) ∧
        h.valuesOf .proxyAuthorization = [Bytes.ofText "Basic " ++
          Bytes.ofChars (Base64.encode (Bytes.ofText (username ++ ":" ++ password)))] ∧
        Base64.decode? (Base64.encode (Bytes.ofText (username ++ ":" ++ password))) =
          some (Bytes.ofText (username ++ ":" ++ password)) ∧
        Utf8.decode (Bytes.ofText (username ++ ":" ++ password)) =
          .ok (username.toList ++ ':' :: password.toList) ∧
        (':' ∉ username.toList → cut? ':' (username.toList ++ ':' :: password.toList) =
          some (username.toList, password.toList)) ∧
        ∀ n, n ≠ .proxyAuthorization → h.valuesOf n = extra.valuesOf n := by
  refine ⟨_, parse_locatorOf hscheme hplace hq hname password, rfl, rfl, rfl, fun extra => ?_⟩
  have hvalue : Bytes.ofText (Credentials.mk username password).basic = Bytes.ofText "Basic " ++
      Bytes.ofChars (Base64.encode (Bytes.ofText (username ++ ":" ++ password))) := by
    rw [Credentials.basic, Bytes.ofText_append]
    rfl
  have hchars : Bytes.ofText (username ++ ":" ++ password) =
      Bytes.ofChars (username.toList ++ ':' :: password.toList) := by
    simp [Bytes.ofText_eq, Bytes.ofChars_eq]
  refine ⟨_, connectHeaders_eq _ extra, nodup_requestHeaders _, ?_, Base64.decode?_encode _, ?_,
    fun hcolon => cut?_append hcolon _, fun n hn => ?_⟩
  · rw [valuesOf_requestHeaders]
    dsimp only
    rw [if_pos rfl, hvalue]
  · rw [hchars, Utf8.decode_ofChars]
  · rw [valuesOf_requestHeaders]
    dsimp only
    rw [if_neg hn]

theorem credentials_arrive_separators :
    ∃ p, parse (locatorOf .https "us:er" "p@ss%word" "[::1]:8443") = .ok p ∧
      p.credentials = some ⟨"us:er", "p@ss%word"⟩ ∧ p.address = ⟨"::1", 8443⟩ := by
  have hq : parse (Scheme.https.name ++ "://" ++ "[::1]:8443") =
      .ok ⟨.https, ⟨"::1", 8443⟩, none⟩ := rfl
  obtain ⟨p, hp, hcredentials, -, haddress, -⟩ :=
    credentials_arrive rfl ⟨by simp [Locator.endsAuthority], by simp⟩ hq "us:er" "p@ss%word"
      (by decide)
  exact ⟨p, hp, hcredentials, haddress⟩

end Proxy

end TunnelDial
