import TunnelDial.Dial.Options
import TunnelDial.Proofs.Proxy.Credentials

/-! The password of a locator is in no text that a dialer or its proxy is printed as: all of them
follow from what the locator says besides. A failure to build the dialer shows it in one case, when
the text itself is refused and quoted. -/
namespace TunnelDial

open Text

namespace Locator

/-- User and password as they are written before the `@`. -/
def userText (user : List Char) : Option (List Char) → List Char
  | none => user
  | some password => user ++ ':' :: password

/-- A locator with a hole for the password: the scheme, the slashes behind its colon, the user, and
what stands behind the `@`. -/
structure Frame where
  scheme : List Char
  slashes : List Char
  user : List Char
  tail : List Char

namespace Frame

/-- The parts are where they seem to be. -/
structure Proper (t : Frame) : Prop where
  slashes : Opens t.scheme t.slashes
  user : ∀ c ∈ t.user, c ≠ ':' ∧ endsAuthority (family t.scheme) c = false
  tail : Nobody (family t.scheme) t.tail

/-- The text is the frame with that password, or without one. -/
structure Holds (t : Frame) (password : Option (List Char)) (s : String) : Prop where
  text : scheme? (visible (trim s.toList)) =
    some (t.scheme, t.slashes ++ (userText t.user password ++ '@' :: t.tail))
  password : ∀ p ∈ password, ∀ c ∈ p, endsAuthority (family t.scheme) c = false

end Frame

variable {t : Frame} {password : Option (List Char)} {s : String}

theorem splitUser_userText {user : List Char} (hcolon : ':' ∉ user)
    (password : Option (List Char)) :
    (splitUser (userText user password)).1 = Percent.encode escapesInUser user := by
  cases password with
  | none => rw [userText, splitUser, cut?_of_not_mem hcolon]
  | some password =>
    rw [userText, splitUser, cut?_append hcolon]
    cases password <;> rfl

theorem parse_of_holds (ht : t.Proper) (hs : t.Holds password s) :
    parse (trim s.toList) =
      if userText t.user password = [] ∧ endsHere (family t.scheme) t.tail = true then
        .error .emptyHost
      else place t.scheme t.tail >>= join t.scheme (splitUser (userText t.user password)) := by
  have hwho : ∀ c ∈ userText t.user password, endsAuthority (family t.scheme) c = false := by
    intro c hc
    cases password with
    | none => exact (ht.user c hc).2
    | some password =>
      rcases List.mem_append.mp hc with hc | hc
      · exact (ht.user c hc).2
      · rcases List.mem_cons.mp hc with rfl | hc
        · simp [endsAuthority]
        · exact hs.password password rfl c hc
  exact parse_user hs.text ht.slashes hwho ht.tail

theorem scheme_of_holds (ht : t.Proper) (hs : t.Holds password s) {l : Locator}
    (hl : parse (trim s.toList) = .ok l) : l.scheme = t.scheme := by
  rw [parse_of_holds ht hs] at hl
  split at hl
  · cases hl
  · obtain ⟨place, -, hjoin⟩ := bind_eq_ok.mp hl
    rw [eq_of_join hjoin]

end Locator

/-- The reason that a failure gives besides the text of a proxy. -/
def Failure.reason? : Failure → Option String
  | proxyUrl _ reason => some reason
  | _ => none

/-- The text that a failure quotes is told by its message. -/
theorem Failure.url_eq_of_message_eq {url url' reason : String}
    (h : (proxyUrl url reason).message = (proxyUrl url' reason).message) : url = url' := by
  have quoted {front back : String}
      (h : front ++ url ++ back ++ reason = front ++ url' ++ back ++ reason) : url = url' := by
    rw [← String.toList_inj] at h
    simp only [String.toList_append] at h
    exact String.toList_inj.mp
      (List.append_cancel_left (List.append_cancel_right (List.append_cancel_right h)))
  exact quoted h

namespace Proxy

variable {t : Locator.Frame} {password password' : Option (List Char)} {s s' : String}
  {p q : Proxy} {f g : Failure}

/-- All that a proxy is but for the password. -/
def outline (p : Proxy) : Scheme × Address × Option String :=
  (p.scheme, p.address, p.credentials.map (·.username))

theorem scheme_eq_of_outline (h : p.outline = q.outline) : p.scheme = q.scheme :=
  congrArg (·.1) h

theorem address_eq_of_outline (h : p.outline = q.outline) : p.address = q.address :=
  congrArg (·.2.1) h

theorem toText_eq_of_outline (h : p.outline = q.outline) : p.toText = q.toText := by
  rw [toText, toText, scheme_eq_of_outline h, address_eq_of_outline h]

theorem credentials_eq_of_outline (h : p.outline = q.outline) :
    p.credentials.map Credentials.diagnostic = q.credentials.map Credentials.diagnostic := by
  have hshown (p : Proxy) : p.credentials.map Credentials.diagnostic =
      p.outline.2.2.map fun user => Credentials.diagnostic ⟨user, ""⟩ := by
    rw [outline, Option.map_map]
    rfl
  rw [hshown, hshown, h]

theorem diagnostic_eq_of_outline (h : p.outline = q.outline) : p.diagnostic = q.diagnostic := by
  rw [diagnostic, diagnostic, scheme_eq_of_outline h, address_eq_of_outline h,
    credentials_eq_of_outline h]

/-- The user that a locator with credentials names. -/
def userOf? (user : List Char) : Option (Option String) :=
  if user = [] then some none else (decoded "username" user).toOption.map some

theorem userOf?_of_credentialsOf {l : Locator} {c : Option Credentials}
    (h : credentialsOf l = .ok c) : userOf? l.user = some (c.map (·.username)) := by
  rw [credentialsOf_eq] at h
  rw [userOf?]
  split at h
  · next hl =>
    cases h
    rw [if_pos hl]
    rfl
  · next hl =>
    obtain ⟨user, huser, h⟩ := bind_eq_ok.mp h
    obtain ⟨password, -, hc⟩ := bind_eq_ok.mp h
    cases hc
    rw [if_neg hl, huser]
    rfl

/-- The proxy without its password follows from the frame. -/
def ofFrame? (t : Locator.Frame) : Option (Scheme × Address × Option String) := do
  let scheme ← Scheme.ofName? (String.ofList t.scheme)
  let place ← (Locator.place t.scheme t.tail).toOption
  let user ← userOf? (Percent.encode Locator.escapesInUser t.user)
  return (scheme, Address.ofHost (String.ofList place.1) (place.2.getD scheme.defaultPort), user)

theorem outline_of_parse (ht : t.Proper) (hs : t.Holds password s) (h : parse s = .ok p) :
    ofFrame? t = some p.outline := by
  obtain ⟨l, hl, hp⟩ := parse_eq_ok.mp h
  rw [Locator.parse_of_holds ht hs] at hl
  split at hl
  · cases hl
  obtain ⟨place, hplace, hjoin⟩ := bind_eq_ok.mp hl
  obtain rfl := Locator.eq_of_join hjoin
  obtain ⟨scheme, c, hscheme, -, hc, rfl⟩ := ofLocator_eq_ok.mp hp
  have huser := userOf?_of_credentialsOf hc
  have hcolon : ':' ∉ t.user := fun hmem => (ht.user ':' hmem).1 rfl
  rw [Locator.splitUser_userText hcolon] at huser
  rw [ofFrame?, hscheme, hplace]
  simp [huser, outline, Except.toOption]

/-- No text is refused in the words in which credentials are, which begin with another letter. -/
theorem head?_reason {l : Locator} {reason : String} (h : credentialsOf l = .error reason) :
    reason.toList.head? ≠ some 'S' := by
  have hdecoded (part : String) (cs : List Char) {reason : String}
      (h : decoded part cs = .error reason) : reason.toList.head? ≠ some 'S' := by
    rw [decoded] at h
    split at h
    · cases h
    · cases h
      simp
  rw [credentialsOf_eq] at h
  split at h
  · cases h
  · rcases bind_eq_error.mp h with huser | ⟨user, -, h⟩
    · exact hdecoded _ _ huser
    · rcases bind_eq_error.mp h with hpassword | ⟨password, -, h⟩
      · cases hp : l.password with
        | none =>
          rw [hp] at hpassword
          cases hpassword
        | some password =>
          rw [hp] at hpassword
          exact hdecoded _ _ hpassword
      · cases h

/-- A text is refused with itself quoted, or for the scheme that it names. -/
theorem error_of_parse (h : parse s = .error f) :
    (∃ reason, f = .proxyUrl (String.ofList (trim s.toList)) reason ∧
      reason.toList.head? ≠ some 'S') ∨
      ∃ l, Locator.parse (trim s.toList) = .ok l ∧ f = .scheme (String.ofList l.scheme) := by
  rw [parse] at h
  cases hl : Locator.parse (trim s.toList) with
  | error fault =>
    rw [hl] at h
    cases h
    exact .inl ⟨_, rfl, by cases fault <;> simp [reasonFor, fullFormHint, LocatorFault.phrase]⟩
  | ok l =>
    rw [hl] at h
    dsimp only at h
    rw [ofLocator] at h
    split at h
    · cases h
      exact .inr ⟨l, rfl, rfl⟩
    split at h
    · cases h
      exact .inl ⟨_, rfl, by simp [fullFormHint]⟩
    split at h
    · next reason hreason =>
      cases h
      exact .inl ⟨reason, rfl, head?_reason hreason⟩
    · cases h

/-- Two texts that agree in all but the password describe proxies that do. -/
theorem outline_eq_of_holds (ht : t.Proper) (hs : t.Holds password s) (hs' : t.Holds password' s')
    (hp : parse s = .ok p) (hq : parse s' = .ok q) : p.outline = q.outline :=
  Option.some.inj ((outline_of_parse ht hs hp).symm.trans (outline_of_parse ht hs' hq))

/-- The text is refused as a proxy, with the text itself quoted. -/
def Quoted (s : String) : Prop := ∃ url reason, parse s = .error (.proxyUrl url reason)

/-- The messages for two such texts agree unless the texts are quoted in them. -/
theorem message_eq_iff (ht : t.Proper) (hs : t.Holds password s) (hs' : t.Holds password' s')
    (hf : parse s = .error f) (hg : parse s' = .error g) (hsort : f.sort = g.sort)
    (hreason : f.reason? = g.reason?) :
    f.message = g.message ↔ (Quoted s → trim s.toList = trim s'.toList) := by
  rcases error_of_parse hf with ⟨reason, rfl, -⟩ | ⟨l, hl, rfl⟩
  · rcases error_of_parse hg with ⟨reason', rfl, -⟩ | ⟨l', -, rfl⟩
    · cases Option.some.inj hreason
      have hquoted : Quoted s := ⟨_, _, hf⟩
      refine ⟨fun hmessage _ => ?_, fun htrim => by rw [htrim hquoted]⟩
      exact String.ofList_injective (Failure.url_eq_of_message_eq hmessage)
    · simp [Failure.sort] at hsort
  · rcases error_of_parse hg with ⟨reason', rfl, -⟩ | ⟨l', hl', rfl⟩
    · simp [Failure.sort] at hsort
    · have hunquoted : ¬Quoted s := by
        rintro ⟨url, reason, hparse⟩
        rw [hf] at hparse
        cases hparse
      rw [Locator.scheme_of_holds ht hs hl, Locator.scheme_of_holds ht hs' hl']
      exact iff_of_true rfl fun hquoted => absurd hquoted hunquoted

end Proxy

namespace Dialer

variable {p q : Proxy} {o : DialerOptions} {d e : Dialer} {f g : Failure} {s : String}

/-- All texts that show a dialer, its proxy and who it is to it. -/
def texts (cached : Bool) (d : Dialer) : List (Option String) :=
  [d.proxy?.map Proxy.toText, d.proxy?.map Proxy.diagnostic,
    d.proxy?.bind fun p => p.credentials.map Credentials.diagnostic, d.diagnostic? cached,
    d.choiceDiagnostic?]

theorem ofSocks_eq (hsocks : p.scheme.isSocks = true) :
    ofSocks p o.direct = o.direct.check >>= fun _ =>
      if p.credentials.any badForSocks then
        .error (.proxyUrl p.toText "SOCKS5 username and password must be 1 to 255 bytes")
      else .ok (.socks p o.direct) := by
  rw [ofSocks]
  simp only [hsocks]
  cases p.credentials with
  | none => rfl
  | some c => cases hbad : badForSocks c <;> simp [hbad] <;> rfl

theorem ofConnect_eq (hsocks : p.scheme.isSocks = false) :
    ofConnect p o = o.direct.check >>= fun _ =>
      .ok (.connect p o (p.requestHeaders o.headers)) := by
  rw [ofConnect]
  simp only [hsocks]
  rfl

theorem eq_of_ofProxy (h : ofProxy p o = .ok d) :
    d = if p.scheme.isSocks = true then .socks p o.direct
      else .connect p o (p.requestHeaders o.headers) := by
  rw [ofProxy] at h
  split at h
  · next hsocks =>
    rw [if_pos hsocks]
    rw [ofSocks_eq hsocks] at h
    obtain ⟨_, -, h⟩ := bind_eq_ok.mp h
    split at h
    · cases h
    · cases h
      rfl
  · next hsocks =>
    rw [if_neg hsocks]
    rw [ofConnect_eq (by simpa using hsocks)] at h
    obtain ⟨_, -, h⟩ := bind_eq_ok.mp h
    cases h
    rfl

theorem error_of_check {o : DirectOptions} (h : o.check = .error f) :
    ∃ reason, f = .config reason := by
  rw [DirectOptions.check] at h
  split at h
  · cases h
    exact ⟨_, rfl⟩
  split at h
  · cases h
    exact ⟨_, rfl⟩
  · cases h

/-- A dialer is refused for its options, or for credentials that its proxy cannot get. -/
theorem error_of_ofProxy (h : ofProxy p o = .error f) :
    (o.direct.check = .error f ∧ ∃ reason, f = .config reason) ∨
      f = .proxyUrl p.toText "SOCKS5 username and password must be 1 to 255 bytes" := by
  rw [ofProxy] at h
  split at h
  · next hsocks =>
    rw [ofSocks_eq hsocks] at h
    rcases bind_eq_error.mp h with hcheck | ⟨_, -, h⟩
    · exact .inl ⟨hcheck, error_of_check hcheck⟩
    · split at h
      · cases h
        exact .inr rfl
      · cases h
  · next hsocks =>
    rw [ofConnect_eq (by simpa using hsocks)] at h
    rcases bind_eq_error.mp h with hcheck | ⟨_, -, h⟩
    · exact .inl ⟨hcheck, error_of_check hcheck⟩
    · cases h

theorem texts_eq_of_outline (hpq : p.outline = q.outline) (hd : ofProxy p o = .ok d)
    (he : ofProxy q o = .ok e) (cached : Bool) : d.texts cached = e.texts cached := by
  have htext := Proxy.toText_eq_of_outline hpq
  have hcredentials := Proxy.credentials_eq_of_outline hpq
  have hdiagnostic := Proxy.diagnostic_eq_of_outline hpq
  have hscheme := Proxy.scheme_eq_of_outline hpq
  rw [eq_of_ofProxy hd, eq_of_ofProxy he, hscheme]
  split <;>
    simp [texts, proxy?, diagnostic?, choiceDiagnostic?, htext, hcredentials, hdiagnostic]

/-- Two dialers that are refused for one reason are refused in the same words. -/
theorem error_eq_of_outline (hpq : p.outline = q.outline) (hf : ofProxy p o = .error f)
    (hg : ofProxy q o = .error g) (hsort : f.sort = g.sort) : f = g := by
  have htext := Proxy.toText_eq_of_outline hpq
  rcases error_of_ofProxy hf with ⟨hcheck, reason, rfl⟩ | rfl
  · rcases error_of_ofProxy hg with ⟨hcheck', -⟩ | rfl
    · exact Except.error.inj (hcheck.symm.trans hcheck')
    · simp [Failure.sort] at hsort
  · rcases error_of_ofProxy hg with ⟨-, reason, rfl⟩ | rfl
    · simp [Failure.sort] at hsort
    · rw [htext]

/-- A text is not refused for the reason for which a dialer is. -/
theorem error_apart (hf : Proxy.parse s = .error f) (hg : ofProxy p o = .error g) :
    f.sort ≠ g.sort ∨ f.reason? ≠ g.reason? := by
  rcases Proxy.error_of_parse hf with ⟨reason, rfl, hhead⟩ | ⟨l, -, rfl⟩
  · rcases error_of_ofProxy hg with ⟨-, reason', rfl⟩ | rfl
    · exact .inl (by simp [Failure.sort])
    · refine .inr fun heq => hhead ?_
      rw [Option.some.inj heq]
      rfl
  · rcases error_of_ofProxy hg with ⟨-, reason', rfl⟩ | rfl
    · exact .inl (by simp [Failure.sort])
    · exact .inl (by simp [Failure.sort])

/-- The texts are locators that agree in all but the password. -/
def AgreeButPassword (s s' : String) : Prop :=
  ∃ t : Locator.Frame, t.Proper ∧ (∃ password, t.Holds password s) ∧ ∃ password, t.Holds password s'

/-- Locators that are written with two passwords agree but for these. -/
theorem agree_locatorOf {scheme : Scheme} (hscheme : scheme.isSocks = false) {place : String}
    (hplace : Locator.PlaceText place.toList) (username password password' : String) :
    AgreeButPassword (Proxy.locatorOf scheme username password place)
      (Proxy.locatorOf scheme username password' place) := by
  let t : Locator.Frame := ⟨scheme.name.toList, "//".toList, Locator.escaped username.toList,
    Locator.ending place.toList⟩
  have hfamily := Locator.family_of_web hscheme
  have hproper : t.Proper := by
    refine ⟨Locator.opens_web hscheme, fun c hc => ?_, ?_⟩
    · rw [hfamily]
      exact ⟨(Locator.inert_escaped hc).colon, (Locator.inert_escaped hc).inside⟩
    · rw [hfamily]
      exact hplace.nobody_ending
  have hholds (password : String) : t.Holds (some (Locator.escaped password.toList))
      (Proxy.locatorOf scheme username password place) := by
    refine ⟨?_, ?_⟩
    · rw [Proxy.toList_locatorOf,
        Locator.scheme?_web scheme (Proxy.shown_credentials username password), List.append_assoc]
      rfl
    · rintro p ⟨⟩ c hc
      rw [hfamily]
      exact (Locator.inert_escaped hc).inside
  exact ⟨t, hproper, ⟨_, hholds password⟩, _, hholds password'⟩

/-- The password is in no text that a dialer is printed as, nor in the message for a dialer that is
refused, but for that of a text which is quoted: two of these agree exactly if the texts do. -/
theorem ofText_secret {s' : String} (h : AgreeButPassword s s') (o : DialerOptions) :
    (∀ d e, ofText s o = .ok d → ofText s' o = .ok e →
      ∀ cached, d.texts cached = e.texts cached) ∧
    ∀ f g, ofText s o = .error f → ofText s' o = .error g →
      f.sort = g.sort → f.reason? = g.reason? →
        (f.message = g.message ↔ (Proxy.Quoted s → trim s.toList = trim s'.toList)) := by
  obtain ⟨t, ht, ⟨password, hs⟩, password', hs'⟩ := h
  refine ⟨fun d e hd he cached => ?_, fun f g hf hg hsort hreason => ?_⟩
  · obtain ⟨p, hp, hd⟩ := bind_eq_ok.mp hd
    obtain ⟨q, hq, he⟩ := bind_eq_ok.mp he
    exact texts_eq_of_outline (Proxy.outline_eq_of_holds ht hs hs' hp hq) hd he cached
  · rcases bind_eq_error.mp hf with hf | ⟨p, hp, hf⟩
    · rcases bind_eq_error.mp hg with hg | ⟨q, -, hg⟩
      · exact Proxy.message_eq_iff ht hs hs' hf hg hsort hreason
      · exact (error_apart hf hg).elim (absurd hsort) (absurd hreason)
    · have hunquoted : ¬Proxy.Quoted s := by
        rintro ⟨url, reason, hparse⟩
        rw [hp] at hparse
        cases hparse
      rcases bind_eq_error.mp hg with hg | ⟨q, hq, hg⟩
      · exact (error_apart hg hf).elim (absurd hsort.symm) (absurd hreason.symm)
      · have heq := error_eq_of_outline (Proxy.outline_eq_of_holds ht hs hs' hp hq) hf hg hsort
        rw [heq]
        exact iff_of_true rfl fun hquoted => absurd hquoted hunquoted

theorem ofText_secret_https :
    (∃ d e, ofText "https://user:hunter2@[::1]" .standard = .ok d ∧
      ofText "https://user:sesame@[::1]" .standard = .ok e ∧ d.texts false = e.texts false) ∧
    ∃ f g, ofText "https://user:hunter2@[::1]:x" .standard = .error f ∧
      ofText "https://user:sesame@[::1]:x" .standard = .error g ∧
      (f.message = g.message ↔ (Proxy.Quoted "https://user:hunter2@[::1]:x" →
        trim "https://user:hunter2@[::1]:x".toList = trim "https://user:sesame@[::1]:x".toList)) := by
  have hhttps : Scheme.https.isSocks = false := rfl
  have hplace : Locator.PlaceText "[::1]".toList := ⟨by simp [Locator.endsAuthority], by simp⟩
  have hplain : Proxy.parse (Scheme.https.name ++ "://" ++ "[::1]") =
      .ok ⟨.https, ⟨"::1", 443⟩, none⟩ := rfl
  have hparse (password : String) : Proxy.parse (Proxy.locatorOf .https "user" password "[::1]") =
      .ok ⟨.https, ⟨"::1", 443⟩, some ⟨"user", password⟩⟩ :=
    Proxy.parse_locatorOf hhttps hplace hplain (by decide) password
  have hd : ofText "https://user:hunter2@[::1]" .standard =
      ofProxy ⟨.https, ⟨"::1", 443⟩, some ⟨"user", "hunter2"⟩⟩ .standard :=
    congrArg (· >>= (ofProxy · .standard)) (hparse "hunter2")
  have he : ofText "https://user:sesame@[::1]" .standard =
      ofProxy ⟨.https, ⟨"::1", 443⟩, some ⟨"user", "sesame"⟩⟩ .standard :=
    congrArg (· >>= (ofProxy · .standard)) (hparse "sesame")
  have hagree := agree_locatorOf hhttps hplace "user" "hunter2" "sesame"
  have hbad : Locator.PlaceText "[::1]:x".toList := ⟨by simp [Locator.endsAuthority], by simp⟩
  have hagree' : AgreeButPassword "https://user:hunter2@[::1]:x" "https://user:sesame@[::1]:x" :=
    agree_locatorOf hhttps hbad "user" "hunter2" "sesame"
  have hf : ofText "https://user:hunter2@[::1]:x" .standard =
      .error (.proxyUrl "https://user:hunter2@[::1]:x" "invalid port number") := rfl
  have hg : ofText "https://user:sesame@[::1]:x" .standard =
      .error (.proxyUrl "https://user:sesame@[::1]:x" "invalid port number") := rfl
  exact ⟨⟨_, _, hd, he, (ofText_secret hagree .standard).1 _ _ hd he false⟩,
    _, _, hf, hg, (ofText_secret hagree' .standard).2 _ _ hf hg rfl rfl⟩

/-- The password is read from the message for a port that is none. -/
theorem ofText_quoted :
    AgreeButPassword "https://user:hunter2@[::1]:99999" "https://user:sesame@[::1]:99999" ∧
      ofText "https://user:hunter2@[::1]:99999" .standard =
        .error (.proxyUrl "https://user:hunter2@[::1]:99999" "invalid port number") ∧
      ofText "https://user:sesame@[::1]:99999" .standard =
        .error (.proxyUrl "https://user:sesame@[::1]:99999" "invalid port number") ∧
      (Failure.proxyUrl "https://user:hunter2@[::1]:99999" "invalid port number").message ≠
        (Failure.proxyUrl "https://user:sesame@[::1]:99999" "invalid port number").message := by
  have hplace : Locator.PlaceText "[::1]:99999".toList :=
    ⟨by simp [Locator.endsAuthority], by simp⟩
  refine ⟨agree_locatorOf (rfl : Scheme.https.isSocks = false) hplace "user" "hunter2" "sesame",
    rfl, rfl, fun h => absurd (Failure.url_eq_of_message_eq h) (by decide)⟩

end Dialer

end TunnelDial
