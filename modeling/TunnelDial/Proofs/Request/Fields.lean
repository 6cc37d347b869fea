import TunnelDial.Proofs.Header.Values
import TunnelDial.Proofs.Request.Head

/-! Reading a head back. A reader that cuts the head into lines, and each line at its first colon
with a blank behind it, finds the words of the first line and then the fields that were sent, in
their order: no value makes a line or a field of its own, and capital letters lose nothing of a
name. -/
namespace TunnelDial

open Text

namespace HeaderName

/-- What holds of the characters of ASCII holds of every character of a name. -/
theorem of_ascii {P : Char → Prop} (hP : ∀ n < 128, P (Char.ofNat n)) {c : Char}
    (hc : isToken c = true) : P c := by
  have h := hP c.toNat (toNat_lt_of_isToken hc)
  rwa [Char.ofNat_toNat] at h

theorem toSmall_toSmall {c : Char} (hc : isToken c = true) : toSmall (toSmall c) = toSmall c :=
  of_ascii (P := fun c => toSmall (toSmall c) = toSmall c) (by decide) hc

theorem toSmall_toCapital {c : Char} (hc : isToken c = true) :
    toSmall (toCapital c) = toSmall c :=
  of_ascii (P := fun c => toSmall (toCapital c) = toSmall c) (by decide) hc

theorem length_titleFrom (up : Bool) (cs : List Char) : (titleFrom up cs).length = cs.length := by
  induction cs generalizing up with
  | nil => rfl
  | cons c cs ih => rw [titleFrom, List.length_cons, List.length_cons, ih]

/-- The capital letters of a name are all that its written form adds. -/
theorem map_toSmall_titleFrom {up : Bool} {cs : List Char}
    (hcs : ∀ c ∈ cs, isToken c = true) : (titleFrom up cs).map toSmall = cs.map toSmall := by
  induction cs generalizing up with
  | nil => rfl
  | cons c cs ih =>
    obtain ⟨hc, hcs⟩ := List.forall_mem_cons.mp hcs
    have hfirst : toSmall (if up then toCapital c else c) = toSmall c := by
      cases up with
      | true => exact toSmall_toCapital hc
      | false => rfl
    rw [titleFrom, List.map_cons, List.map_cons, hfirst, ih hcs]

/-- The characters of a name that was read from some bytes. -/
theorem chars_of_ofBytes? {bs : Bytes} {n : HeaderName} (h : ofBytes? bs = some n) :
    n.IsToken ∧ n.chars.length ≤ 65535 ∧ n.chars.map toSmall = n.chars := by
  refine ⟨isToken_of_ofBytes? h, ?_⟩
  unfold ofBytes? at h
  dsimp only at h
  split at h
  · cases h
  · rename_i hb
    simp only [Bool.or_eq_true, not_or, Bool.not_eq_true, Bool.not_eq_true', Bool.not_eq_false,
      decide_eq_false_iff_not, List.all_eq_true] at hb
    obtain ⟨⟨_, hlen⟩, hall⟩ := hb
    cases h
    refine ⟨by simpa using Nat.le_of_not_lt hlen, ?_⟩
    rw [List.map_map]
    exact List.map_congr_left fun c hc => toSmall_toSmall (hall c hc)

/-- The bytes of ASCII characters are those characters again. -/
theorem latin_ofChars {cs : List Char} (hcs : ∀ c ∈ cs, isToken c = true) :
    Bytes.latin (Bytes.ofChars cs) = cs := by
  rw [Bytes.ofChars_eq]
  induction cs with
  | nil => rfl
  | cons c cs ih =>
    obtain ⟨hc, hcs⟩ := List.forall_mem_cons.mp hcs
    have hlt := toNat_lt_of_isToken hc
    have hbyte : (UInt8.ofNat c.toNat).toNat = c.toNat :=
      UInt8.toNat_ofNat_of_lt' (by omega : c.toNat < 256)
    have hrest := ih hcs
    rw [Bytes.latin] at hrest ⊢
    rw [List.flatMap_cons, Bytes.utf8EncodeChar_of_lt hlt, List.singleton_append, List.map_cons,
      hrest, hbyte, Char.ofNat_toNat]

/-- A name is read back from its written form. -/
theorem ofBytes?_title {bs : Bytes} {n : HeaderName} (h : ofBytes? bs = some n) :
    ofBytes? (Bytes.ofChars n.title) = some n := by
  obtain ⟨⟨hne, htoken⟩, hlen, hsmall⟩ := chars_of_ofBytes? h
  have htitle : ∀ c ∈ n.title, isToken c = true := isToken_of_mem_titleFrom htoken
  have hlength : n.title.length = n.chars.length := length_titleFrom true n.chars
  have hempty : n.title ≠ [] := fun he => hne (by simpa [he] using hlength.symm)
  have hback : n.title.map toSmall = n.chars := by
    rw [title, map_toSmall_titleFrom htoken, hsmall]
  unfold ofBytes?
  dsimp only
  rw [latin_ofChars htitle, if_neg, hback]
  simpa [hempty, hlength, hlen] using htitle

end HeaderName

/-- Fields as callers can make them: they can be sent, and each name can be read from some bytes. -/
def Headers.Admitted (h : Headers) : Prop :=
  h.Valid ∧ ∀ n ∈ h.names, ∃ bs, HeaderName.ofBytes? bs = some n

theorem Headers.Admitted.name {h : Headers} (hh : h.Admitted) {f : HeaderName × Bytes}
    (hf : f ∈ h.toList) : ∃ bs, HeaderName.ofBytes? bs = some f.1 := by
  obtain ⟨b, hb, hf⟩ := List.mem_flatMap.mp hf
  obtain ⟨v, _, rfl⟩ := List.mem_map.mp hf
  exact hh.2 b.name (List.mem_map_of_mem hb)

theorem Headers.admitted_ofPairs {h : Headers} {fields : List (Bytes × Bytes)}
    (he : ofPairs fields = .ok h) : h.Admitted := by
  refine ⟨valid_ofPairs he, ?_⟩
  refine ofPairs_rec (P := fun h => ∀ n ∈ h.names, ∃ bs, HeaderName.ofBytes? bs = some n)
    (fun _ hn => nomatch hn) ?_ he
  intro h n v hh hn _ m hm
  rw [names_append] at hm
  split at hm
  · exact hh m hm
  · rcases List.mem_append.mp hm with hm | hm
    · exact hh m hm
    · rw [List.mem_singleton.mp hm]
      exact hn

/-- A line cut at its first colon with a blank behind it; nothing when there is none. -/
def cutField? : Bytes → Option (Bytes × Bytes)
  | [] => none
  | 58 :: 32 :: bs => some ([], bs)
  | b :: bs => (cutField? bs).map fun f => (b :: f.1, f.2)

/-- The field in a line; its name may have capital letters. -/
def field? (line : Bytes) : Option (HeaderName × Bytes) :=
  (cutField? line).bind fun f => (HeaderName.ofBytes? f.1).map (·, f.2)

/-- The words of the first line of a head and the fields of all others, where the last line, and
nothing behind it, is empty. -/
def readBack? (bs : Bytes) : Option (List Bytes × List (HeaderName × Bytes)) :=
  match lines? bs with
  | some (first :: more) =>
    if more.getLast? = some [] then (more.dropLast.mapM field?).map (first.splitOn 32, ·) else none
  | _ => none

theorem cutField?_append {name : Bytes} (hname : 58 ∉ name) (value : Bytes) :
    cutField? (name ++ [58, 32] ++ value) = some (name, value) := by
  induction name with
  | nil => rfl
  | cons b name ih =>
    obtain ⟨hb, hname⟩ := not_or.mp (mt List.mem_cons.mpr hname)
    rw [List.cons_append, List.cons_append, cutField?, ih hname]
    · rfl
    · intro _ h _
      exact hb h.symm

namespace ConnectRequest

variable {r : ConnectRequest}

theorem field?_fieldText {f : HeaderName × Bytes} {bs : Bytes}
    (hname : HeaderName.ofBytes? bs = some f.1) : field? (fieldText f) = some f := by
  have htitle : ∀ c ∈ f.1.title, HeaderName.isToken c = true :=
    HeaderName.isToken_of_mem_titleFrom (HeaderName.isToken_of_ofBytes? hname).2
  have hcolon : 58 ∉ Bytes.ofChars f.1.title := by
    intro hc
    have hmem : ':' ∈ (String.ofList f.1.title).toList :=
      (Bytes.mem_ofText ':' (by decide) (String.ofList f.1.title)).mp hc
    rw [String.toList_ofList] at hmem
    exact absurd (htitle ':' hmem) (by decide)
  rw [field?, fieldText, cutField?_append hcolon, Option.bind_some,
    HeaderName.ofBytes?_title hname]
  rfl

theorem field?_hostLine (r : ConnectRequest) :
    field? r.hostLine = some (.host, Bytes.ofText r.authority) := by
  have hhost : Bytes.ofText "Host: " = [72, 111, 115, 116] ++ [58, 32] := by
    simp only [Bytes.ofText_eq]
    decide
  have hname : HeaderName.ofBytes? [72, 111, 115, 116] = some .host := by decide
  rw [field?, hostLine, Bytes.ofText_append, hhost, cutField?_append (by decide),
    Option.bind_some, hname]
  rfl

/-- The lines of fields are read back one by one. -/
theorem mapM_field? {fs : List (HeaderName × Bytes)}
    (hfs : ∀ f ∈ fs, ∃ bs, HeaderName.ofBytes? bs = some f.1) :
    (fs.map fieldText).mapM field? = some fs := by
  induction fs with
  | nil => rfl
  | cons f fs ih =>
    obtain ⟨⟨bs, hf⟩, hfs⟩ := List.forall_mem_cons.mp hfs
    rw [List.map_cons, List.mapM_cons, field?_fieldText hf, ih hfs]
    rfl

/-- Whoever reads the head of a request back finds the method, the authority and the version, then
the host, which is the authority, and then the fields of the request in their order, byte for byte,
but for a caller's `host`; and nothing behind the empty line. -/
theorem readBack?_head (r : ConnectRequest) (hh : r.headers.Admitted)
    (ha : ∀ c ∈ r.authority.toList, c ≠ '\r' ∧ c ≠ '\n' ∧ c ≠ ' ') :
    readBack? r.head = some
      ([Bytes.ofText "CONNECT", Bytes.ofText r.authority, Bytes.ofText "HTTP/1.1"],
        (.host, Bytes.ofText r.authority) :: r.headers.toList.filter (·.1 ≠ .host)) := by
  have hlines : lines? r.head = some r.lines :=
    (lines?_head_iff hh.1).mpr ⟨fun hr => (ha _ hr).1 rfl, fun hn => (ha _ hn).2.1 rfl⟩
  have hwords := splitOn_startLine_iff.mpr fun hb => (ha _ hb).2.2 rfl
  have hfields : (r.hostLine :: (sentFields r.headers).map fieldText).mapM field? =
      some ((.host, Bytes.ofText r.authority) :: sentFields r.headers) := by
    have hsent : ∀ f ∈ sentFields r.headers, ∃ bs, HeaderName.ofBytes? bs = some f.1 :=
      fun f hf => hh.name (List.mem_filter.mp hf).1
    rw [List.mapM_cons, field?_hostLine, mapM_field? hsent]
    rfl
  have hlast : (r.hostLine :: (sentFields r.headers).map fieldText ++ [[]]).getLast? = some [] :=
    List.getLast?_concat
  rw [readBack?, hlines, lines, List.cons_append]
  dsimp only
  rw [if_pos hlast, List.dropLast_concat, hfields, hwords]
  rfl

/-- Fields with marks in the name, a colon, blanks and high bytes in the values, no value at all,
and a host of the caller's own. -/
def awkwardFields : List (Bytes × Bytes) :=
  [(Bytes.ofText "X--9_b-|", [32, 58, 32, 255, 9]), (Bytes.ofText "HOST", [49]),
    (Bytes.ofText "x--9_B-|", [])]

theorem readBack?_head_awkward : ∃ h : Headers, Headers.ofPairs awkwardFields = .ok h ∧
    readBack? (head ⟨"[::1]:443", h⟩) = some
      ([Bytes.ofText "CONNECT", Bytes.ofText "[::1]:443", Bytes.ofText "HTTP/1.1"],
        [(.host, Bytes.ofText "[::1]:443"), (⟨"x--9_b-|".toList⟩, [32, 58, 32, 255, 9]),
          (⟨"x--9_b-|".toList⟩, [])]) := by
  let h : Headers := ⟨[⟨⟨"x--9_b-|".toList⟩, [32, 58, 32, 255, 9], [[]]⟩, ⟨.host, [49], []⟩]⟩
  have hbuilt : Headers.ofPairs awkwardFields = .ok h := by decide +kernel
  have hplain : ∀ c ∈ "[::1]:443".toList, c ≠ '\r' ∧ c ≠ '\n' ∧ c ≠ ' ' := by simp
  have hback := readBack?_head ⟨"[::1]:443", h⟩ (Headers.admitted_ofPairs hbuilt) hplain
  exact ⟨h, hbuilt, hback⟩

end ConnectRequest
end TunnelDial
