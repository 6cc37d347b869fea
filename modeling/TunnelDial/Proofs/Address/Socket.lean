import TunnelDial.Proofs.Address.Ip

/-! Socket addresses in a text. With the host in brackets only an IPv6 address is read, as the
reader does not look behind the closing bracket; with one colon only an IPv4 address is, as every
IPv6 address takes a colon for itself. -/
namespace TunnelDial

open Text

variable {c : Char} {cs t : List Char}

namespace Socket

variable {host port : List Char}

theorem skipZone?_append (hdigit : NoDigit 10 t) (hzone : t.head? ≠ some '%') (cs : List Char) :
    skipZone? (cs ++ t) = (skipZone? cs).map (· ++ t) := by
  cases cs with
  | nil =>
    cases t with
    | nil => rfl
    | cons c t =>
      have hc : c ≠ '%' := fun h => hzone (h ▸ rfl)
      simp [skipZone?, hc]
  | cons c cs =>
    by_cases hc : c = '%'
    · simp [skipZone?, hc, readNumber?_append cs hdigit, Function.comp_def]
    · simp [skipZone?, hc]

theorem skipZone?_suffix (h : skipZone? cs = some t) : t <:+ cs := by
  rw [skipZone?.eq_def] at h
  split at h
  · next r =>
    obtain ⟨⟨n, rest⟩, hread, rfl⟩ := Option.map_eq_some_iff.mp h
    exact (suffix_of_readNumber? hread).trans (List.suffix_cons ..)
  · cases h
    exact List.suffix_rfl

theorem readPort?_decimal (p : UInt16) : readPort? (':' :: decimal p.toNat) = some p := by
  have h := readNumber?_toDigits (t := []) (by decide : 1 < 10) (by decide) p.toNat_lt
    noDigit_nil
  rw [List.append_nil] at h
  simp [readPort?, decimal, h]

/-- Nothing but digits stands behind the colon of a port. -/
theorem isDigit_of_readPort? {p : UInt16} (h : readPort? cs = some p) :
    ∃ ds, cs = ':' :: ds ∧ ∀ c ∈ ds, c.isDigit = true := by
  obtain ⟨ds, hcolon, h⟩ := Option.bind_eq_some_iff.mp h
  refine ⟨ds, eq_of_expect? hcolon, ?_⟩
  split at h
  · next n hread => exact isDigit_of_readNumber? hread
  · cases h

theorem readPort?_of_mem (hc : c ∈ cs) (hne : c ≠ ':') (hd : c.isDigit = false) :
    readPort? cs = none := by
  cases h : readPort? cs with
  | none => rfl
  | some p =>
    obtain ⟨ds, rfl, hds⟩ := isDigit_of_readPort? h
    rcases List.mem_cons.mp hc with hc | hc
    · exact absurd hc hne
    · simp [hds c hc] at hd

/-- A text with a host in brackets is a socket address exactly if the host is an IPv6 address. -/
theorem ofList?_bracketed (host port : List Char) :
    ofList? ('[' :: (host ++ ']' :: ':' :: port)) =
      (Ipv6.zoned? host).bind fun ip => (readPort? (':' :: port)).map fun p => ⟨.v6 ip, p⟩ := by
  have hv4 : ofV4? ('[' :: (host ++ ']' :: ':' :: port)) = none := by
    rw [ofV4?, Ipv4.read?_of_noDigit (noDigit_cons.mpr rfl)]
    rfl
  have hbar : Ipv6.Bars (']' :: ':' :: port) := ⟨noDigit_cons.mpr rfl, by simp, by simp⟩
  have hzone (r : List Char) := skipZone?_append (t := ']' :: ':' :: port) (noDigit_cons.mpr rfl)
    (by simp) r
  rw [ofList?, hv4, Option.orElse_none, ofV6?, expect?_cons_self]
  simp only [Option.bind_eq_bind, Option.bind_some, Ipv6.read?_append hbar, Option.bind_map,
    Ipv6.zoned?, Option.bind_assoc]
  congr 1
  funext r
  simp only [Function.comp, hzone, Option.bind_map]
  cases skipZone? r.2 with
  | none => rfl
  | some rest =>
    cases rest with
    | nil => simp [Option.map_eq_bind]
    | cons x rest =>
      by_cases hx : x = ']'
      · -- the bracket of the host is not the last one
        have hmore : readPort? (rest ++ ']' :: ':' :: port) = none :=
          readPort?_of_mem (c := ']') (by simp) (by decide) (by decide)
        simp [hx, hmore]
      · simp [expect?, hx]

/-- A text with one colon is a socket address exactly if an IPv4 address stands before it. -/
theorem ofList?_plain (hhost : ':' ∉ host) (hport : ':' ∉ port) :
    ofList? (host ++ ':' :: port) =
      (Ipv4.ofList? host).bind fun ip => (readPort? (':' :: port)).map fun p => ⟨.v4 ip, p⟩ := by
  have hcount : (host ++ ':' :: port).count ':' = 1 := by
    simp [List.count_eq_zero_of_not_mem hhost, List.count_eq_zero_of_not_mem hport]
  have hv6 : ofV6? (host ++ ':' :: port) = none := by
    cases h : ofV6? (host ++ ':' :: port) with
    | none => rfl
    | some s =>
      simp [ofV6?, Option.bind_eq_some_iff] at h
      obtain ⟨x, hx, ip, r, hr, z, hz, b, hb, p, hp, -⟩ := h
      obtain ⟨ds, rfl, -⟩ := isDigit_of_readPort? hp
      have hfront : x.count ':' = 1 := by
        rw [eq_of_expect? hx] at hcount
        simpa using hcount
      have hread := Ipv6.count_read? hr
      have hzone := (skipZone?_suffix hz).sublist.count_le ':'
      rw [eq_of_expect? hb] at hzone
      simp at hzone
      omega
  have hv4 : ofV4? (host ++ ':' :: port) =
      (Ipv4.ofList? host).bind fun ip => (readPort? (':' :: port)).map fun p => ⟨.v4 ip, p⟩ := by
    rw [ofV4?, Ipv4.read?_append (noDigit_cons.mpr rfl) (by simp), Ipv4.ofList?]
    cases hread : Ipv4.read? host with
    | none => rfl
    | some r =>
      obtain ⟨ip, rest⟩ := r
      cases rest with
      | nil => simp [Option.map_eq_bind]
      | cons x rest =>
        have hx : x ≠ ':' := by
          rintro rfl
          exact hhost (by simp [Ipv4.eq_of_read? hread])
        simp [readPort?, expect?, hx]
  rw [ofList?, hv6, ← hv4]
  cases ofV4? (host ++ ':' :: port) <;> rfl

end Socket

end TunnelDial
