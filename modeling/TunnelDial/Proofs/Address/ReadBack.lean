import Mathlib.Data.List.Basic
import TunnelDial.Address.Basic
import TunnelDial.Proofs.Address.Socket
import TunnelDial.Proofs.Text.Blank

/-! Which addresses are read back from their own text: exactly those whose host stands in the form
that reading gives. Brackets within brackets do not, nor does a spelling that only the second reader
lets through. -/
namespace TunnelDial

open Text

namespace Address

variable {a : Address} {s : String} {host port : List Char}

theorem unbracket_of_head? (h : host.head? ≠ some '[') : unbracket host = host := by
  unfold unbracket
  split
  · exact absurd rfl h
  · rfl

@[simp] theorem unbracket_brackets (host : List Char) :
    unbracket ('[' :: (host ++ [']'])) = host := by
  simp [unbracket]

/-- Brackets fall away only as a pair. -/
theorem unbracket_cases (host : List Char) :
    unbracket host = host ∨ host = '[' :: (unbracket host ++ [']']) := by
  unfold unbracket
  split
  · next r =>
    split
    · next h => exact .inr (congrArg _ (List.dropLast_append_getLast? _ h).symm)
    · exact .inl rfl
  · exact .inl rfl

theorem length_unbracket_le (host : List Char) : (unbracket host).length ≤ host.length := by
  rcases unbracket_cases host with h | h
  · exact Nat.le_of_eq (congrArg List.length h)
  · have hlen := congrArg List.length h
    simp only [List.length_cons, List.length_append] at hlen
    omega

/-- A host in brackets is read as the address that it spells, else as it stands. -/
theorem read_bracketed (host : List Char) (p : UInt16) :
    read ('[' :: (host ++ ']' :: ':' :: decimal p.toNat)) =
      .ok ⟨String.ofList (((Ipv6.zoned? host).map Ipv6.toList).getD host), p⟩ := by
  rw [read, Socket.ofList?_bracketed, Socket.readPort?_decimal]
  cases Ipv6.zoned? host with
  | some ip => rfl
  | none =>
    have hcut : cutLast? ':' ('[' :: (host ++ ']' :: ':' :: decimal p.toNat)) =
        some ('[' :: (host ++ [']']), decimal p.toNat) := by
      have h := cutLast?_append (colon_not_mem_decimal p.toNat) ('[' :: (host ++ [']']))
      simpa using h
    simp [hcut, port?_decimal, ofHost]

/-- A host without a colon is read as it stands. -/
theorem read_plain (hcolon : ':' ∉ host) (p : UInt16) :
    read (host ++ ':' :: decimal p.toNat) =
      if host = [] then .error .missingHost else .ok (ofHost (String.ofList host) p) := by
  rw [read, Socket.ofList?_plain hcolon (colon_not_mem_decimal p.toNat), Socket.readPort?_decimal]
  cases hip : Ipv4.ofList? host with
  | some ip =>
    obtain rfl := Ipv4.eq_of_ofList? hip
    have hopen : ip.toList.head? ≠ some '[' := ip.head?_toList_ne rfl
    simp [ip.toList_ne_nil, ofHost, ofSocket, unbracket_of_head? hopen, Ip.toText, Ip.toList]
  | none =>
    simp [cutLast?_append (colon_not_mem_decimal p.toNat), port?_decimal, hcolon]

/-- What comes of printing an address and reading the text: a host in brackets is spelled as the
address that it names, another one loses the white space in front of it and a pair of brackets. -/
theorem parse_toText (a : Address) :
    parse a.toText =
      if ':' ∈ a.host.toList then
        .ok ⟨String.ofList (((Ipv6.zoned? a.host.toList).map Ipv6.toList).getD a.host.toList), a.port⟩
      else if a.host.toList.dropWhile isBlank = [] then .error .missingHost
      else .ok (ofHost (String.ofList (a.host.toList.dropWhile isBlank)) a.port) := by
  have hlast (front : List Char) : ∀ c ∈ (front ++ ':' :: decimal a.port.toNat).getLast?,
      isBlank c = false := by
    intro c hc
    rw [List.getLast?_append_cons, List.getLast?_cons_of_ne_nil (decimal_ne_nil _)] at hc
    exact isBlank_of_isDigit (isDigit_of_mem_decimal (List.mem_of_getLast? hc))
  rw [parse, toText, String.toList_ofList, toList]
  split
  · next hcolon =>
    have htext : '[' :: (a.host.toList ++ ']' :: ':' :: decimal a.port.toNat) =
        ('[' :: (a.host.toList ++ [']'])) ++ ':' :: decimal a.port.toNat := by simp
    rw [trim_of_ends (by simp [isBlank]) (htext ▸ hlast _), read_bracketed]
  · next hcolon =>
    have hfront : (a.host.toList ++ ':' :: decimal a.port.toNat).dropWhile isBlank =
        a.host.toList.dropWhile isBlank ++ ':' :: decimal a.port.toNat := by
      rw [List.dropWhile_append]
      split
      · next hempty =>
        rw [List.isEmpty_iff.mp hempty, List.nil_append, dropWhile_of_head? (by simp [isBlank])]
      · rfl
    have hmem : ':' ∉ a.host.toList.dropWhile isBlank := fun h =>
      hcolon ((List.dropWhile_sublist isBlank).mem h)
    rw [trim, hfront, dropTrailing_of_getLast? (hlast _), read_plain hmem]

/-- The host stands in the form in which it is read back: it is not empty, without a colon no white
space stands before it and no brackets stand around it, and as an IPv6 address it is spelled the
standard way and names no zone. -/
structure Settled (a : Address) : Prop where
  named : a.host ≠ ""
  bare : ':' ∉ a.host.toList →
    (∀ c ∈ a.host.toList.head?, isBlank c = false) ∧ unbracket a.host.toList = a.host.toList
  spelled : ':' ∈ a.host.toList → ∀ ip, Ipv6.zoned? a.host.toList = some ip →
    ip.toList = a.host.toList

/-- Exactly the settled addresses are read back from their text. -/
theorem parse_toText_eq_iff (a : Address) : parse a.toText = .ok a ↔ a.Settled := by
  obtain ⟨host, port⟩ := a
  have hempty : host = "" ↔ host.toList = [] := String.toList_eq_nil_iff.symm
  have hlist (cs : List Char) : String.ofList cs = host ↔ cs = host.toList := by
    rw [← String.toList_inj, String.toList_ofList]
  rw [parse_toText]
  by_cases hcolon : ':' ∈ host.toList
  · have hne : host.toList ≠ [] := List.ne_nil_of_mem hcolon
    simp only [hcolon, if_true, Except.ok.injEq, Address.mk.injEq, and_true, hlist]
    constructor
    · intro h
      refine ⟨hempty.not.mpr hne, fun hbare => absurd hcolon hbare, fun _ ip hip => ?_⟩
      simpa [hip] using h
    · intro h
      cases hip : Ipv6.zoned? host.toList with
      | none => rfl
      | some ip => exact h.spelled hcolon ip hip
  · simp only [hcolon, if_false]
    constructor
    · intro h
      split at h
      · cases h
      · next hne =>
        simp only [ofHost, String.toList_ofList, Except.ok.injEq, Address.mk.injEq, and_true,
          hlist] at h
        -- neither step made the host shorter
        have hcut := (List.dropWhile_suffix (l := host.toList) isBlank)
        have hshort := length_unbracket_le (host.toList.dropWhile isBlank)
        rw [h] at hshort
        have hdrop := hcut.eq_of_length_le hshort
        have hfirst := List.head?_dropWhile_not isBlank host.toList
        rw [hdrop] at h hfirst hne
        refine ⟨hempty.not.mpr hne, fun _ => ⟨?_, h⟩, fun hc => absurd hc hcolon⟩
        intro c hc
        rw [hc] at hfirst
        simpa using hfirst
    · intro h
      obtain ⟨hfirst, hun⟩ := h.bare hcolon
      rw [dropWhile_of_head? hfirst, if_neg (hempty.not.mp h.named)]
      simp [ofHost, hun]

/-- A plain host is settled. -/
theorem settled_of_plain {host : String} (hne : host ≠ "")
    (hfirst : ∀ c ∈ host.toList.head?, isBlank c = false) (hcolon : ':' ∉ host.toList)
    (hopen : host.toList.head? ≠ some '[') (port : UInt16) :
    (⟨host, port⟩ : Address).Settled :=
  ⟨hne, fun _ => ⟨hfirst, unbracket_of_head? hopen⟩, fun h => absurd h hcolon⟩

theorem settled_ofSocket (s : Socket) : (ofSocket s).Settled := by
  obtain ⟨ip, port⟩ := s
  cases ip with
  | v4 ip =>
    have hlist : (Ip.v4 ip).toText.toList = ip.toList := String.toList_ofList
    refine settled_of_plain (fun hnil => ip.toList_ne_nil ?_) (fun c hc => ?_) ?_ ?_ port
    · rw [← hlist, hnil]
      rfl
    · rw [hlist] at hc
      exact isBlank_of_isDigit (ip.isDigit_head?_toList c hc)
    · rw [hlist]
      exact ip.colon_not_mem_toList
    · rw [hlist]
      exact ip.head?_toList_ne rfl
  | v6 ip =>
    have hlist : (ofSocket ⟨.v6 ip, port⟩).host.toList = ip.toList := String.toList_ofList
    refine ⟨fun hnil => ?_, fun hbare => ?_, fun _ ip' hip => ?_⟩
    · have hcolon := ip.colon_mem_toList
      rw [← hlist, hnil] at hcolon
      cases hcolon
    · rw [hlist] at hbare
      exact absurd ip.colon_mem_toList hbare
    · rw [hlist, Ipv6.zoned?_toList] at hip
      rw [hlist, Option.some.inj hip]

/-- A text is read as a socket address or, if it is none, is cut before the port. -/
theorem parse_cases (h : parse s = .ok a) :
    (∃ sock, a = ofSocket sock) ∨
      ∃ host port p, trim s.toList = host ++ ':' :: port ∧
        Socket.ofList? (trim s.toList) = none ∧ host ≠ [] ∧
        (':' ∈ host → host.head? = some '[') ∧ port? port = some p ∧
        a = ofHost (String.ofList host) p := by
  rw [parse, read] at h
  split at h
  · next sock _ =>
    cases h
    exact .inl ⟨sock, rfl⟩
  · next hsocket =>
    split at h
    · cases h
    · next host port hcut =>
      split at h
      · cases h
      · next hne =>
        split at h
        · cases h
        · next hopen =>
          split at h
          · cases h
          · next p hport =>
            cases h
            refine .inr ⟨host, port, p, eq_of_cutLast? hcut, hsocket, hne, fun hcolon => ?_, hport,
              rfl⟩
            by_contra hhead
            exact hopen ⟨hcolon, hhead⟩

/-- A host that is read as it stands is settled. -/
theorem settled_of_unbracket_eq (hne : host ≠ []) (hfirst : ∀ c ∈ host.head?, isBlank c = false)
    (hopen : ':' ∈ host → host.head? = some '[') (hun : unbracket host = host) (p : UInt16) :
    (ofHost (String.ofList host) p).Settled := by
  have hlist : (ofHost (String.ofList host) p).host.toList = host := by simp [ofHost, hun]
  refine ⟨fun hnil => ?_, fun _ => ?_, fun hcolon ip hip => ?_⟩
  · rw [hnil] at hlist
    exact hne hlist.symm
  · rw [hlist]
    exact ⟨hfirst, hun⟩
  · rw [hlist] at hcolon hip
    have hnone : Ipv6.read? host = none := by
      obtain ⟨rest, rfl⟩ := List.head?_eq_some_iff.mp (hopen hcolon)
      exact Ipv6.read?_of_head? (noDigit_cons.mpr rfl) (by simp)
    simp [Ipv6.zoned?, hnone] at hip

/-- The standard reader takes no plus sign, so only with one can a host in brackets be left that is
spelled another way. -/
theorem head?_port_of_spelled {ip : Ipv6} {p : UInt16} (hip : Ipv6.zoned? host = some ip)
    (hport : port? port = some p)
    (hsocket : Socket.ofList? ('[' :: (host ++ ']' :: ':' :: port)) = none) :
    port.head? = some '+' := by
  by_contra hplus
  rw [port?, decimal?_of_unsigned hplus] at hport
  rw [Socket.ofList?_bracketed, hip] at hsocket
  cases hread : readNumber? 10 65536 port with
  | none => simp [hread] at hport
  | some r =>
    obtain ⟨n, rest⟩ := r
    cases rest with
    | nil => simp [Socket.readPort?, hread] at hsocket
    | cons c rest => simp [hread] at hport

/-- What is read from a text is read back from its own text exactly if it is settled, and it is
settled unless the text has the host in brackets; for a host with a colon, a plus sign stands before
the port as well. -/
theorem parse_toText_of_parse (h : parse s = .ok a) :
    (parse a.toText = .ok a ↔ a.Settled) ∧
      (¬a.Settled → ∃ port, trim s.toList = '[' :: (a.host.toList ++ ']' :: ':' :: port) ∧
        (':' ∈ a.host.toList → port.head? = some '+')) := by
  refine ⟨parse_toText_eq_iff a, fun hloose => ?_⟩
  rcases parse_cases h with ⟨sock, rfl⟩ | ⟨host, port, p, htext, hsocket, hne, hopen, hport, rfl⟩
  · exact absurd (settled_ofSocket sock) hloose
  · have hfirst : ∀ c ∈ host.head?, isBlank c = false := by
      intro c hc
      have hhead := head?_trim s.toList
      rw [htext, List.head?_append, hc] at hhead
      exact hhead c rfl
    rcases unbracket_cases host with hun | hbrackets
    · exact absurd (settled_of_unbracket_eq hne hfirst hopen hun p) hloose
    · have hlist : (ofHost (String.ofList host) p).host.toList = unbracket host := by simp [ofHost]
      have hwhole : trim s.toList = '[' :: (unbracket host ++ ']' :: ':' :: port) := by
        rw [htext]
        nth_rewrite 1 [hbrackets]
        simp
      rw [hlist]
      refine ⟨port, hwhole, fun hcolon => ?_⟩
      by_contra hplus
      refine hloose ⟨fun hnil => ?_, fun hbare => ?_, fun _ ip hip => ?_⟩
      · rw [hnil] at hlist
        simp [← hlist] at hcolon
      · rw [hlist] at hbare
        exact absurd hcolon hbare
      · rw [hlist] at hip
        exact absurd (head?_port_of_spelled hip hport (hwhole ▸ hsocket)) hplus

/-- The brackets of a host within brackets are lost. -/
theorem parse_toText_of_parse_brackets :
    parse "[[a]]:80" = .ok ⟨"[a]", 80⟩ ∧ ¬(⟨"[a]", 80⟩ : Address).Settled ∧
      parse (⟨"[a]", 80⟩ : Address).toText = .ok ⟨"a", 80⟩ := by
  have h : parse "[[a]]:80" = .ok ⟨"[a]", 80⟩ := rfl
  have hback : parse (⟨"[a]", 80⟩ : Address).toText = .ok ⟨"a", 80⟩ := rfl
  have hloose : ¬(⟨"[a]", 80⟩ : Address).Settled := fun hsettled => by
    have heq := (parse_toText_of_parse h).1.mpr hsettled
    rw [hback] at heq
    exact absurd (Except.ok.inj heq) (by decide)
  exact ⟨h, hloose, hback⟩

/-- Accepted addresses that are lost when they are printed: no host is left, brackets were taken for
a part of it, or it is spelled the standard way. -/
theorem parse_toText_lost :
    (parse "[]:80" = .ok ⟨"", 80⟩ ∧ parse (⟨"", 80⟩ : Address).toText = .error .missingHost) ∧
      (parse "[[a]]:80" = .ok ⟨"[a]", 80⟩ ∧
        parse (⟨"[a]", 80⟩ : Address).toText = .ok ⟨"a", 80⟩) ∧
      (parse "[0:0::1]:+80" = .ok ⟨"0:0::1", 80⟩ ∧
        parse (⟨"0:0::1", 80⟩ : Address).toText = .ok ⟨"::1", 80⟩) :=
  ⟨⟨rfl, rfl⟩, ⟨rfl, rfl⟩, rfl, rfl⟩

/-- Well-formed addresses are read back from their text: those of the socket addresses, which give
their IP address and port back, and those of a plain host, a dotted IPv4 address among them. -/
theorem wellFormed_read_back :
    (∀ s : SocketAddress, parse (ofSocketAddress s).toText = .ok (ofSocketAddress s) ∧
      (ofSocketAddress s).socketAddress? = some (.ofSocket s.socket)) ∧
    ∀ (host : String) (port : UInt16), host ≠ "" → trim host.toList = host.toList →
      ':' ∉ host.toList → host.toList.head? ≠ some '[' →
      parse (ofHost host port).toText = .ok ⟨host, port⟩ := by
  refine ⟨fun s => ⟨?_, ?_⟩, fun host port hne htrim hcolon hopen => ?_⟩
  · exact (parse_toText_eq_iff _).mpr (settled_ofSocket s.socket)
  · simp [socketAddress?, socket?, ip?, ofSocketAddress, ofSocket, Ip.toText, Ip.ofList?_toList]
  · have hplain : ofHost host port = ⟨host, port⟩ := by simp [ofHost, unbracket_of_head? hopen]
    have hfirst : ∀ c ∈ host.toList.head?, isBlank c = false := htrim ▸ head?_trim host.toList
    rw [hplain]
    exact (parse_toText_eq_iff _).mpr (settled_of_plain hne hfirst hcolon hopen port)

theorem wellFormed_read_back_dotted :
    parse (ofHost "192.168.1.1" 8080).toText = .ok ⟨"192.168.1.1", 8080⟩ :=
  wellFormed_read_back.2 "192.168.1.1" 8080 (by decide) rfl (by decide) (by decide)

end Address

end TunnelDial
