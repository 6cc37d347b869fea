import TunnelDial.Address.Basic
import TunnelDial.Http2.Authority
import TunnelDial.Proofs.Header.Valid
import TunnelDial.Proofs.Request.Lines

/-! What a proxy finds in the head of a request. -/
namespace TunnelDial

open Text

namespace Address

/-- A character that is no digit, bracket or colon is in the text of an address exactly if it is in
the host. -/
theorem mem_toText {a : Address} {c : Char} (hd : c.isDigit = false) (ho : c ≠ '[') (hc : c ≠ ']')
    (hcolon : c ≠ ':') : c ∈ a.toText.toList ↔ c ∈ a.host.toList := by
  have hport : c ∉ decimal a.port.toNat := fun hmem => by
    rw [Nat.isDigit_of_mem_toDigits (by decide) (by decide) hmem] at hd
    cases hd
  rw [toText, String.toList_ofList, toList]
  split <;> simp [ho, hc, hcolon, hport]

end Address

namespace ConnectRequest

variable {r : ConnectRequest}

/-- The first line. -/
def startLine (r : ConnectRequest) : Bytes :=
  Bytes.ofText ("CONNECT " ++ r.authority ++ " HTTP/1.1")

def hostLine (r : ConnectRequest) : Bytes := Bytes.ofText ("Host: " ++ r.authority)

/-- The line of one field. -/
def fieldText (f : HeaderName × Bytes) : Bytes := Bytes.ofChars f.1.title ++ [58, 32] ++ f.2

/-- The lines that are written, the empty one at the end. -/
def lines (r : ConnectRequest) : List Bytes :=
  r.startLine :: r.hostLine :: (sentFields r.headers).map fieldText ++ [[]]

theorem head_eq (r : ConnectRequest) : r.head = r.lines.flatMap (· ++ lineEnd) := by
  simp [head, lines, startLine, hostLine, fieldText, fieldLine, List.flatMap_map]

/-- Only the last line is empty. -/
theorem ne_nil_of_mem_dropLast {l : Bytes} (hl : l ∈ r.lines.dropLast) : l ≠ [] := by
  rw [lines, List.dropLast_concat] at hl
  rintro rfl
  simp [startLine, hostLine, fieldText, Bytes.ofText_eq] at hl

theorem unbroken_ofText {s : String} :
    Unbroken (Bytes.ofText s) ↔ '\r' ∉ s.toList ∧ '\n' ∉ s.toList := by
  have hr : 13 ∈ Bytes.ofText s ↔ '\r' ∈ s.toList := Bytes.mem_ofText '\r' (by decide) s
  have hn : 10 ∈ Bytes.ofText s ↔ '\n' ∈ s.toList := Bytes.mem_ofText '\n' (by decide) s
  rw [Unbroken, hr, hn]

theorem unbroken_fieldText {f : HeaderName × Bytes} (hn : f.1.IsToken)
    (hv : ∀ x ∈ f.2, isValueByte x = true) : Unbroken (fieldText f) := by
  have hname : ∀ c ∈ f.1.title, HeaderName.isToken c = true :=
    HeaderName.isToken_of_mem_titleFrom hn.2
  have htitle : Unbroken (Bytes.ofChars f.1.title) := by
    rw [Bytes.ofChars, unbroken_ofText, String.toList_ofList]
    exact ⟨fun hr => absurd (hname _ hr) (by decide), fun hn => absurd (hname _ hn) (by decide)⟩
  have hvalue : Unbroken f.2 :=
    ⟨fun hr => absurd (hv _ hr) (by decide), fun hn => absurd (hv _ hn) (by decide)⟩
  exact unbroken_append.mpr ⟨unbroken_append.mpr ⟨htitle, by decide⟩, hvalue⟩

/-- A proxy finds the lines that were written exactly if the authority has no line end in it. -/
theorem lines?_head_iff (hv : r.headers.Valid) :
    lines? r.head = some r.lines ↔ '\r' ∉ r.authority.toList ∧ '\n' ∉ r.authority.toList := by
  rw [lines?_eq_some, and_iff_right (head_eq r)]
  constructor
  · intro hall
    have hstart : Unbroken r.startLine := hall _ (by simp [lines])
    rw [startLine, unbroken_ofText] at hstart
    simpa using ⟨fun h => hstart.1 (by simp [h]), fun h => hstart.2 (by simp [h])⟩
  · rintro ⟨hr, hn⟩ l hl
    have hauthority {pre post : String} (hpre : Unbroken (Bytes.ofText pre))
        (hpost : Unbroken (Bytes.ofText post)) :
        Unbroken (Bytes.ofText (pre ++ r.authority ++ post)) := by
      rw [Bytes.ofText_append, Bytes.ofText_append, unbroken_append, unbroken_append]
      exact ⟨⟨hpre, unbroken_ofText.mpr ⟨hr, hn⟩⟩, hpost⟩
    rw [lines, List.mem_append, List.mem_cons, List.mem_cons, List.mem_map,
      List.mem_singleton] at hl
    rcases hl with (rfl | rfl | ⟨f, hf, rfl⟩) | rfl
    · exact hauthority (unbroken_ofText.mpr (by decide)) (unbroken_ofText.mpr (by decide))
    · have h := @hauthority "Host: " "" (unbroken_ofText.mpr (by decide))
        (unbroken_ofText.mpr (by decide))
      rwa [String.append_empty] at h
    · obtain ⟨hname, hvalue⟩ := hv.of_mem_toList (List.mem_filter.mp hf).1
      exact unbroken_fieldText hname hvalue
    · exact ⟨List.not_mem_nil, List.not_mem_nil⟩

/-- The first line has three words exactly if there is no blank in the authority. -/
theorem splitOn_startLine_iff :
    r.startLine.splitOn 32 =
        [Bytes.ofText "CONNECT", Bytes.ofText r.authority, Bytes.ofText "HTTP/1.1"] ↔
      ' ' ∉ r.authority.toList := by
  have hblank : 32 ∈ Bytes.ofText r.authority ↔ ' ' ∈ r.authority.toList :=
    Bytes.mem_ofText ' ' (by decide) _
  have hmethod : Bytes.ofText "CONNECT " = Bytes.ofText "CONNECT" ++ [32] := by
    simp only [Bytes.ofText_eq]
    decide
  have hversion : Bytes.ofText " HTTP/1.1" = 32 :: Bytes.ofText "HTTP/1.1" := by
    simp only [Bytes.ofText_eq]
    decide
  have hone : 32 ∉ Bytes.ofText "CONNECT" ∧ 32 ∉ Bytes.ofText "HTTP/1.1" := by
    simp only [Bytes.ofText_eq]
    decide
  have hsplit : r.startLine.splitOn 32 = Bytes.ofText "CONNECT" ::
      ((Bytes.ofText r.authority).splitOn 32 ++ [Bytes.ofText "HTTP/1.1"]) := by
    rw [startLine, Bytes.ofText_append, Bytes.ofText_append, hmethod, hversion, List.append_assoc,
      List.append_assoc, List.singleton_append, List.splitOn_append_cons_self_of_not_mem hone.1,
      List.splitOn_append_cons_self, List.splitOn_eq_singleton hone.2]
  rw [hsplit, ← hblank]
  constructor
  · intro h hmem
    obtain ⟨xs, ys, hxy⟩ := List.append_of_mem hmem
    -- a blank cuts the authority in two parts at least
    have hx := List.length_pos_iff.mpr (List.splitOn_ne_nil 32 xs)
    have hy := List.length_pos_iff.mpr (List.splitOn_ne_nil 32 ys)
    have hlen := congrArg List.length h
    rw [hxy, List.splitOn_append_cons_self] at hlen
    simp at hlen
    omega
  · intro h
    rw [List.splitOn_eq_singleton h]
    rfl

end ConnectRequest

/-- The head of a request for an address consists of the lines that are written into it, the first
one of three words, exactly if there is no line end and no blank in the host; and no line but the
last is empty. -/
theorem Address.head_lines_iff (a : Address) {h : Headers} (hv : h.Valid) :
    let r : ConnectRequest := ⟨a.toText, h⟩
    (∀ l ∈ r.lines.dropLast, l ≠ []) ∧
      (lines? r.head = some r.lines ∧
        r.startLine.splitOn 32 =
          [Bytes.ofText "CONNECT", Bytes.ofText a.toText, Bytes.ofText "HTTP/1.1"] ↔
        ∀ c ∈ a.host.toList, c ≠ '\r' ∧ c ≠ '\n' ∧ c ≠ ' ') := by
  intro r
  refine ⟨fun l => ConnectRequest.ne_nil_of_mem_dropLast, ?_⟩
  rw [ConnectRequest.lines?_head_iff hv, ConnectRequest.splitOn_startLine_iff]
  have hchar (c : Char) (hd : c.isDigit = false ∧ c ≠ '[' ∧ c ≠ ']' ∧ c ≠ ':') :
      c ∈ r.authority.toList ↔ c ∈ a.host.toList := mem_toText hd.1 hd.2.1 hd.2.2.1 hd.2.2.2
  rw [hchar '\r' (by decide), hchar '\n' (by decide), hchar ' ' (by decide)]
  constructor
  · rintro ⟨⟨hr, hn⟩, hb⟩ c hc
    refine ⟨?_, ?_, ?_⟩ <;> rintro rfl <;> contradiction
  · intro hall
    exact ⟨⟨fun hr => (hall _ hr).1 rfl, fun hn => (hall _ hn).2.1 rfl⟩,
      fun hb => (hall _ hb).2.2 rfl⟩

theorem Address.head_lines_plain :
    let h : Headers := ⟨[⟨⟨"x-a".toList⟩, [49, 32, 50], [[51]]⟩]⟩
    let r : ConnectRequest := ⟨"example.org:443", h⟩
    Headers.ofPairs [([88, 45, 65], [49, 32, 50]), ([120, 45, 97], [51])] = .ok h ∧
      lines? r.head = some r.lines ∧ r.lines.length = 5 := by
  intro h r
  have hbuilt : Headers.ofPairs [([88, 45, 65], [49, 32, 50]), ([120, 45, 97], [51])] = .ok h := rfl
  have hhost : ∀ c ∈ "example.org".toList, c ≠ '\r' ∧ c ≠ '\n' ∧ c ≠ ' ' := by simp
  have hlines := (Address.head_lines_iff ⟨"example.org", 443⟩ (Headers.valid_ofPairs hbuilt)).2
  exact ⟨hbuilt, (hlines.mpr hhost).1, rfl⟩

/-- A host with a line end makes a header field of what follows it. HTTP/2 refuses that host. -/
theorem Address.head_lines_broken :
    let a : Address := ⟨"a\r\nX: y", 80⟩
    parse "[a\r\nX: y]:80" = .ok a ∧ ofHost "a\r\nX: y" 80 = a ∧
      lines? (ConnectRequest.head ⟨a.toText, .empty⟩) =
        some (["CONNECT [a", "X: y]:80 HTTP/1.1", "Host: [a", "X: y]:80", ""].map Bytes.ofText) ∧
      Http2.Authority.check a.toText = .error .char := by
  refine ⟨rfl, rfl, ?_, ?_⟩
  · rw [ConnectRequest.head_eq]
    simp only [ConnectRequest.lines, ConnectRequest.startLine, ConnectRequest.hostLine,
      Bytes.ofText_eq, List.map]
    decide
  · rw [Http2.Authority.check, Bytes.ofText_eq]
    rfl

end TunnelDial
