import TunnelDial.Proofs.Text.Blank
import TunnelDial.Proxy.Basic

/-! What stands where in a locator. Who connects is read from the text before the last `@` of the
authority, and where to connect from the text behind it. -/
namespace TunnelDial

open Text

theorem bind_eq_ok {ε α β : Type} {x : Except ε α} {f : α → Except ε β} {b : β} :
    x >>= f = .ok b ↔ ∃ a, x = .ok a ∧ f a = .ok b := by
  cases x <;> simp [bind, Except.bind]

theorem bind_eq_error {ε α β : Type} {x : Except ε α} {f : α → Except ε β} {e : ε} :
    x >>= f = .error e ↔ x = .error e ∨ ∃ a, x = .ok a ∧ f a = .error e := by
  cases x <;> simp [bind, Except.bind]

namespace Locator

variable {scheme slashes who cs rest : List Char} {f : Family}

/-- What stands between the scheme's colon and the authority. -/
def Opens (scheme slashes : List Char) : Prop :=
  (family scheme = .web ∧ ∀ c ∈ slashes, c = '/' ∨ c = '\\') ∨
    (family scheme = .other ∧ slashes = ['/', '/'])

/-- What stands behind the slashes is the authority, unless a further slash does. -/
theorem parse_of_opens {authority : List Char}
    (hcs : scheme? (visible cs) = some (scheme, slashes ++ authority))
    (hopens : Opens scheme slashes)
    (hfirst : ∀ c ∈ authority.head?, endsAuthority (family scheme) c = false) :
    parse cs = ofAuthority scheme authority := by
  rw [parse, hcs]
  rcases hopens with ⟨hweb, hslashes⟩ | ⟨hother, rfl⟩
  · have hstop : ∀ c ∈ authority.head?, (c == '/' || c == '\\') = false := by
      intro c hc
      have hends := hfirst c hc
      rw [hweb] at hends
      simp [endsAuthority] at hends
      simp [hends]
    have hdrop : (slashes ++ authority).dropWhile (fun c => c == '/' || c == '\\') = authority := by
      rw [List.dropWhile_append_of_pos (by simpa using hslashes), dropWhile_of_head? hstop]
    dsimp only
    rw [hweb]
    dsimp only
    rw [hdrop]
  · dsimp only
    rw [hother]
    rfl

/-- No `@` stands in the authority at the front of the text. -/
def Nobody (f : Family) (cs : List Char) : Prop := '@' ∉ cs.takeWhile fun c => !endsAuthority f c

instance : Decidable (Nobody f cs) := inferInstanceAs (Decidable (¬_ ∈ _))

theorem cutUser_of_nobody (hcs : Nobody f cs) : cutUser f cs = (none, cs) := by
  rw [cutUser, cutLast?_of_not_mem hcs]

theorem endsAuthority_at (f : Family) : endsAuthority f '@' = false := by simp [endsAuthority]

theorem cutUser_append (hwho : ∀ c ∈ who, endsAuthority f c = false) (hcs : Nobody f cs) :
    cutUser f (who ++ '@' :: cs) = (some who, cs) := by
  have hauthority : (who ++ '@' :: cs).takeWhile (fun c => !endsAuthority f c) =
      who ++ '@' :: cs.takeWhile fun c => !endsAuthority f c := by
    rw [List.takeWhile_append_of_pos (by simpa using hwho),
      List.takeWhile_cons_of_pos (by simp [endsAuthority_at])]
  rw [cutUser, hauthority, cutLast?_append hcs]
  simp [List.drop_append]

/-- An authority without an `@` is the place alone. -/
theorem parse_place (hcs : scheme? (visible cs) = some (scheme, slashes ++ rest))
    (hopens : Opens scheme slashes)
    (hfirst : ∀ c ∈ rest.head?, endsAuthority (family scheme) c = false)
    (hrest : Nobody (family scheme) rest) :
    parse cs = place scheme rest >>= join scheme ([], none) := by
  rw [parse_of_opens hcs hopens hfirst, ofAuthority, cutUser_of_nobody hrest]
  rfl

/-- What stands before the last `@` names the user, and the place stands behind it. -/
theorem parse_user (hcs : scheme? (visible cs) = some (scheme, slashes ++ (who ++ '@' :: rest)))
    (hopens : Opens scheme slashes)
    (hwho : ∀ c ∈ who, endsAuthority (family scheme) c = false)
    (hrest : Nobody (family scheme) rest) :
    parse cs =
      if who = [] ∧ endsHere (family scheme) rest = true then .error .emptyHost
      else place scheme rest >>= join scheme (splitUser who) := by
  have hfirst : ∀ c ∈ (who ++ '@' :: rest).head?, endsAuthority (family scheme) c = false := by
    intro c hc
    cases who with
    | nil =>
      cases hc
      exact endsAuthority_at _
    | cons x xs =>
      cases hc
      exact hwho c List.mem_cons_self
  rw [parse_of_opens hcs hopens hfirst, ofAuthority, cutUser_append hwho hrest]
  simp

/-- The locator of a place with a host has the user as it is. -/
theorem join_of_host {user : List Char × Option (List Char)} {place : List Char × Option UInt16}
    (hhost : place.1 ≠ []) :
    join scheme user place = .ok ⟨scheme, user.1, user.2, place.1, place.2⟩ := by
  rw [join, if_neg (fun h => hhost h.1)]

theorem eq_of_join {user : List Char × Option (List Char)} {place : List Char × Option UInt16}
    {l : Locator} (h : join scheme user place = .ok l) :
    l = ⟨scheme, user.1, user.2, place.1, place.2⟩ := by
  rw [join] at h
  split at h
  · cases h
  · cases h
    rfl

end Locator

namespace Proxy

variable {raw : String} {l : Locator} {p : Proxy} {failure : Failure}

theorem parse_eq_ok {s : String} :
    parse s = .ok p ↔
      ∃ l, Locator.parse (trim s.toList) = .ok l ∧
        ofLocator (String.ofList (trim s.toList)) l = .ok p := by
  rw [parse]
  cases Locator.parse (trim s.toList) with
  | error fault => simp
  | ok l => simp

theorem credentialsOf_eq (l : Locator) :
    credentialsOf l =
      if l.user = [] then .ok none
      else decoded "username" l.user >>= fun username =>
        (l.password.elim (.ok "") (decoded "password")) >>= fun password =>
          .ok (some ⟨username, password⟩) := by
  rw [credentialsOf]
  by_cases hl : l.user = []
  · rw [if_pos hl, if_pos (by simpa using hl)]
    rfl
  · rw [if_neg hl, if_neg (by simpa using hl)]
    cases l.password <;> rfl

/-- What a proxy is made of. -/
theorem ofLocator_eq_ok :
    ofLocator raw l = .ok p ↔
      ∃ scheme credentials, Scheme.ofName? (String.ofList l.scheme) = some scheme ∧ l.host ≠ [] ∧
        credentialsOf l = .ok credentials ∧
        p = ⟨scheme, Address.ofHost (String.ofList l.host) (l.port.getD scheme.defaultPort),
          credentials⟩ := by
  rw [ofLocator]
  cases Scheme.ofName? (String.ofList l.scheme) with
  | none => simp
  | some scheme =>
    by_cases hhost : l.host = []
    · simp [hhost]
    · have hne : l.host.isEmpty = false := by simpa using hhost
      cases credentialsOf l with
      | error reason => simp [hne]
      | ok credentials => simp [hne, hhost, eq_comm]

end Proxy

end TunnelDial
