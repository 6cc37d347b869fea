import Mathlib.Data.List.Basic
import TunnelDial.Lease.Ledger
import TunnelDial.Tunnel.Mux

/-! Counting in the ledger: what each operation does to the holders of every group, and that a group
is closed exactly when nobody holds it, once. Only as its sole holder does a tunnel close its
transport. -/
namespace TunnelDial
namespace Ledger

variable {l : Ledger} {g g' : Nat}

theorem group_update (l : Ledger) (g g' : Nat) (f : LeaseGroup → LeaseGroup) :
    (l.update g f).group g' =
      if g = g' ∧ g < l.groups.length then f (l.group g') else l.group g' := by
  by_cases hlt : g' < l.groups.length
  · by_cases he : g = g'
    · subst he
      simp [group, update, List.getD_eq_getElem?_getD, hlt]
    · simp [group, update, List.getD_eq_getElem?_getD, hlt, he]
  · have hnone : l.groups[g']? = none := List.getElem?_eq_none (by omega)
    have hno : ¬(g = g' ∧ g < l.groups.length) := by rintro ⟨rfl, h⟩; exact hlt h
    rw [if_neg hno]
    simp [group, update, List.getD_eq_getElem?_getD, List.getElem?_modify, hnone]

theorem group_update_of_lt (hlt : g < l.groups.length) (g' : Nat) (f : LeaseGroup → LeaseGroup) :
    (l.update g f).group g' = if g = g' then f (l.group g') else l.group g' := by
  simp [group_update, hlt]

theorem lt_of_holders_pos (h : 0 < l.holders g) : g < l.groups.length := by
  by_contra hge
  have hnone : l.groups[g]? = none := List.getElem?_eq_none (by omega)
  simp [holders, group, List.getD_eq_getElem?_getD, hnone] at h

@[simp] theorem length_update (l : Ledger) (g : Nat) (f : LeaseGroup → LeaseGroup) :
    (l.update g f).groups.length = l.groups.length := by simp [update]

@[simp] theorem closings_update (l : Ledger) (g : Nat) (f : LeaseGroup → LeaseGroup) :
    (l.update g f).closings = l.closings := rfl

@[simp] theorem length_retain (l : Ledger) (g : Nat) :
    (l.retain g).groups.length = l.groups.length := length_update ..

@[simp] theorem closings_retain (l : Ledger) (g : Nat) : (l.retain g).closings = l.closings := rfl

@[simp] theorem length_close (l : Ledger) (g : Nat) :
    (l.close g).groups.length = l.groups.length := by
  unfold close
  split <;> simp

@[simp] theorem length_release (l : Ledger) (g : Nat) :
    (l.release g).groups.length = l.groups.length := by
  unfold release
  dsimp only
  split <;> simp

@[simp] theorem length_issue (l : Ledger) (t : Nat) :
    (l.issue t).1.groups.length = l.groups.length + 1 := by simp [issue]

@[simp] theorem closings_issue (l : Ledger) (t : Nat) : (l.issue t).1.closings = l.closings := rfl

@[simp] theorem issue_number (l : Ledger) (t : Nat) : (l.issue t).2 = l.groups.length := rfl

theorem group_issue (l : Ledger) (t g : Nat) :
    (l.issue t).1.group g = if l.groups.length = g then ⟨t, 1, false⟩ else l.group g := by
  by_cases he : l.groups.length = g
  · subst he
    simp [issue, group, List.getD_eq_getElem?_getD]
  · rw [if_neg he]
    by_cases hlt : g < l.groups.length
    · simp [issue, group, List.getD_eq_getElem?_getD, List.getElem?_append_left, hlt]
    · simp only [issue, group, List.getD_eq_getElem?_getD]
      rw [List.getElem?_eq_none (by simp; omega), List.getElem?_eq_none (by omega)]

theorem holders_issue (l : Ledger) (t g : Nat) :
    (l.issue t).1.holders g = l.holders g + if l.groups.length = g then 1 else 0 := by
  rw [holders, group_issue]
  split
  · rename_i he
    have h0 : ¬0 < l.holders g := fun h => by have := lt_of_holders_pos h; omega
    simp [holders] at h0 ⊢
    exact h0
  · rfl

theorem holders_retain (h : 0 < l.holders g) (g' : Nat) :
    (l.retain g).holders g' = l.holders g' + if g = g' then 1 else 0 := by
  rw [holders, retain, group_update_of_lt (lt_of_holders_pos h)]
  split <;> rfl

@[simp] theorem holders_close (l : Ledger) (g g' : Nat) :
    (l.close g).holders g' = l.holders g' := by
  unfold close
  split
  · rfl
  · change ((l.update g _).group g').holders = _
    rw [group_update]
    split <;> rfl

theorem holders_release (h : 0 < l.holders g) (g' : Nat) :
    (l.release g).holders g' + (if g = g' then 1 else 0) = l.holders g' := by
  have hlt := lt_of_holders_pos h
  have hu : (l.update g fun x => { x with holders := x.holders - 1 }).holders g' =
      l.holders g' - if g = g' then 1 else 0 := by
    rw [holders, group_update_of_lt hlt]
    split <;> rfl
  have hr : (l.release g).holders g' =
      (l.update g fun x => { x with holders := x.holders - 1 }).holders g' := by
    unfold release
    dsimp only
    split <;> simp
  rw [hr, hu]
  by_cases he : g = g'
  · subst he
    simp
    omega
  · simp [he]

/-- Nobody holds a group exactly when its transport was closed, and no transport is closed twice
through one group. -/
structure Tidy (l : Ledger) : Prop where
  closed_iff : ∀ g, l.isClosed g = true ↔ l.holders g = 0
  nodup : l.closings.Nodup
  mem_closings : ∀ g, g ∈ l.closings ↔ g < l.groups.length ∧ l.holders g = 0

theorem tidy_empty : Tidy empty where
  closed_iff g := by simp [isClosed, holders, group, empty]
  nodup := List.nodup_nil
  mem_closings g := by simp [empty]

theorem Tidy.not_closed (ht : l.Tidy) (h : 0 < l.holders g) : l.isClosed g = false := by
  rw [← Bool.not_eq_true, ht.closed_iff]
  omega

theorem Tidy.issue (ht : l.Tidy) (t : Nat) : (l.issue t).1.Tidy where
  closed_iff g := by
    rw [isClosed, holders, group_issue]
    split
    · simp
    · exact ht.closed_iff g
  nodup := ht.nodup
  mem_closings g := by
    rw [closings_issue, ht.mem_closings, length_issue, holders_issue]
    split <;> omega

theorem Tidy.retain (ht : l.Tidy) (h : 0 < l.holders g) : (l.retain g).Tidy where
  closed_iff g' := by
    have hc : (l.retain g).isClosed g' = l.isClosed g' := by
      rw [isClosed, Ledger.retain, group_update]
      split <;> rfl
    rw [hc, ht.closed_iff, holders_retain h]
    split
    · rename_i he
      subst he
      omega
    · rfl
  nodup := ht.nodup
  mem_closings g' := by
    rw [closings_retain, ht.mem_closings, length_retain, holders_retain h]
    split
    · rename_i he
      subst he
      omega
    · rfl

theorem isClosed_close (hlt : g < l.groups.length) (g' : Nat) :
    (l.close g).isClosed g' = (l.isClosed g' || g == g') := by
  unfold close
  split
  · rename_i hc
    by_cases he : g = g'
    · subst he
      simp [hc]
    · simp [he]
  · change ((l.update g _).group g').closed = _
    rw [group_update_of_lt hlt]
    by_cases he : g = g' <;> simp [he, isClosed]

/-- The last lease of a group closes its transport, and no other does. -/
theorem Tidy.closings_release (ht : l.Tidy) (h : 0 < l.holders g) :
    (l.release g).closings = if l.holders g = 1 then g :: l.closings else l.closings := by
  have hlt := lt_of_holders_pos h
  have hopen := ht.not_closed h
  have hu : (l.update g fun x => { x with holders := x.holders - 1 }).group g =
      { l.group g with holders := l.holders g - 1 } := by
    rw [group_update_of_lt hlt, if_pos rfl]
    rfl
  unfold release
  dsimp only
  by_cases h1 : l.holders g = 1
  · have h0 : (l.update g fun x => { x with holders := x.holders - 1 }).holders g = 0 := by
      rw [holders, hu]
      simp [h1]
    have hc : (l.update g fun x => { x with holders := x.holders - 1 }).isClosed g = false := by
      rw [isClosed, hu]
      exact hopen
    rw [if_pos h0, if_pos h1, close, if_neg (by simp [hc])]
    rfl
  · have h0 : (l.update g fun x => { x with holders := x.holders - 1 }).holders g ≠ 0 := by
      rw [holders, hu]
      simp
      omega
    rw [if_neg h0, if_neg h1]
    rfl

theorem isClosed_release (h : 0 < l.holders g) (g' : Nat) :
    (l.release g).isClosed g' = (l.isClosed g' || (g == g' && l.holders g == 1)) := by
  have hlt := lt_of_holders_pos h
  have hu : (l.update g fun x => { x with holders := x.holders - 1 }).isClosed g' =
      l.isClosed g' := by
    rw [isClosed, group_update_of_lt hlt]
    split <;> rfl
  have hh : (l.update g fun x => { x with holders := x.holders - 1 }).holders g =
      l.holders g - 1 := by
    rw [holders, group_update_of_lt hlt, if_pos rfl]
    rfl
  unfold release
  dsimp only
  by_cases h1 : l.holders g = 1
  · rw [if_pos (by rw [hh]; omega), isClosed_close (by simpa using hlt), hu]
    simp [h1]
  · rw [if_neg (by rw [hh]; omega), hu]
    simp [h1]

theorem Tidy.release (ht : l.Tidy) (h : 0 < l.holders g) : (l.release g).Tidy := by
  have hh := holders_release h
  have hc := ht.closings_release h
  refine ⟨fun g' => ?_, ?_, fun g' => ?_⟩
  · have hg' := hh g'
    rw [isClosed_release h, Bool.or_eq_true, ht.closed_iff]
    by_cases he : g = g'
    · subst he
      simp at hg' ⊢
      omega
    · simp [he] at hg' ⊢
      omega
  · rw [hc]
    split
    · refine List.nodup_cons.mpr ⟨?_, ht.nodup⟩
      rw [ht.mem_closings]
      omega
    · exact ht.nodup
  · have hg' := hh g'
    have hlt := lt_of_holders_pos h
    rw [hc, length_release]
    by_cases h1 : l.holders g = 1
    · rw [if_pos h1, List.mem_cons, ht.mem_closings]
      by_cases he : g = g'
      · subst he
        simp at hg' ⊢
        omega
      · simp [he, Ne.symm he] at hg' ⊢
        omega
    · rw [if_neg h1, ht.mem_closings]
      by_cases he : g = g'
      · subst he
        simp at hg'
        omega
      · simp [he] at hg'
        omega

/-- To close the transport first makes no difference to the return of the only lease. -/
theorem Tidy.release_close (ht : l.Tidy) (h : l.holders g = 1) :
    (l.close g).release g = l.release g := by
  have hlt : g < l.groups.length := lt_of_holders_pos (by omega)
  have hopen := ht.not_closed (show 0 < l.holders g by omega)
  let fewer : LeaseGroup → LeaseGroup := fun x => { x with holders := x.holders - 1 }
  let shut : LeaseGroup → LeaseGroup := fun x => { x with closed := true }
  have hclose (k : Ledger) (hk : k.isClosed g = false) :
      k.close g = ⟨k.groups.modify g shut, g :: k.closings⟩ := by
    rw [close, if_neg (by simp [hk])]
    rfl
  have hdrop (k : Ledger) (hk : k.groups.length = l.groups.length) (hh : k.holders g = 1) :
      k.release g = (k.update g fewer).close g := by
    have h0 : (k.update g fewer).holders g = 0 := by
      rw [holders, group_update_of_lt (by omega), if_pos rfl]
      change k.holders g - 1 = 0
      omega
    exact if_pos h0
  rw [hdrop (l.close g) (length_close l g) (by simpa using h), hdrop l rfl h]
  -- the left side finds the group closed, the right side closes it now
  have hleft : ((l.close g).update g fewer).isClosed g = true := by
    rw [isClosed, group_update_of_lt (by simpa using hlt), if_pos rfl]
    change (l.close g).isClosed g = true
    simp [isClosed_close hlt]
  have hright : (l.update g fewer).isClosed g = false := by
    rw [isClosed, group_update_of_lt hlt, if_pos rfl]
    exact hopen
  rw [hclose _ hright, hclose l hopen, close, if_pos (by rw [← hclose l hopen]; exact hleft)]
  simp only [update, List.modify_modify_eq, Function.comp_def]
  rfl

end Ledger

/-- What one event may do to the ledger, when it reaches the leases of the groups in `P`. -/
inductive Ledger.Change (P : Nat → Prop) (l : Ledger) : Ledger → Prop
  | none : Change P l l
  | started (t : Nat) : Change P l (l.issue t).1
  | issued (t : Nat) : Change P l ((l.issue t).1.retain l.groups.length)
  | taken {g : Nat} : P g → Change P l (l.retain g)
  | shared {g : Nat} : P g → Change P l ((l.retain g).retain g)
  | returned {g : Nat} : P g → Change P l (l.release g)

namespace Ledger

variable {l l' : Ledger} {P Q : Nat → Prop}

theorem holders_issue_pos (l : Ledger) (t : Nat) : 0 < (l.issue t).1.holders l.groups.length := by
  rw [holders_issue, if_pos rfl]
  omega

theorem holders_retain_pos {g : Nat} (h : 0 < l.holders g) : 0 < (l.retain g).holders g := by
  rw [holders_retain h]
  omega

theorem Change.mono (hc : Change P l l') (hPQ : ∀ g, P g → Q g) : Change Q l l' := by
  cases hc with
  | none => exact .none
  | started t => exact .started t
  | issued t => exact .issued t
  | taken h => exact .taken (hPQ _ h)
  | shared h => exact .shared (hPQ _ h)
  | returned h => exact .returned (hPQ _ h)

theorem Change.length_le (hc : Change P l l') : l.groups.length ≤ l'.groups.length := by
  cases hc <;> simp

/-- Groups that an event does not reach keep their holders. -/
theorem Change.holders_eq (hc : Change P l l') (hpos : ∀ g, P g → 0 < l.holders g) {g : Nat}
    (hlt : g < l.groups.length) (hg : ¬P g) : l'.holders g = l.holders g := by
  have hne {g' : Nat} (h : P g') : g' ≠ g := fun he => hg (he ▸ h)
  cases hc with
  | none => rfl
  | started t =>
    rw [holders_issue, if_neg (by omega)]
    rfl
  | issued t =>
    rw [holders_retain (holders_issue_pos l t), holders_issue, if_neg (by omega)]
    rfl
  | taken h => rw [holders_retain (hpos _ h), if_neg (hne h), Nat.add_zero]
  | shared h =>
    rw [holders_retain (holders_retain_pos (hpos _ h)), holders_retain (hpos _ h), if_neg (hne h)]
    rfl
  | returned h =>
    have hr := holders_release (hpos _ h) g
    rwa [if_neg (hne h)] at hr

/-- A group that an event starts is held. -/
theorem Change.started_pos (hc : Change P l l') {g : Nat} (hge : l.groups.length ≤ g)
    (hlt : g < l'.groups.length) : 0 < l'.holders g := by
  cases hc with
  | started t =>
    rw [length_issue] at hlt
    obtain rfl : l.groups.length = g := by omega
    exact holders_issue_pos l t
  | issued t =>
    rw [length_retain, length_issue] at hlt
    obtain rfl : l.groups.length = g := by omega
    exact holders_retain_pos (holders_issue_pos l t)
  | none => omega
  | taken | shared | returned =>
    simp only [length_retain, length_release] at hlt
    omega

theorem Tidy.change (ht : l.Tidy) (hpos : ∀ g, P g → 0 < l.holders g) (hc : Change P l l') :
    l'.Tidy := by
  cases hc with
  | none => exact ht
  | started t => exact ht.issue t
  | issued t => exact (ht.issue t).retain (holders_issue_pos l t)
  | taken h => exact ht.retain (hpos _ h)
  | shared h => exact (ht.retain (hpos _ h)).retain (holders_retain_pos (hpos _ h))
  | returned h => exact ht.release (hpos _ h)

/-- A transport is closed by the return of its last lease only. -/
theorem Tidy.closings_change (ht : l.Tidy) (hpos : ∀ g, P g → 0 < l.holders g)
    (hc : Change P l l') :
    l'.closings = l.closings ∨
      ∃ g, l'.closings = g :: l.closings ∧ l.holders g = 1 ∧ l'.holders g = 0 := by
  cases hc with
  | none | started | issued | taken | shared => exact .inl rfl
  | @returned g h =>
    rw [ht.closings_release (hpos _ h)]
    by_cases h1 : l.holders g = 1
    · rw [if_pos h1]
      have hr := holders_release (hpos _ h) g
      rw [if_pos rfl] at hr
      exact .inr ⟨g, rfl, h1, by omega⟩
    · exact .inl (if_neg h1)

end Ledger

namespace MuxTunnel

variable {p : Pool} {g : Nat}

theorem lease_close (m : MuxTunnel) (ch : Channel) (p : Pool) : (m.close ch p).1.lease = none := by
  unfold close
  split <;> rfl

/-- The sole holder of a transport closes it just by closing its tunnel. -/
theorem closeTransport_of_sole {m : MuxTunnel} (hg : m.lease = some g) (ch : Channel)
    (ht : p.ledger.Tidy) (h1 : p.ledger.holders g = 1) :
    m.closeTransport ch p = (.ok (), m.close ch p) := by
  have hsole : p.ledger.isSole g = true := by simp [Ledger.isSole, h1]
  simp only [closeTransport, hg, hsole, if_true, close, Pool.release, ht.release_close h1]

theorem closeTransport_of_shared {m : MuxTunnel} (hg : m.lease = some g) (ch : Channel)
    (h1 : p.ledger.holders g ≠ 1) :
    m.closeTransport ch p = (.error sharedTransport, m, ch, p) := by
  have hsole : p.ledger.isSole g = false := by simpa [Ledger.isSole] using h1
  simp [closeTransport, hg, hsole]

theorem closeTransport_of_none {m : MuxTunnel} (hg : m.lease = none) (ch : Channel) (p : Pool) :
    m.closeTransport ch p = (.error alreadyClosed, m, ch, p) := by
  simp [closeTransport, hg]

/-- Where the ledger is tidy, a tunnel that may close its transport just closes; else nothing
changes. -/
theorem closeTransport_eq (m : MuxTunnel) (ch : Channel) (ht : p.ledger.Tidy) :
    (m.closeTransport ch p).2 = m.close ch p ∨ (m.closeTransport ch p).2 = (m, ch, p) := by
  cases hg : m.lease with
  | none => exact .inr (by rw [closeTransport_of_none hg])
  | some g =>
    by_cases h1 : p.ledger.holders g = 1
    · exact .inl (by rw [closeTransport_of_sole hg ch ht h1])
    · exact .inr (by rw [closeTransport_of_shared hg ch h1])

end MuxTunnel

/-- Without one element, the others are as many as before. -/
theorem count_erase_add {xs : List Nat} {g : Nat} (hg : g ∈ xs) (g' : Nat) :
    (xs.erase g).count g' + (if g = g' then 1 else 0) = xs.count g' := by
  have h1 := List.count_erase (a := g') (b := g) (l := xs)
  have h2 := List.count_pos_iff.mpr hg
  by_cases he : g = g'
  · subst he
    simp only [beq_self_eq_true, if_true] at h1 ⊢
    omega
  · simpa [he] using h1

/-- What is put in its own place changes nothing. -/
theorem set_of_getElem? {α : Type} {t : Nat} {x : α} {xs : List α} (hx : xs[t]? = some x) :
    xs.set t x = xs := by
  obtain ⟨hlt, rfl⟩ := List.getElem?_eq_some_iff.mp hx
  exact List.set_getElem_self hlt

/-- One more element at a place: what the place had before, it has no more. -/
theorem countP_set {α : Type} {t : Nat} {x : α} {xs : List α} (hx : xs[t]? = some x) (y : α)
    (p : α → Bool) :
    (xs.set t y).countP p + (if p x then 1 else 0) = xs.countP p + if p y then 1 else 0 := by
  obtain ⟨hlt, hget⟩ := List.getElem?_eq_some_iff.mp hx
  have hpos : p x = true → 0 < xs.countP p := fun hp =>
    List.countP_pos_iff.mpr ⟨x, List.mem_of_getElem? hx, hp⟩
  rw [List.countP_set hlt, hget]
  split
  · have := hpos ‹_›
    omega
  · omega

end TunnelDial
