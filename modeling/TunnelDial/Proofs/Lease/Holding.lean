import TunnelDial.Proofs.Lease.Ledger

/-! One tunnel and the other holders of its transport, as the ledger counts them. -/
namespace TunnelDial
namespace Pool

variable {p : Pool} {t : MuxTunnel} {lease : Option Nat} {others : Nat}

/-- The leases on the first transport are that of one tunnel, if it has one, and those of the
others. -/
structure HeldBy (p : Pool) (lease : Option Nat) (others : Nat) : Prop where
  tidy : p.ledger.Tidy
  first : ∀ g, lease = some g → g = 0
  holders : p.ledger.holders 0 = others + lease.toList.length

theorem heldBy_start (others : Nat) :
    HeldBy (Nat.repeat (·.retain 0) others (Pool.empty.issue 0).1) (some 0) others := by
  have hretained (n : Nat) :
      let l := (Nat.repeat (fun p : Pool => p.retain 0) n (Pool.empty.issue 0).1).ledger
      l.Tidy ∧ l.holders 0 = n + 1 := by
    induction n with
    | zero => exact ⟨Ledger.tidy_empty.issue 0, rfl⟩
    | succ n ih =>
      obtain ⟨ht, hn⟩ := ih
      exact ⟨ht.retain (by omega), by
        change (Ledger.retain _ 0).holders 0 = _
        rw [Ledger.holders_retain (by omega), hn]
        rfl⟩
  obtain ⟨ht, hn⟩ := hretained others
  exact ⟨ht, fun g hg => (Option.some.inj hg).symm, hn⟩

namespace HeldBy

/-- The transport is closed exactly when nobody holds it. -/
theorem closed_iff (h : p.HeldBy lease others) :
    p.ledger.isClosed 0 = true ↔ others = 0 ∧ lease = none := by
  rw [h.tidy.closed_iff, h.holders]
  cases lease <;> simp

/-- Whoever has a lease can clone it. -/
theorem joined (h : p.HeldBy lease others) (hpos : lease.isSome = true ∨ 0 < others) :
    (p.retain 0).HeldBy lease (others + 1) := by
  have hheld : 0 < p.ledger.holders 0 := by
    rw [h.holders]
    rcases hpos with hsome | hpos
    · obtain ⟨g, rfl⟩ := Option.isSome_iff_exists.mp hsome
      simp
    · omega
  have hret : (p.retain 0).ledger.holders 0 = p.ledger.holders 0 + 1 :=
    Ledger.holders_retain hheld 0
  exact ⟨h.tidy.retain hheld, h.first, by rw [hret, h.holders]; omega⟩

/-- One of the others gives its lease back. -/
theorem parted (h : p.HeldBy lease others) (hpos : 0 < others) :
    (p.release 0).HeldBy lease (others - 1) := by
  have hn := h.holders
  have hheld : 0 < p.ledger.holders 0 := by omega
  have hrel : (p.release 0).ledger.holders 0 + 1 = p.ledger.holders 0 :=
    Ledger.holders_release hheld 0
  exact ⟨h.tidy.release hheld, h.first, by omega⟩

/-- A tunnel that closes has no lease any more. -/
theorem close (h : p.HeldBy t.lease others) (c : Channel) :
    (t.close c p).2.2.HeldBy none others := by
  cases hg : t.lease with
  | none =>
    rw [hg] at h
    simpa [MuxTunnel.close, hg] using h
  | some g =>
    obtain rfl := h.first g hg
    have hpool : (t.close c p).2.2 = p.release 0 := by simp [MuxTunnel.close, hg]
    have hn := h.holders
    rw [hg, Option.toList_some, List.length_singleton] at hn
    have hrel : (p.release 0).ledger.holders 0 + 1 = p.ledger.holders 0 :=
      Ledger.holders_release (by omega) 0
    rw [hpool]
    refine ⟨h.tidy.release (by omega), fun _ hg => (by cases hg), ?_⟩
    rw [Option.toList_none, List.length_nil]
    omega

/-- A tunnel closes its transport when it is the only holder, and then just by closing. -/
theorem closeTransport (h : p.HeldBy t.lease others) (c : Channel) :
    t.lease = none ∧ t.closeTransport c p = (.error MuxTunnel.alreadyClosed, t, c, p) ∨
    t.lease.isSome = true ∧ others ≠ 0 ∧
      t.closeTransport c p = (.error MuxTunnel.sharedTransport, t, c, p) ∨
    t.lease.isSome = true ∧ others = 0 ∧ t.closeTransport c p = (.ok (), t.close c p) := by
  cases hg : t.lease with
  | none => exact .inl ⟨rfl, MuxTunnel.closeTransport_of_none hg c p⟩
  | some g =>
    obtain rfl := h.first g hg
    have hn := h.holders
    rw [hg, Option.toList_some, List.length_singleton] at hn
    by_cases h0 : others = 0
    · exact .inr (.inr ⟨rfl, h0, MuxTunnel.closeTransport_of_sole hg c h.tidy (by omega)⟩)
    · exact .inr (.inl ⟨rfl, h0, MuxTunnel.closeTransport_of_shared hg c (by omega)⟩)

end HeldBy

end Pool
end TunnelDial
