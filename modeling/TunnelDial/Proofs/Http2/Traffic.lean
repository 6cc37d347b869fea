import Mathlib.Data.List.Nodup
import TunnelDial.Proofs.Http2.Usage
import TunnelDial.Proofs.Lease.Ledger

/-! The count of slots is exact. Whatever happens, in any order, each exchange has as many sharers
as parts of it go on, so its slot is taken as long as one does; and the streams in use are those of
the exchanges that go on. -/
namespace TunnelDial.Http2

namespace TripStage

variable {s : TripStage}

theorem isUnderWay_of_isReadying (h : s.isReadying = true) : s.isUnderWay = true := by
  simp [isUnderWay, h]

theorem isUnderWay_of_isAwaiting (h : s.isAwaiting = true) : s.isUnderWay = true := by
  simp [isUnderWay, h]

theorem isUnderWay_eq_false :
    s.isUnderWay = false ↔ s.isReadying = false ∧ s.isAwaiting = false := by
  simp [isUnderWay]

end TripStage

namespace Exchange

/-- Who uses the stream of an exchange, once that is open. -/
def usage? (x : Exchange) : Option Usage :=
  x.stream.map fun id => ⟨id, x.stage.isAwaiting || x.held, x.pumping⟩

/-- The slot has a sharer for each part of the exchange that goes on. A round trip that waits for
the connection has no stream yet, and there is no response before the round trip is over. -/
structure Shared (x : Exchange) : Prop where
  sharers_eq : x.sharers = x.stage.isUnderWay.toNat + x.held.toNat + x.pumping.toNat
  unopened : x.stream = none → x.stage.isAwaiting = false ∧ x.held = false ∧ x.pumping = false
  unsent : x.stage.isReadying = true → x.stream = none
  apart : x.stage.isUnderWay = true → x.held = false

variable {x : Exchange}

theorem isOccupied_of_isUnderWay (h : x.stage.isUnderWay = true) : x.isOccupied = true := by
  simp [isOccupied, h]

theorem shared_begun (r : ConnectRequest) : (begun r).Shared where
  sharers_eq := rfl
  unopened _ := ⟨rfl, rfl, rfl⟩
  unsent _ := rfl
  apart _ := rfl

namespace Shared

theorem isOccupied_eq (h : x.Shared) : x.isOccupied = decide (0 < x.sharers) := by
  rw [h.sharers_eq, isOccupied]
  cases x.stage.isUnderWay <;> cases x.held <;> cases x.pumping <;> simp

/-- An exchange that goes on waits for the connection, or uses its stream; not both. -/
theorem one_of_isOccupied (h : x.Shared) : (if x.isOccupied then 1 else 0) =
    (if (x.usage?.map Usage.isBusy).getD false then 1 else 0) +
      if x.stage.isReadying then 1 else 0 := by
  unfold isOccupied TripStage.isUnderWay usage?
  cases hstream : x.stream with
  | none =>
    obtain ⟨hawaiting, hheld, hpumping⟩ := h.unopened hstream
    simp [hawaiting, hheld, hpumping]
  | some id =>
    have hsent : x.stage.isReadying = false := by
      by_contra hreadying
      simp [h.unsent (by simpa using hreadying)] at hstream
    simp [hsent, Usage.isBusy]

/-- A round trip that is over without a response leaves the slot. -/
theorem quit (h : x.Shared) (hunder : x.stage.isUnderWay = true) {s : TripStage}
    (hover : s.isUnderWay = false) (channel : Channel) :
    Shared { x with stage := s, channel := channel, sharers := x.sharers - 1 } := by
  obtain ⟨hreadying, hawaiting⟩ := TripStage.isUnderWay_eq_false.mp hover
  refine ⟨?_, fun hnone => ?_, by simp [hreadying], by simp [hover]⟩
  · have heq := h.sharers_eq
    simp only [hunder, hover, Bool.toNat_true, Bool.toNat_false] at heq ⊢
    omega
  · exact ⟨hawaiting, (h.unopened hnone).2⟩

/-- What sends the request body on shares the slot from the time when the request is sent. -/
theorem sent (h : x.Shared) (hreadying : x.stage.isReadying = true) (id : Nat) :
    Shared { x with
      stage := .awaiting
      stream := some id
      pumping := true
      sharers := x.sharers + 1 } := by
  obtain ⟨-, hheld, hpumping⟩ := h.unopened (h.unsent hreadying)
  have hunder := TripStage.isUnderWay_of_isReadying hreadying
  refine ⟨?_, nofun, nofun, fun _ => hheld⟩
  rw [h.sharers_eq, hunder, hheld, hpumping]
  rfl

/-- The response takes over the share of the round trip. -/
theorem answered (h : x.Shared) (hawaiting : x.stage.isAwaiting = true) (n : Nat) :
    Shared { x with stage := .answered n, held := true } := by
  have hunder := TripStage.isUnderWay_of_isAwaiting hawaiting
  refine ⟨?_, fun hnone => ?_, nofun, nofun⟩
  · rw [h.sharers_eq, hunder, h.apart hunder]
    simp [TripStage.isUnderWay, TripStage.isReadying, TripStage.isAwaiting]
  · simp [(h.unopened hnone).1] at hawaiting

theorem unpumped (h : x.Shared) (hpumping : x.pumping = true) (hand : Bytes) (channel : Channel) :
    Shared { x with
      hand := hand
      channel := channel
      pumping := false
      sharers := x.sharers - 1 } where
  sharers_eq := by
    have heq := h.sharers_eq
    simp only [hpumping, Bool.toNat_true, Bool.toNat_false] at heq ⊢
    omega
  unopened hnone := ⟨(h.unopened hnone).1, (h.unopened hnone).2.1, rfl⟩
  unsent := h.unsent
  apart := h.apart

theorem unheld (h : x.Shared) (hheld : x.held = true) :
    Shared { x with held := false, left := [], sharers := x.sharers - 1 } where
  sharers_eq := by
    have heq := h.sharers_eq
    simp only [hheld, Bool.toNat_true, Bool.toNat_false] at heq ⊢
    omega
  unopened hnone := ⟨(h.unopened hnone).1, rfl, (h.unopened hnone).2.2⟩
  unsent := h.unsent
  apart _ := rfl

end Shared

end Exchange

/-- A number belongs to one stream only, and new streams get new numbers. -/
structure Roll.Tidy (r : Roll) : Prop where
  isClient : r.isClient = true
  nodup : (r.usages.map Usage.id).Nodup
  below : ∀ u ∈ r.usages, u.id < r.nextId

namespace Roll.Tidy

variable {r : Roll}

theorem find?_eq (h : r.Tidy) {u : Usage} (hu : u ∈ r.usages) :
    r.usages.find? (·.id = u.id) = some u := by
  cases hv : r.usages.find? (·.id = u.id) with
  | none => simpa using List.find?_eq_none.mp hv u hu
  | some v =>
    have hid : v.id = u.id := by simpa using List.find?_some hv
    rw [List.inj_on_of_nodup_map h.nodup (List.mem_of_find?_eq_some hv) hu hid]

theorem map (h : r.Tidy) {f : Usage → Usage} (hf : ∀ u, (f u).id = u.id) :
    Tidy { r with usages := r.usages.map f } where
  isClient := h.isClient
  nodup := by
    have hids : (r.usages.map f).map Usage.id = r.usages.map Usage.id := by
      simp [Function.comp_def, hf]
    exact hids ▸ h.nodup
  below u hu := by
    obtain ⟨v, hv, rfl⟩ := List.mem_map.mp hu
    exact (hf v).symm ▸ h.below v hv

theorem opened (h : r.Tidy) : Tidy { r with
    nextId := r.nextId + 2
    usages := r.usages ++ [⟨r.nextId, true, true⟩] } where
  isClient := h.isClient
  nodup := by
    rw [List.map_append]
    refine List.nodup_append.mpr ⟨h.nodup, List.nodup_singleton _, fun i hi j hj => ?_⟩
    obtain ⟨u, hu, rfl⟩ := List.mem_map.mp hi
    obtain rfl : j = r.nextId := by simpa using hj
    exact Nat.ne_of_lt (h.below u hu)
  below u hu := by
    obtain hu | rfl : u ∈ r.usages ∨ u = ⟨r.nextId, true, true⟩ := by simpa using hu
    · exact Nat.lt_add_right 2 (h.below u hu)
    · exact Nat.lt_add_of_pos_right (by omega)

end Roll.Tidy

namespace Traffic

/-- What holds at all times: of each exchange, of the count of slots, of the streams in use, and of
what is known about the connection. -/
structure Sound (t : Traffic) : Prop where
  shared : ∀ x ∈ t.exchanges, x.Shared
  taken_eq : t.taken = t.occupied
  tidy : t.client.core.roll.Tidy
  usages : (t.exchanges.filterMap Exchange.usage?).Perm t.client.core.roll.usages
  told : t.client.core.roll.Told (Endpoint.toldBy t.heard)
  lost_iff : t.lost = none ↔ t.client.alive = true
  alive_of_closed : t.client.closed = true → t.client.alive = false

variable {t : Traffic} {k : Nat} {x y : Exchange}

theorem sound_start (window : Option Nat) : (start window).Sound where
  shared _ hx := absurd hx List.not_mem_nil
  taken_eq := rfl
  tidy := Client.roll_start window ▸ ⟨rfl, List.nodup_nil, nofun⟩
  usages := Client.roll_start window ▸ .nil
  told := Client.roll_start window ▸ ⟨rfl, rfl⟩
  lost_iff := ⟨fun _ => rfl, fun _ => rfl⟩
  alive_of_closed := nofun

/-! ### What happens to one exchange -/

theorem exists_split {xs : List Exchange} (hx : xs[k]? = some x) : ∃ before behind,
    xs = before ++ x :: behind ∧ ∀ y, xs.set k y = before ++ y :: behind := by
  obtain ⟨hlt, rfl⟩ := List.getElem?_eq_some_iff.mp hx
  exact ⟨xs.take k, xs.drop (k + 1), by simp, fun y => by
    rw [List.set_eq_take_append_cons_drop, if_pos hlt]⟩

/-- A change of the streams with one number is seen by the exchange of that stream only. -/
theorem usages_set {xs : List Exchange} (hx : xs[k]? = some x)
    (hnodup : ((xs.filterMap Exchange.usage?).map Usage.id).Nodup) {f : Usage → Usage}
    (hf : ∀ u, x.stream ≠ some u.id → f u = u) (husage : y.usage? = x.usage?.map f) :
    (xs.set k y).filterMap Exchange.usage? = (xs.filterMap Exchange.usage?).map f := by
  obtain ⟨before, behind, rfl, hset⟩ := exists_split hx
  -- the other exchanges have other streams, since no number is used twice
  have hother {z : Exchange} (hz : z ∈ before ++ behind) : z.usage? = z.usage?.map f := by
    cases hu : z.usage? with
    | none => rfl
    | some u =>
      refine congrArg some (hf u fun hsame => ?_).symm
      obtain ⟨v, hv, hvu⟩ : ∃ v, x.usage? = some v ∧ v.id = u.id := by
        simp [Exchange.usage?, hsame]
      have hmem : u ∈ (before ++ behind).filterMap Exchange.usage? :=
        List.mem_filterMap.mpr ⟨z, hz, hu⟩
      rw [List.filterMap_append, List.filterMap_cons_some hv, List.map_append,
        List.map_cons, List.nodup_middle, List.nodup_cons, ← List.map_append,
        ← List.filterMap_append, hvu] at hnodup
      exact hnodup.1 (List.mem_map_of_mem hmem)
  rw [hset, List.map_filterMap, List.filterMap_append, List.filterMap_append,
    List.filterMap_cons, List.filterMap_cons, husage,
    List.filterMap_congr fun z hz => hother (List.mem_append_left _ hz),
    List.filterMap_congr fun z hz => hother (List.mem_append_right _ hz)]

/-- An exchange that had no stream has one now. -/
theorem usages_set_open {xs : List Exchange} (hx : xs[k]? = some x) (hnone : x.usage? = none)
    {u : Usage} (hsome : y.usage? = some u) :
    ((xs.set k y).filterMap Exchange.usage?).Perm (xs.filterMap Exchange.usage? ++ [u]) := by
  obtain ⟨before, behind, rfl, hset⟩ := exists_split hx
  rw [hset, List.filterMap_append, List.filterMap_append, List.filterMap_cons_some hsome,
    List.filterMap_cons_none hnone]
  exact List.perm_middle.trans (List.perm_append_singleton _ _).symm

/-- One exchange is in another state, and the streams are used in another way. -/
theorem Sound.replace (h : t.Sound) (hx : t.exchanges[k]? = some x) (hy : y.Shared) {c : Client}
    {taken : Int} (htidy : c.core.roll.Tidy)
    (husages : ((t.exchanges.set k y).filterMap Exchange.usage?).Perm c.core.roll.usages)
    (hsettled : c.core.settled = t.client.core.settled)
    (hlimit : c.core.limit = t.client.core.limit)
    (halive : c.alive = t.client.alive) (hclosed : c.closed = t.client.closed)
    (htaken : taken + (if x.isOccupied then 1 else 0 : Nat) =
      t.taken + (if y.isOccupied then 1 else 0 : Nat)) :
    Sound { t with client := c, exchanges := t.exchanges.set k y, taken := taken } where
  shared z hz := by
    obtain hz | rfl := List.mem_or_eq_of_mem_set hz
    · exact h.shared z hz
    · exact hy
  taken_eq := by
    have hcount := countP_set hx y Exchange.isOccupied
    have heq := h.taken_eq
    simp only [occupied] at heq ⊢
    omega
  tidy := htidy
  usages := husages
  told := ⟨hsettled.trans h.told.settled_eq, hlimit.trans h.told.limit_eq⟩
  lost_iff := halive ▸ h.lost_iff
  alive_of_closed := by
    simpa [halive, hclosed] using h.alive_of_closed

/-- One exchange is in another state, and its stream is used in another way. -/
theorem Sound.change (h : t.Sound) (hx : t.exchanges[k]? = some x) (hy : y.Shared) {c : Client}
    {taken : Int} {f : Usage → Usage} (hid : ∀ u, (f u).id = u.id)
    (hf : ∀ u, x.stream ≠ some u.id → f u = u) (husage : y.usage? = x.usage?.map f)
    (hroll : c.core.roll =
      { t.client.core.roll with usages := t.client.core.roll.usages.map f })
    (halive : c.alive = t.client.alive) (hclosed : c.closed = t.client.closed)
    (htaken : taken + (if x.isOccupied then 1 else 0 : Nat) =
      t.taken + (if y.isOccupied then 1 else 0 : Nat)) :
    Sound { t with client := c, exchanges := t.exchanges.set k y, taken := taken } := by
  have hnodup : ((t.exchanges.filterMap Exchange.usage?).map Usage.id).Nodup :=
    (h.usages.map _).nodup_iff.mpr h.tidy.nodup
  refine h.replace hx hy (hroll ▸ h.tidy.map hid) ?_ (congrArg Roll.settled hroll)
    (congrArg Roll.limit hroll) halive hclosed htaken
  rw [hroll, usages_set hx hnodup hf husage]
  exact h.usages.map f

/-- One exchange is in another state, in which it goes on as before. -/
theorem Sound.put (h : t.Sound) (hx : t.exchanges[k]? = some x) (hy : y.Shared) {c : Client}
    (hocc : y.isOccupied = x.isOccupied) (husage : y.usage? = x.usage?)
    (hroll : c.core.roll = t.client.core.roll) (halive : c.alive = t.client.alive)
    (hclosed : c.closed = t.client.closed) : (put k y { t with client := c }).Sound :=
  h.change hx hy (f := id) (fun _ => rfl) (fun _ _ => rfl) (by simpa using husage)
    (by simpa using hroll) halive hclosed (by rw [hocc])

/-- The bytes of one exchange move on. -/
theorem Sound.carry (h : t.Sound) (hx : t.exchanges[k]? = some x) (channel : Channel)
    (hand left : Bytes) {c : Client} (hroll : c.core.roll = t.client.core.roll)
    (halive : c.alive = t.client.alive) (hclosed : c.closed = t.client.closed) :
    (Traffic.put k { x with channel := channel, hand := hand, left := left }
      { t with client := c }).Sound := by
  have hshared := h.shared x (List.mem_of_getElem? hx)
  exact h.put hx (y := { x with channel := channel, hand := hand, left := left })
    ⟨hshared.sharers_eq, hshared.unopened, hshared.unsent, hshared.apart⟩
    rfl rfl hroll halive hclosed

/-- A part of one exchange is over, and leaves the slot and the stream. -/
theorem Sound.leave (h : t.Sound) (hx : t.exchanges[k]? = some x)
    (hy : Exchange.Shared { y with sharers := y.sharers - 1 }) {c : Client} {f : Usage → Usage}
    (hocc : x.isOccupied = true) (hid : ∀ u, (f u).id = u.id)
    (hf : ∀ u, x.stream ≠ some u.id → f u = u) (husage : y.usage? = x.usage?.map f)
    (hroll : c.core.roll =
      { t.client.core.roll with usages := t.client.core.roll.usages.map f })
    (halive : c.alive = t.client.alive) (hclosed : c.closed = t.client.closed) :
    (leave k y { t with client := c }).Sound := by
  refine h.change hx hy hid hf husage hroll halive hclosed ?_
  change (if y.sharers - 1 = 0 then t.taken - 1 else t.taken) + _ = _
  rw [hocc, hy.isOccupied_eq]
  by_cases hlast : y.sharers - 1 = 0
  · simp [hlast]
  · have hpos : 0 < y.sharers - 1 := Nat.pos_of_ne_zero hlast
    simp [hlast, hpos]

/-- A round trip that has no stream yet is over. -/
theorem Sound.quit_readying (h : t.Sound) (hx : t.exchanges[k]? = some x)
    (hreadying : x.stage.isReadying = true) {s : TripStage} (hover : s.isUnderWay = false)
    (channel : Channel) : (t.leave k { x with stage := s, channel := channel }).Sound := by
  have hshared := h.shared x (List.mem_of_getElem? hx)
  have hunder := TripStage.isUnderWay_of_isReadying hreadying
  have hocc := Exchange.isOccupied_of_isUnderWay hunder
  have hstream := hshared.unsent hreadying
  exact h.leave hx (y := { x with stage := s, channel := channel })
    (hshared.quit hunder hover channel) hocc (f := id) (fun _ => rfl) (fun _ _ => rfl)
    (by simp [Exchange.usage?, hstream]) (by simp) rfl rfl

/-- A round trip that waits for its answer is over without one. -/
theorem Sound.quit_awaiting (h : t.Sound) (hx : t.exchanges[k]? = some x)
    (hawaiting : x.stage.isAwaiting = true) {n : Nat} (hstream : x.stream = some n)
    {s : TripStage} (hover : s.isUnderWay = false) :
    ((t.unread n).leave k { x with stage := s }).Sound := by
  have hshared := h.shared x (List.mem_of_getElem? hx)
  have hunder := TripStage.isUnderWay_of_isAwaiting hawaiting
  have hocc := Exchange.isOccupied_of_isUnderWay hunder
  have hdone := (TripStage.isUnderWay_eq_false.mp hover).2
  refine h.leave hx (y := { x with stage := s }) (hshared.quit hunder hover x.channel) hocc
    (Usage.id_unread n) (fun u hu => Usage.unread_of_ne fun he => hu (he ▸ hstream)) ?_
    (Endpoint.roll_dropReading _ n) rfl rfl
  simp [Exchange.usage?, hstream, hdone, hshared.apart hunder, Usage.unread]

/-- A request is sent on a stream with a new number. -/
theorem Sound.send (h : t.Sound) (hx : t.exchanges[k]? = some x)
    (hreadying : x.stage.isReadying = true) {c : Client}
    (hroll : c.core.roll = t.client.core.openStream.roll)
    (halive : c.alive = t.client.alive) (hclosed : c.closed = t.client.closed) :
    (Traffic.put k
      { x with
        stage := .awaiting
        stream := some t.client.core.nextId
        pumping := true
        sharers := x.sharers + 1 }
      { t with client := c }).Sound := by
  have hshared := h.shared x (List.mem_of_getElem? hx)
  have hnone : x.usage? = none := by rw [Exchange.usage?, hshared.unsent hreadying]; rfl
  have hocc := Exchange.isOccupied_of_isUnderWay (TripStage.isUnderWay_of_isReadying hreadying)
  have hsent := hshared.sent hreadying t.client.core.nextId
  rw [Endpoint.roll_openStream] at hroll
  refine h.replace hx hsent (hroll ▸ h.tidy.opened) ?_ (congrArg Roll.settled hroll)
    (congrArg Roll.limit hroll) halive hclosed (by rw [hocc, hsent.isOccupied_eq]; simp)
  rw [hroll]
  exact (usages_set_open hx hnone rfl).trans (h.usages.append_right _)

theorem Sound.ready (h : t.Sound) (hx : t.exchanges[k]? = some x) : (t.ready k x).Sound := by
  unfold Traffic.ready
  split
  · next r hstage =>
    have hreadying : x.stage.isReadying = true := by rw [hstage]; rfl
    split
    · exact h.quit_readying hx hreadying rfl _
    · next c id hdispatch =>
      unfold dispatch at hdispatch
      split at hdispatch
      · cases hdispatch
      · obtain ⟨rfl, hroll, halive, hclosed⟩ := Client.roll_request hdispatch
        exact h.send hx hreadying hroll halive hclosed
  · exact h

theorem Sound.answer (h : t.Sound) (hx : t.exchanges[k]? = some x) : (t.answer k x).Sound := by
  have hshared := h.shared x (List.mem_of_getElem? hx)
  unfold Traffic.answer
  split
  · next id hstage hstream =>
    have hawaiting : x.stage.isAwaiting = true := by rw [hstage]; rfl
    split
    · exact h
    · next n _ =>
      have hocc := Exchange.isOccupied_of_isUnderWay (TripStage.isUnderWay_of_isAwaiting hawaiting)
      refine h.put hx (hshared.answered hawaiting n) ?_ ?_ rfl rfl rfl
      · simpa [Exchange.isOccupied] using hocc
      · simp [Exchange.usage?, hawaiting]
    · exact h.quit_awaiting hx hawaiting hstream rfl
  · exact h

theorem Sound.giveUp (h : t.Sound) (hx : t.exchanges[k]? = some x) : (t.giveUp k x).Sound := by
  unfold Traffic.giveUp
  split
  · next r _ hstage => exact h.quit_readying hx (by rw [hstage]; rfl) rfl _
  · next id hstage hstream => exact h.quit_awaiting hx (by rw [hstage]; rfl) hstream rfl
  · exact h

/-- What sends a request body on has its stream. -/
theorem Sound.isPumped (h : t.Sound) (hx : t.exchanges[k]? = some x)
    (hpumping : x.pumping = true) {n : Nat} (hstream : x.stream = some n) :
    t.client.isPumped n = true := by
  have hmem : ⟨n, x.stage.isAwaiting || x.held, x.pumping⟩ ∈ t.client.core.roll.usages :=
    h.usages.mem_iff.mp (List.mem_filterMap.mpr
      ⟨x, List.mem_of_getElem? hx, by simp [Exchange.usage?, hstream]⟩)
  exact Client.isPumped_iff.mpr ⟨_, h.tidy.find?_eq hmem, hpumping⟩

theorem Sound.pump (h : t.Sound) (hx : t.exchanges[k]? = some x) : (t.pump k x).Sound := by
  have hshared := h.shared x (List.mem_of_getElem? hx)
  unfold Traffic.pump
  split
  · next id hpumping hstream =>
    have hkept := Client.pump_alive_closed id x.hand x.channel t.client
    have hroll := Client.roll_pump (h.isPumped hx hpumping hstream) x.hand x.channel
    dsimp only at hroll ⊢
    split
    · next hgoing =>
      rw [if_pos hgoing] at hroll
      exact h.carry hx _ _ _ hroll hkept.1 hkept.2
    · next hdone =>
      rw [if_neg hdone] at hroll
      refine h.leave hx (y := { x with hand := _, channel := _, pumping := false })
        (hshared.unpumped hpumping _ _) (by simp [Exchange.isOccupied, hpumping])
        (Usage.id_unwritten id) (fun u hu => Usage.unwritten_of_ne fun he => hu (he ▸ hstream))
        ?_ hroll hkept.1 hkept.2
      simp [Exchange.usage?, hstream, Usage.unwritten]
  · exact h

theorem Sound.read (h : t.Sound) (hx : t.exchanges[k]? = some x) (room : Nat) :
    (t.read k room x).Sound := by
  unfold Traffic.read
  split
  · next id hheld hstream =>
    obtain ⟨hroll, halive, hclosed⟩ := Client.roll_readOff id room
      ((t.client.waiting id).length + 2) x.left t.client
    exact h.carry hx _ _ _ hroll halive hclosed
  · exact h

theorem Sound.letGo (h : t.Sound) (hx : t.exchanges[k]? = some x) : (t.letGo k x).Sound := by
  have hshared := h.shared x (List.mem_of_getElem? hx)
  unfold Traffic.letGo
  split
  · next id hheld hstream =>
    -- the round trip is over: otherwise there would be no response yet
    have hdone : x.stage.isAwaiting = false := by
      by_contra hawaiting
      have hunder := TripStage.isUnderWay_of_isAwaiting (by simpa using hawaiting)
      simp [hshared.apart hunder] at hheld
    refine h.leave hx (y := { x with held := false, left := [] }) (hshared.unheld hheld)
      (by simp [Exchange.isOccupied, hheld]) (Usage.id_unread id)
      (fun u hu => Usage.unread_of_ne fun he => hu (he ▸ hstream)) ?_
      (Endpoint.roll_dropReading _ id) rfl rfl
    simp [Exchange.usage?, hstream, hdone, Usage.unread]
  · exact h

theorem Sound.act (h : t.Sound) (hx : t.exchanges[k]? = some x) (e : ExchangeEvent) :
    (t.act k x e).Sound := by
  cases e with
  | ready => exact h.ready hx
  | answer => exact h.answer hx
  | giveUp => exact h.giveUp hx
  | write bs => exact h.carry hx _ x.hand x.left rfl rfl rfl
  | closeWrite => exact h.carry hx _ x.hand x.left rfl rfl rfl
  | pump => exact h.pump hx
  | read room => exact h.read hx room
  | letGo => exact h.letGo hx

/-! ### What happens to the client -/

theorem Sound.enter (h : t.Sound) (r : ConnectRequest) : (t.enter r).2.Sound := by
  unfold Traffic.enter
  split
  · exact h
  · exact {
      shared := fun x hx => by
        obtain hx | rfl : x ∈ t.exchanges ∨ x = .begun r := by simpa using hx
        · exact h.shared x hx
        · exact Exchange.shared_begun r
      taken_eq := by
        have hgoes : (Exchange.begun r).isOccupied = true := rfl
        simp [occupied, hgoes, h.taken_eq]
      tidy := h.tidy
      usages := by simpa [Exchange.usage?, Exchange.begun] using h.usages
      told := h.told
      lost_iff := h.lost_iff
      alive_of_closed := h.alive_of_closed }

/-- What the connection does by itself closes no transport, and brings none back. -/
theorem after_driven {c : Client} {e : ClientEvent} (he : e.isDriven = true) :
    (c.after e).closed = c.closed ∧ ((c.after e).alive = true → c.alive = true) := by
  cases e with
  | heard bs => exact ⟨rfl, id⟩
  | ended => exact ⟨rfl, nofun⟩
  | broken f => exact ⟨rfl, nofun⟩
  | idle =>
    change c.leaveIfIdle.closed = c.closed ∧ (c.leaveIfIdle.alive = true → c.alive = true)
    unfold Client.leaveIfIdle
    split <;> exact ⟨rfl, id⟩
  | rendered => exact ⟨rfl, id⟩
  | written n => exact ⟨rfl, id⟩
  | stopped => exact ⟨rfl, nofun⟩
  | request r => cases he
  | pump id hand channel => cases he
  | drop id => cases he
  | close => cases he

theorem alive_of_after {c : Client} {e : ClientEvent} (he : e.isDriven = true ∨ e = .close)
    (h : (c.after e).alive = true) : c.alive = true ∧ (c.after e).closed = c.closed := by
  obtain he | rfl := he
  · exact ⟨(after_driven he).2 h, (after_driven he).1⟩
  · change c.close.alive = true at h
    unfold Client.close at h
    split at h
    · next hclosed => exact ⟨h, congrArg Client.closed (if_pos hclosed)⟩
    · cases h

theorem lossBy?_eq_none {c : Client} {e : ClientEvent} :
    c.lossBy? e = none ↔ (c.after e).alive = true := by
  unfold Client.lossBy?
  split
  · simpa
  · next halive => split <;> simpa using halive

theorem Sound.drive (h : t.Sound) {e : ClientEvent} (he : e.isDriven = true ∨ e = .close) :
    (t.drive e).Sound := by
  have hroll := Client.roll_after h.tidy.isClient he
  obtain ⟨hclient, hnext, husages⟩ :=
    Roll.settles_eq (Endpoint.toldBy (t.client.framesOf e)) t.client.core.roll
  rw [← hroll] at hclient hnext husages
  have htidy : (t.client.after e).core.roll.Tidy :=
    ⟨hclient.trans h.tidy.isClient, husages ▸ h.tidy.nodup, by
      rw [husages, hnext]; exact h.tidy.below⟩
  exact {
    shared := h.shared
    taken_eq := h.taken_eq
    tidy := htidy
    usages := husages ▸ h.usages
    told := by
      have hboth : Endpoint.toldBy (t.heard ++ t.client.framesOf e) =
          Endpoint.toldBy t.heard ++ Endpoint.toldBy (t.client.framesOf e) :=
        List.flatMap_append
      change Roll.Told (Endpoint.toldBy (t.heard ++ t.client.framesOf e))
        (t.client.after e).core.roll
      rw [hboth, hroll]
      exact h.told.settles _
    lost_iff := by
      change t.lost.or (t.client.lossBy? e) = none ↔ (t.client.after e).alive = true
      rw [Option.or_eq_none_iff, lossBy?_eq_none]
      exact ⟨And.right, fun halive => ⟨h.lost_iff.mpr (alive_of_after he halive).1, halive⟩⟩
    alive_of_closed := fun hclosed => by
      change (t.client.after e).closed = true at hclosed
      change (t.client.after e).alive = false
      by_contra hgone
      obtain ⟨halive, hsame⟩ := alive_of_after he (by simpa using hgone)
      simp [h.alive_of_closed (hsame ▸ hclosed)] at halive }

theorem Sound.step (h : t.Sound) (e : TrafficEvent) : (t.step e).Sound := by
  cases e with
  | enter r => exact h.enter r
  | exchange k e =>
    cases hx : t.exchanges[k]? with
    | none => simpa [Traffic.step, hx] using h
    | some x => simpa [Traffic.step, hx] using h.act hx e
  | connection e =>
    by_cases he : (e.isDriven && t.client.alive) = true
    · rw [Traffic.step, if_pos he]
      exact h.drive (.inl (Bool.and_eq_true_iff.mp he).1)
    · rwa [Traffic.step, if_neg he]
  | close => exact h.drive (.inr rfl)

theorem Sound.after (h : t.Sound) (es : List TrafficEvent) : (t.after es).Sound := by
  induction es generalizing t with
  | nil => exact h
  | cons e es ih => exact ih (h.step e)

/-! ### A turn of the connection -/

/-- Between the two, the connection went on by itself. -/
def Drives (t t' : Traffic) : Prop := ∃ es : List ClientEvent, t' = t.after (es.map .connection)

namespace Drives

variable {t₀ : Traffic} {σ : Type} [ByteStream σ]

theorem refl (t : Traffic) : t.Drives t := ⟨[], rfl⟩

theorem drive (h : t₀.Drives t) (halive : t.client.alive = true) {e : ClientEvent}
    (he : e.isDriven = true) : t₀.Drives (t.drive e) := by
  obtain ⟨es, rfl⟩ := h
  refine ⟨es ++ [e], ?_⟩
  have hstep : (t₀.after (es.map .connection)).step (.connection e) =
      (t₀.after (es.map .connection)).drive e := if_pos (by rw [he]; exact halive)
  rw [← hstep, List.map_append, Traffic.after, Traffic.after, List.foldl_append]
  rfl

theorem listen (h : t₀.Drives t) (now n : Nat) (moved : Bool) (s : σ) : ∃ t', t₀.Drives t' ∧
    t'.client = (Client.listen now n moved t.client s).2.1 := by
  induction n generalizing moved t s with
  | zero => exact ⟨t, h, rfl⟩
  | succ n ih =>
    unfold Client.listen
    split
    · exact ⟨t, h, rfl⟩
    · next hopen =>
      have halive : t.client.alive = true := by simp_all
      dsimp only
      split
      · exact ⟨t.drive .ended, h.drive halive rfl, rfl⟩
      · next bs _ _ => exact ih (h.drive halive (e := .heard bs) rfl) true _
      · next f _ => exact ⟨t.drive (.broken f), h.drive halive rfl, rfl⟩
      · exact ⟨t, h, rfl⟩

theorem speak (h : t₀.Drives t) (halive : t.client.alive = true) (now n : Nat) (moved : Bool)
    (s : σ) : ∃ t', t₀.Drives t' ∧
      t'.client = (Client.speak now n moved t.client s).2.1 := by
  induction n generalizing moved t s with
  | zero => exact ⟨t, h, rfl⟩
  | succ n ih =>
    unfold Client.speak
    split
    · exact ⟨t, h, rfl⟩
    · dsimp only
      split
      · exact ⟨t, h, rfl⟩
      · next k _ _ => exact ih (h.drive halive (e := .written k) rfl) halive true _
      · next f _ => exact ⟨t.drive (.broken f), h.drive halive rfl, rfl⟩
      · exact ⟨t, h, rfl⟩

/-- A turn of the connection, whatever stream lies below it, is what the connection does by
itself. -/
theorem turn (t : Traffic) (now : Nat) (s : σ) : ∃ t', t.Drives t' ∧
    t'.client = (Client.turn now t.client s).2.1 := by
  unfold Client.turn
  dsimp only
  split
  · exact ⟨t, refl t, rfl⟩
  · obtain ⟨t₁, hlisten, hheard⟩ := (refl t).listen now Client.patience false s
    rw [← hheard]
    split
    · exact ⟨t₁, hlisten, hheard⟩
    · next hthere =>
      have halive : t₁.client.alive = true := by simpa using hthere
      have hstill : (t₁.drive .idle).client.alive = true := by
        change t₁.client.leaveIfIdle.alive = true
        unfold Client.leaveIfIdle
        split <;> exact halive
      obtain ⟨t₂, hspeak, hsaid⟩ := ((hlisten.drive halive (e := .idle) rfl).drive hstill
        (e := .rendered) rfl).speak hstill now Client.patience
          (Client.listen now Client.patience false t.client s).1
          (Client.listen now Client.patience false t.client s).2.2
      split
      · next hleaves =>
        have hlast : t₂.client.alive = true := by
          rw [hsaid]
          exact (Bool.and_eq_true_iff.mp (Bool.and_eq_true_iff.mp hleaves).1).1
        exact ⟨t₂.drive .stopped, hspeak.drive hlast rfl, congrArg (Client.after · .stopped) hsaid⟩
      · exact ⟨t₂, hspeak, hsaid⟩

end Drives

/-! ### A client that was closed -/

theorem closed_close (t : Traffic) : (t.step .close).client.closed = true := by
  change t.client.close.closed = true
  unfold Client.close
  split
  · assumption
  · rfl

theorem closed_act (t : Traffic) (k : Nat) (x : Exchange) (e : ExchangeEvent) :
    (t.act k x e).client.closed = t.client.closed := by
  cases e with
  | ready =>
    change (t.ready k x).client.closed = _
    unfold ready
    split
    · split
      · rfl
      · next hdispatch =>
        unfold dispatch at hdispatch
        split at hdispatch
        · cases hdispatch
        · exact (Client.roll_request hdispatch).2.2.2
    · rfl
  | answer =>
    change (t.answer k x).client.closed = _
    unfold answer
    split
    · split <;> rfl
    · rfl
  | giveUp =>
    change (t.giveUp k x).client.closed = _
    unfold giveUp
    split <;> rfl
  | write bs => rfl
  | closeWrite => rfl
  | pump =>
    change (t.pump k x).client.closed = _
    unfold pump
    split
    · next id _ _ =>
      dsimp only
      split <;> exact (Client.pump_alive_closed id x.hand x.channel t.client).2
    · rfl
  | read room =>
    change (t.read k room x).client.closed = _
    unfold read
    split
    · exact (Client.roll_readOff ..).2.2
    · rfl
  | letGo =>
    change (t.letGo k x).client.closed = _
    unfold letGo
    split <;> rfl

theorem closed_step (hclosed : t.client.closed = true) (e : TrafficEvent) :
    (t.step e).client.closed = true := by
  cases e with
  | enter r =>
    change (t.enter r).2.client.closed = true
    unfold enter
    split <;> exact hclosed
  | exchange k e =>
    cases hx : t.exchanges[k]? with
    | none => simpa [step, hx] using hclosed
    | some x => simpa [step, hx] using (closed_act t k x e).trans hclosed
  | connection e =>
    change (if e.isDriven && t.client.alive then t.drive e else t).client.closed = true
    split
    · next hboth => exact (after_driven (Bool.and_eq_true_iff.mp hboth).1).1.trans hclosed
    · exact hclosed
  | close => exact closed_close t

theorem closed_after (hclosed : t.client.closed = true) (es : List TrafficEvent) :
    (t.after es).client.closed = true := by
  induction es generalizing t with
  | nil => exact hclosed
  | cons e es ih => exact ih (closed_step hclosed e)

/-! ### The count of slots -/

/-- The exchanges that go on wait for the connection, or use their streams. -/
theorem countP_isOccupied {xs : List Exchange} (hxs : ∀ x ∈ xs, x.Shared) :
    xs.countP Exchange.isOccupied =
      (xs.filterMap Exchange.usage?).countP Usage.isBusy + xs.countP (·.stage.isReadying) := by
  rw [List.countP_filterMap]
  induction xs with
  | nil => rfl
  | cons x xs ih =>
    have hx := (hxs x List.mem_cons_self).one_of_isOccupied
    have ih := ih fun y hy => hxs y (List.mem_cons_of_mem x hy)
    rw [List.countP_cons, List.countP_cons, List.countP_cons]
    omega

theorem active_eq (c : Client) : c.active = c.core.roll.usages.countP Usage.isBusy := by
  rw [Client.active, ← List.countP_eq_length_filter, Endpoint.roll, List.countP_map]
  rfl

theorem Sound.occupied_eq (h : t.Sound) : t.occupied = t.client.active + t.unsent := by
  rw [occupied, countP_isOccupied h.shared, h.usages.countP_eq, active_eq]
  rfl

theorem Sound.accepts_iff (h : t.Sound) : t.accepts = true ↔
    t.client.closed = false ∧ t.client.alive = true ∧
      ∀ n, Endpoint.allowed (Endpoint.toldBy t.heard) = some n → t.taken < n := by
  have hlimit : t.client.core.limit = Endpoint.allowed (Endpoint.toldBy t.heard) :=
    h.told.limit_eq
  unfold accepts
  rw [hlimit]
  cases Endpoint.allowed (Endpoint.toldBy t.heard) with
  | none => simp
  | some n => simp [and_assoc]

/-- While no round trip waits for the connection, the client says itself whether another stream can
be opened. -/
theorem accepts_eq_client (window : Option Nat) (es : List TrafficEvent)
    (hsent : (run window es).unsent = 0) :
    (run window es).accepts = (run window es).client.accepts := by
  have h : (run window es).Sound := (sound_start window).after es
  have heq : (run window es).taken = (run window es).client.active := by
    rw [h.taken_eq, h.occupied_eq, hsent]
    rfl
  unfold accepts Client.accepts
  rw [heq]
  cases (run window es).client.core.limit with
  | none => rfl
  | some n => simp

/-- At all times the slots are those of the exchanges of which the round trip, the request body or
the response goes on: those with a stream in use, and those that wait for the connection. There are
never fewer than none, and none when no exchange goes on. Another stream can be opened exactly when
the transport was not closed, its connection is there, and the slots are fewer than the other side
allows by the settings that it told. Once the transport was closed none can be opened ever again,
and every new round trip fails without a slot. -/
theorem slots_exact (window : Option Nat) (es : List TrafficEvent) :
    let t := run window es
    (t.taken = t.occupied ∧ t.taken = t.client.active + t.unsent) ∧
      (0 ≤ t.taken ∧ (t.taken = 0 ↔ ∀ x ∈ t.exchanges, x.isOccupied = false)) ∧
      (t.accepts = true ↔ t.client.closed = false ∧ t.client.alive = true ∧
        ∀ n, Endpoint.allowed (Endpoint.toldBy t.heard) = some n → t.taken < n) ∧
      ∀ later, let t' := (t.step .close).after later
        t'.accepts = false ∧
          ∀ r, t'.enter r = (.error (Client.failure "HTTP/2 transport is closed"), t') := by
  intro t
  have h : t.Sound := (sound_start window).after es
  refine ⟨⟨h.taken_eq, ?_⟩, ⟨?_, ?_⟩, h.accepts_iff, fun later => ?_⟩
  · rw [h.taken_eq, h.occupied_eq]
    exact Int.natCast_add _ _
  · rw [h.taken_eq]
    exact Int.natCast_nonneg _
  · rw [h.taken_eq, Int.natCast_eq_zero, occupied, List.countP_eq_zero]
    simp
  · have hclosed : ((t.step .close).after later).client.closed = true :=
      closed_after (closed_close t) later
    exact ⟨by simp [accepts, hclosed], fun r => by simp [enter, hclosed]⟩

/-- Two round trips begin on a connection that allows two streams at once. The first is answered;
the second still waits for the connection. -/
def twoTrips : List TrafficEvent :=
  [.enter ⟨"one.example:443", .empty⟩, .exchange 0 .ready, .enter ⟨"two.example:443", .empty⟩,
   .connection (.heard [0, 0, 6, 4, 0, 0, 0, 0, 0, 0, 3, 0, 0, 0, 2]),
   .connection (.heard [0, 0, 1, 1, 4, 0, 0, 0, 1, 136]), .exchange 0 .answer]

/-- The second round trip is given up; the first tunnel ends its request body and then lets the
response go. -/
def twoEnds : List TrafficEvent :=
  [.exchange 1 .giveUp, .exchange 0 .closeWrite, .exchange 0 .pump, .exchange 0 .letGo]

/-- Both slots are taken, by one stream and by one round trip without a stream, so no other stream
can be opened; in the end neither is. -/
theorem slots_of_two_trips :
    ((run none twoTrips).taken = 2 ∧ (run none twoTrips).client.active = 1 ∧
      (run none twoTrips).accepts = false) ∧
    (run none (twoTrips ++ twoEnds)).taken = 0 ∧
      (run none (twoTrips ++ twoEnds)).accepts = true := by
  obtain ⟨⟨htaken, -⟩, -, haccepts, -⟩ := slots_exact none twoTrips
  obtain ⟨-, ⟨-, hzero⟩, haccepts', -⟩ := slots_exact none (twoTrips ++ twoEnds)
  have htwo : (run none twoTrips).taken = 2 :=
    htaken.trans (congrArg Nat.cast (by decide +kernel : (run none twoTrips).occupied = 2))
  have hallowed : Endpoint.allowed (Endpoint.toldBy (run none twoTrips).heard) = some 2 := by
    decide +kernel
  have hnone : (run none (twoTrips ++ twoEnds)).taken = 0 := hzero.mpr (by decide +kernel)
  refine ⟨⟨htwo, by decide +kernel, ?_⟩, hnone, haccepts'.mpr
    ⟨by decide +kernel, by decide +kernel, fun n hn => ?_⟩⟩
  · rw [← Bool.not_eq_true, haccepts]
    rintro ⟨-, -, hfewer⟩
    have hless := hfewer 2 hallowed
    omega
  · obtain rfl : n = 2 := by
      have hsame : Endpoint.allowed (Endpoint.toldBy (run none (twoTrips ++ twoEnds)).heard) =
          some 2 := by decide +kernel
      exact Option.some.inj (hn.symm.trans hsame)
    omega

end Traffic

end TunnelDial.Http2
