import TunnelDial.Proofs.Tunnel.Duplex
import TunnelDial.Rehearsal.TunnelBench

/-! Multiplexed tunnels of the world, whose responses follow scripts. Every call on one, and all
that becomes of its request body and of the leases beside its own, is an event of a tunnel with all
it uses, and has the answer of that event. -/
namespace TunnelDial.Rehearsal

/-- The response goes by its script alone. -/
def Trip.IsScripted (t : Trip) : Prop := t.taker ≠ .echo ∧ ∀ id, t.source ≠ .stream id

/-- The response of a round trip as a stream, as long as it is read. -/
def Trip.body? (t : Trip) : Option ScriptedStream :=
  if t.dropped then none else some { ScriptedStream.ofActs [] [] [] [] with reads := t.response }

/-- What a receipt is to whoever waits for it. -/
def stepOfReceipt : Receipt → TaskStep
  | .chunk bs => .ended (.bytes bs)
  | .ended => .ended .bodyEnded
  | .nothing => .waiting

namespace World

variable {w w' : World} {name : String} {trip : Nat} {t : Trip}
  {d : Duplex ScriptedStream}

/-- What the calls on a tunnel look at. -/
structure Alike (w w' : World) : Prop where
  tunnels : w'.tunnels = w.tunnels
  trips : w'.trips = w.trips
  hub : w'.hub = w.hub

theorem Alike.refl (w : World) : Alike w w := ⟨rfl, rfl, rfl⟩

theorem Alike.trans {w'' : World} (h : Alike w w') (h' : Alike w' w'') : Alike w w'' :=
  ⟨h'.tunnels.trans h.tunnels, h'.trips.trans h.trips, h'.hub.trans h.hub⟩

theorem alike_foldl {α : Type} {f : World → α → World} (hf : ∀ w x, Alike w (f w x)) (w : World)
    (xs : List α) : Alike w (xs.foldl f w) := by
  induction xs generalizing w with
  | nil => exact .refl w
  | cons x xs ih => exact (hf w x).trans (ih _)

theorem alike_closeTransport (w : World) (i : Nat) : Alike w (w.closeTransport i) := by
  unfold closeTransport
  split
  · next x _ =>
    cases x.link <;> exact ⟨rfl, rfl, rfl⟩
  · exact .refl w

theorem alike_dropLink (w : World) (l : Nat) : Alike w (w.dropLink l) := ⟨rfl, rfl, rfl⟩

theorem alike_carryOut (w : World) : Alike w w.carryOut := by
  unfold carryOut
  dsimp only
  refine .trans ?_ (alike_foldl alike_dropLink _ _)
  refine .trans ?_ (alike_foldl (fun w g => alike_closeTransport w _) _ _)
  exact ⟨rfl, rfl, rfl⟩

/-- A new ledger is carried out, which changes nothing else that the calls look at. -/
theorem alike_setPool (w : World) (p : Pool) :
    Alike { w with hub := { w.hub with pool := p } } (w.setPool p) := alike_carryOut _

/-- The tunnel of that name, on that round trip, is `d`. -/
structure Holds (w : World) (name : String) (trip : Nat) (d : Duplex ScriptedStream) : Prop where
  tunnel : w.tunnel? name = some (.mux d.mux trip)
  trip : ∃ t, w.trips[trip]? = some t ∧ t.IsScripted ∧ t.channel = d.channel ∧ t.body? = d.response
  pool : w.hub.pool = d.pool

theorem tunnel?_setTunnel {x y : Tunnel} (h : w.tunnel? name = some x) :
    (w.setTunnel name y).tunnel? name = some y := by
  obtain ⟨⟨name', x'⟩, hfind, -⟩ := Option.map_eq_some_iff.mp h
  have hname : name' = name := by simpa using List.find?_some hfind
  have hsame : ((fun x : String × Tunnel => decide (x.1 = name)) ∘
      fun x => if x.1 = name then (name, y) else x) = fun x => decide (x.1 = name) := by
    funext x
    by_cases hx : x.1 = name
    · simp [hx]
    · simp [hx]
  rw [tunnel?, setTunnel, List.find?_map, hsame, hfind]
  simp [hname]

/-- A call leaves another tunnel, round trip and pool. -/
theorem Holds.put {t' : Trip} {d' : Duplex ScriptedStream} (h : w.Holds name trip d)
    (htunnel : w'.tunnel? name = some (.mux d'.mux trip))
    (htrips : w'.trips = w.trips.set trip t') (hpool : w'.hub.pool = d'.pool)
    (hscripted : t'.IsScripted) (hchannel : t'.channel = d'.channel)
    (hbody : t'.body? = d'.response) : w'.Holds name trip d' := by
  obtain ⟨t, ht, -⟩ := h.trip
  refine ⟨htunnel, ⟨t', ?_, hscripted, hchannel, hbody⟩, hpool⟩
  rw [htrips, List.getElem?_set_self]
  exact (List.getElem?_eq_some_iff.mp ht).1

theorem dropResponse_eq (ht : w.trips[trip]? = some t) (hscripted : t.IsScripted) :
    w.dropResponse trip = w.setTrip trip { t with dropped := true } := by
  have htrip : t.dropResponse = { t with dropped := true } := by
    unfold Trip.dropResponse
    split
    · next hdropped => rw [← hdropped]
    · exact if_neg hscripted.1
  unfold dropResponse
  rw [ht]
  dsimp only
  rw [htrip]
  split
  · next id _ hsource _ => exact absurd hsource (hscripted.2 id)
  · rfl

theorem readTrip_eq (ht : w.trips[trip]? = some t) (hscripted : t.IsScripted) (room : Nat) :
    w.readTrip room trip = ((t.read w.now room).1, w.setTrip trip (t.read w.now room).2) := by
  unfold readTrip
  rw [ht]
  dsimp only
  split
  · next id _ hsource _ => exact absurd hsource (hscripted.2 id)
  · rfl

theorem Holds.read (h : w.Holds name trip d) (hs : d.Sound) (room : Nat) :
    (w.read room name).1 = (d.read w.now room).1 ∧
      (w.read room name).2.Holds name trip (d.read w.now room).2 := by
  obtain ⟨t, ht, hscripted, hchannel, hbody⟩ := h.trip
  rw [World.read, h.tunnel]
  dsimp only
  cases hr : d.mux.readClosed with
  | true =>
    have hnone : d.response = none := by simpa [hr] using hs.halved
    have hread : d.read w.now room = (.ready [], d) := by rw [Duplex.read, hnone]
    rw [hread]
    exact ⟨rfl, h⟩
  | false =>
    have hleft : t.dropped = false := by
      have hsome := hs.halved
      rw [hr, ← hbody, Trip.body?] at hsome
      cases hdropped : t.dropped with
      | false => rfl
      | true => simp [hdropped] at hsome
    have htrip : t.read w.now room =
        ((t.response.read w.now room).1, { t with response := (t.response.read w.now room).2 }) := by
      rw [Trip.read, hleft, if_neg hscripted.1]
      rfl
    have hresponse : d.response =
        some { ScriptedStream.ofActs [] [] [] [] with reads := t.response } := by
      rw [← hbody, Trip.body?, hleft]
      rfl
    rw [readTrip_eq ht hscripted, htrip, Duplex.read, hresponse]
    refine ⟨rfl, h.put h.tunnel rfl h.pool hscripted hchannel ?_⟩
    rw [Trip.body?]
    exact if_neg (by simp [hleft])

theorem Holds.write (h : w.Holds name trip d) (bs : Bytes) :
    (w.write bs name).1 = (d.write bs).1 ∧ (w.write bs name).2.Holds name trip (d.write bs).2 := by
  obtain ⟨t, ht, hscripted, hchannel, hbody⟩ := h.trip
  have hnext : (w.setTrip trip { t with channel := (d.mux.write bs d.channel).2 }).Holds name trip
      (d.write bs).2 := h.put h.tunnel rfl h.pool hscripted rfl hbody
  rw [World.write, h.tunnel]
  dsimp only
  rw [ht]
  dsimp only
  rw [hchannel, Duplex.write]
  cases (d.mux.write bs d.channel).1 with
  | taken n => exact ⟨rfl, hnext⟩
  | full => exact ⟨rfl, hnext⟩
  | broken => exact ⟨rfl, hnext⟩

theorem Holds.flush (h : w.Holds name trip d) :
    (w.flush name).1 = .ready () ∧ (w.flush name).2.Holds name trip d := by
  rw [World.flush, h.tunnel]
  exact ⟨rfl, h⟩

theorem Holds.shutdown (h : w.Holds name trip d) :
    (w.shutdown name).1 = .ready () ∧ (w.shutdown name).2.Holds name trip d.closeWrite := by
  obtain ⟨t, ht, hscripted, hchannel, hbody⟩ := h.trip
  rw [World.shutdown, h.tunnel]
  dsimp only
  rw [endWriting, ht]
  dsimp only
  rw [hchannel]
  exact ⟨rfl, h.put (tunnel?_setTunnel h.tunnel) rfl h.pool hscripted rfl hbody⟩

theorem Holds.closeRead (h : w.Holds name trip d) :
    ∃ w', w.closeRead? name = some w' ∧ w'.Holds name trip d.closeRead := by
  obtain ⟨t, ht, hscripted, hchannel, -⟩ := h.trip
  rw [World.closeRead?, h.tunnel]
  dsimp only
  rw [endReading, dropResponse_eq ht hscripted]
  exact ⟨_, rfl, h.put (tunnel?_setTunnel h.tunnel) rfl h.pool hscripted hchannel rfl⟩

/-- A call ends both halves, and what it does to the pool is carried out. -/
theorem Holds.ended (h : w.Holds name trip d) (ht : w.trips[trip]? = some t)
    (hscripted : t.IsScripted) (m : MuxTunnel) (c : Channel) (p : Pool) :
    ((((w.setTrip trip { t with channel := c }).dropResponse trip).setPool p).setTunnel name
      (.mux m trip)).Holds name trip { d with mux := m, channel := c, response := none, pool := p } := by
  have hset : (w.setTrip trip { t with channel := c }).trips[trip]? =
      some { t with channel := c } := by
    rw [setTrip, List.getElem?_set_self]
    exact (List.getElem?_eq_some_iff.mp ht).1
  rw [dropResponse_eq hset hscripted]
  have halike := alike_setPool ((w.setTrip trip { t with channel := c }).setTrip trip
    { t with channel := c, dropped := true }) p
  have hscripted' : Trip.IsScripted { t with channel := c, dropped := true } := hscripted
  refine h.put (tunnel?_setTunnel (x := .mux d.mux trip) ?_) ?_ ?_ hscripted' rfl rfl
  · rw [tunnel?, halike.tunnels]
    exact h.tunnel
  · rw [setTunnel, halike.trips]
    exact List.set_set ..
  · rw [setTunnel, halike.hub]

theorem Holds.close (h : w.Holds name trip d) :
    ∃ w', w.close? name = some w' ∧ w'.Holds name trip d.close := by
  obtain ⟨t, ht, hscripted, hchannel, -⟩ := h.trip
  rw [World.close?, h.tunnel]
  dsimp only
  rw [closeMux, ht]
  dsimp only
  rw [hchannel, h.pool]
  exact ⟨_, rfl, h.ended ht hscripted _ _ _⟩

theorem Holds.closeTransport (h : w.Holds name trip d) :
    ∃ w', w.closeUnderlying? name = some (d.closeTransport.1, w') ∧
      w'.Holds name trip d.closeTransport.2 := by
  obtain ⟨t, ht, hscripted, hchannel, -⟩ := h.trip
  rw [World.closeUnderlying?, h.tunnel]
  dsimp only
  rw [ht]
  dsimp only
  rw [hchannel, h.pool, Duplex.closeTransport]
  cases hclose : d.mux.closeTransport d.channel d.pool with
  | mk r after =>
    cases r with
    | ok => exact ⟨_, rfl, h.ended ht hscripted _ _ _⟩
    | error f => exact ⟨_, rfl, h⟩

theorem keep_of_nil (h : w.tunnels = []) (name : String) (x : Tunnel) :
    w.keep name x = { w with tunnels := [(name, x)] } := by
  have hnone : w.tunnel? name = none := by
    rw [tunnel?, h]
    rfl
  rw [keep, remove, hnone]
  dsimp only
  rw [h]
  rfl

/-- The receiver of the request body takes what comes next. -/
theorem Holds.receive (h : w.Holds name trip d) :
    ∃ w', (Task.receive trip).step name w = (stepOfReceipt d.channel.receive.1, w') ∧
      w'.Holds name trip { d with channel := d.channel.receive.2 } := by
  obtain ⟨t, ht, hscripted, hchannel, hbody⟩ := h.trip
  refine ⟨w.setTrip trip { t with channel := d.channel.receive.2 }, ?_,
    h.put h.tunnel rfl h.pool hscripted rfl hbody⟩
  rw [Task.step, ht]
  dsimp only
  rw [hchannel]
  cases d.channel.receive.1 with
  | chunk bs => rfl
  | ended => rfl
  | nothing => rfl

/-- The receiver goes away. -/
theorem Holds.loseBody (h : w.Holds name trip d) :
    (w.loseBody trip).Holds name trip { d with channel := d.channel.abandon } := by
  obtain ⟨t, ht, hscripted, hchannel, hbody⟩ := h.trip
  refine ⟨h.tunnel, ⟨{ t with channel := d.channel.abandon, taker := .nobody }, ?_,
    ⟨nofun, hscripted.2⟩, rfl, hbody⟩, h.pool⟩
  rw [World.loseBody, List.getElem?_modify_eq, ht, ← hchannel]
  rfl

/-- Others get leases or give them back. -/
theorem Holds.setPool (h : w.Holds name trip d) (p : Pool) (others : Nat) :
    (w.setPool p).Holds name trip { d with pool := p, others := others } := by
  obtain ⟨t, ht, hscripted, hchannel, hbody⟩ := h.trip
  have halike := alike_setPool w p
  refine ⟨?_, ⟨t, ?_, hscripted, hchannel, hbody⟩, ?_⟩
  · rw [tunnel?, halike.tunnels]
    exact h.tunnel
  · rw [halike.trips]
    exact ht
  · rw [halike.hub]

end World

namespace TunnelBench

variable {b : TunnelBench} {d : Duplex ScriptedStream}

/-- The tunnel still has its lease. -/
def hasLease (b : TunnelBench) : Bool := (b.lease?.join).isSome

/-- What the receiver of a request body is told. -/
def receiptOf : TaskStep → DuplexAnswer
  | .ended (.bytes bs) => .receipt (.chunk bs)
  | .ended .bodyEnded => .receipt .ended
  | .waiting => .receipt .nothing
  | _ => .silent

theorem receiptOf_stepOfReceipt (r : Receipt) : receiptOf (stepOfReceipt r) = .receipt r := by
  cases r <;> rfl

/-- One event on a bench with a multiplexed tunnel, each call at its time. -/
def event (b : TunnelBench) : DuplexEvent → DuplexAnswer × TunnelBench
  | .use (.read now room) =>
    let r := { b.world with now := now }.read room ""
    (.use (.read r.1), { b with world := r.2 })
  | .use (.write now bs) =>
    let r := { b.world with now := now }.write bs ""
    (.use (.write r.1), { b with world := r.2 })
  | .use (.flush now) =>
    let r := { b.world with now := now }.flush ""
    (.use (.flush r.1), { b with world := r.2 })
  | .use (.shutdown now) =>
    let r := { b.world with now := now }.shutdown ""
    (.use (.shutdown r.1), { b with world := r.2 })
  | .closeWrite => (.done (.ok ()), { b with world := (b.world.shutdown "").2 })
  | .closeRead => (.done (.ok ()), { b with world := (b.world.closeRead? "").getD b.world })
  | .close => (.done (.ok ()), { b with world := (b.world.close? "").getD b.world })
  | .closeTransport =>
    match b.world.closeUnderlying? "" with
    | some (r, w) => (.done r, { b with world := w })
    | none => (.silent, b)
  | .received =>
    if b.hasBody then
      let r := (Task.receive 0).step "" b.world
      (receiptOf r.1, { b with world := r.2 })
    else (.silent, b)
  | .abandoned => (.silent, (b.step .loseBody).2)
  | .joined =>
    if b.hasLease then (.silent, (b.step .addLease).2)
    else if 0 < b.leases then
      (.silent, b.withPool (b.world.hub.pool.retain b.group) (b.leases + 1))
    else (.silent, b)
  | .parted => (.silent, (b.step .dropLease).2)

/-- The bench has that tunnel; the caller holds the other leases. -/
structure Shows (b : TunnelBench) (d : Duplex ScriptedStream) : Prop where
  world : b.world.Holds "" 0 d
  group : b.group = 0
  leases : b.leases = d.others

namespace Shows

theorem withWorld {d' : Duplex ScriptedStream} (h : b.Shows d) {w : World}
    (hw : w.Holds "" 0 d') (hothers : d'.others = d.others) :
    ({ b with world := w } : TunnelBench).Shows d' := ⟨hw, h.group, h.leases.trans hothers.symm⟩

theorem withPool (h : b.Shows d) (p : Pool) (others : Nat) :
    (b.withPool p others).Shows { d with pool := p, others := others } :=
  ⟨h.world.setPool p others, h.group, rfl⟩

theorem lease? (h : b.Shows d) : b.lease? = some d.mux.lease := by
  rw [TunnelBench.lease?, tunnel?, h.world.tunnel]

theorem hasBody (h : b.Shows d) : b.hasBody = d.channel.receiving := by
  obtain ⟨t, ht, -, hchannel, -⟩ := h.world.trip
  rw [TunnelBench.hasBody, List.head?_eq_getElem?, ht, ← hchannel]
  rfl

/-- Every event on the bench is that event of the tunnel with all it uses. -/
theorem event (h : b.Shows d) (hs : d.Sound) (e : DuplexEvent) :
    (b.event e).1 = (d.step e).1 ∧ (b.event e).2.Shows (d.step e).2 := by
  have later (now : Nat) : ({ b.world with now := now } : World).Holds "" 0 d :=
    ⟨h.world.tunnel, h.world.trip, h.world.pool⟩
  cases e with
  | use u =>
    cases u with
    | read now room =>
      obtain ⟨hanswer, hw⟩ := (later now).read hs room
      have hothers : (d.read now room).2.others = d.others := by
        unfold Duplex.read
        split <;> rfl
      exact ⟨congrArg (fun r => DuplexAnswer.use (.read r)) hanswer, h.withWorld hw hothers⟩
    | write now bs =>
      obtain ⟨hanswer, hw⟩ := (later now).write bs
      exact ⟨congrArg (fun r => DuplexAnswer.use (.write r)) hanswer, h.withWorld hw rfl⟩
    | flush now =>
      obtain ⟨hanswer, hw⟩ := (later now).flush
      exact ⟨congrArg (fun r => DuplexAnswer.use (.flush r)) hanswer, h.withWorld hw rfl⟩
    | shutdown now =>
      obtain ⟨hanswer, hw⟩ := (later now).shutdown
      exact ⟨congrArg (fun r => DuplexAnswer.use (.shutdown r)) hanswer, h.withWorld hw rfl⟩
  | closeWrite => exact ⟨rfl, h.withWorld h.world.shutdown.2 rfl⟩
  | closeRead =>
    obtain ⟨w, hw, hnext⟩ := h.world.closeRead
    rw [TunnelBench.event, hw]
    exact ⟨rfl, h.withWorld hnext rfl⟩
  | close =>
    obtain ⟨w, hw, hnext⟩ := h.world.close
    rw [TunnelBench.event, hw]
    exact ⟨rfl, h.withWorld hnext rfl⟩
  | closeTransport =>
    obtain ⟨w, hw, hnext⟩ := h.world.closeTransport
    have hothers : d.closeTransport.2.others = d.others := by
      unfold Duplex.closeTransport
      split <;> rfl
    rw [TunnelBench.event, hw]
    exact ⟨rfl, h.withWorld hnext hothers⟩
  | received =>
    rw [TunnelBench.event, h.hasBody, Duplex.step, Duplex.receive]
    cases d.channel.receiving with
    | false => exact ⟨rfl, h⟩
    | true =>
      obtain ⟨w, hw, hnext⟩ := h.world.receive
      rw [hw]
      exact ⟨receiptOf_stepOfReceipt _, h.withWorld hnext rfl⟩
  | abandoned => exact ⟨rfl, h.withWorld h.world.loseBody rfl⟩
  | joined =>
    have hlease : b.hasLease = d.mux.lease.isSome := by
      rw [TunnelBench.hasLease, h.lease?]
      rfl
    rw [TunnelBench.event, hlease, Duplex.step, Duplex.join]
    cases hl : d.mux.lease with
    | some g =>
      obtain rfl := hs.held.first g hl
      have hadd : (b.step .addLease).2 =
          b.withPool (b.world.hub.pool.retain 0) (b.leases + 1) := by
        rw [TunnelBench.step, h.lease?, hl]
      rw [hadd, h.world.pool, h.leases]
      exact ⟨rfl, h.withPool _ _⟩
    | none =>
      by_cases ho : 0 < d.others
      · rw [h.leases, h.group, h.world.pool]
        simp only [Option.isSome_none, Bool.false_eq_true, if_false, if_pos ho, Bool.false_or,
          decide_eq_true ho, if_true, true_and]
        exact h.withPool _ _
      · rw [h.leases]
        simp only [Option.isSome_none, Bool.false_eq_true, if_false, if_neg ho, Bool.false_or,
          decide_eq_false ho, true_and]
        exact h
  | parted =>
    rw [TunnelBench.event, TunnelBench.step, Duplex.step, Duplex.part, h.leases, h.group,
      h.world.pool]
    by_cases ho : d.others = 0
    · rw [if_pos ho, if_neg (by omega)]
      exact ⟨rfl, h⟩
    · rw [if_neg ho, if_pos (by omega)]
      exact ⟨rfl, h.withPool _ _⟩

end Shows

theorem shows_mux (leases : Nat) (reads : List Act) :
    (mux leases reads).Shows (.start leases (.ofActs reads [] [] [])) := by
  have hretained (p : Pool) : (List.range leases).foldl (fun p _ => p.retain 0) p =
      Nat.repeat (·.retain 0) leases p := by
    induction leases with
    | zero => rfl
    | succ n ih => rw [List.range_succ, List.foldl_append, ih]; rfl
  let issued := Pool.empty.issue 0
  let pool := (List.range leases).foldl (fun p _ => p.retain issued.2) issued.1
  let r : TripResult := ⟨200, .hold, reads, false⟩
  let t := (Trip.start 0 (.plan (.instant r) 0)).answer r
  let w : World := { World.start (.start 0 false) [] .scripted [] with
    transports := [⟨none, .scripted true [], [], []⟩], trips := [t] }
  have hfirst := World.alike_setPool w issued.1
  have hboth := World.alike_setPool (w.setPool issued.1) pool
  have htunnels : ((w.setPool issued.1).setPool pool).tunnels = [] :=
    hboth.tunnels.trans hfirst.tunnels
  have htrips : ((w.setPool issued.1).setPool pool).trips = [t] := hboth.trips.trans hfirst.trips
  have hpool : ((w.setPool issued.1).setPool pool).hub.pool = pool := by rw [hboth.hub]
  have hkeep : (mux leases reads).world =
      { (w.setPool issued.1).setPool pool with tunnels := [("", .mux (.ofLease 0) 0)] } := by
    exact World.keep_of_nil htunnels "" _
  refine ⟨?_, rfl, rfl⟩
  rw [hkeep]
  refine ⟨rfl, ⟨t, ?_, ⟨nofun, nofun⟩, rfl, rfl⟩, ?_⟩
  · dsimp only
    rw [htrips]
    rfl
  · exact hpool.trans (hretained _)

/-- The calls on a multiplexed tunnel of the bench, between all that others do, are a run of a
tunnel with all it uses. -/
theorem run_mux (leases : Nat) (reads : List Act) (es : List DuplexEvent) :
    let r := Duplex.run leases (ScriptedStream.ofActs reads [] [] []) es
    (transcript event (mux leases reads) es).1 = r.1 ∧
      (transcript event (mux leases reads) es).2.Shows r.2 := by
  have hrun := transcript_eq (R := fun (b : TunnelBench) d => b.Shows d ∧ d.Sound)
    (fun b d e h => ⟨(h.1.event h.2 e).1, (h.1.event h.2 e).2, h.2.step e⟩)
    ⟨shows_mux leases reads, Duplex.sound_start leases _⟩ es
  exact ⟨hrun.1, hrun.2.1⟩

end TunnelBench

end TunnelDial.Rehearsal
