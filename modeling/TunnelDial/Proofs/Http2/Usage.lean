import TunnelDial.Http2.Traffic
import TunnelDial.Proofs.Http2.Arrival

/-! Who uses the streams of an endpoint, and how many there may be. No frame that comes and nothing
that is sent changes who uses them: streams are taken into use when they are opened, and fall out of
use when their readers and writers leave. How many there may be is told by the settings alone. -/
namespace TunnelDial.Http2

/-- A stream by its number, with who uses it. -/
structure Usage where
  id : Nat
  reading : Bool
  writing : Bool
deriving DecidableEq, Repr

namespace Usage

/-- Somebody uses the stream. -/
def isBusy (u : Usage) : Bool := u.reading || u.writing

/-- The reader of a stream leaves. -/
def unread (id : Nat) (u : Usage) : Usage := if u.id = id then { u with reading := false } else u

/-- The writer of a stream leaves. -/
def unwritten (id : Nat) (u : Usage) : Usage := if u.id = id then { u with writing := false } else u

@[simp] theorem id_unread (id : Nat) (u : Usage) : (u.unread id).id = u.id := by
  unfold unread
  split <;> rfl

@[simp] theorem id_unwritten (id : Nat) (u : Usage) : (u.unwritten id).id = u.id := by
  unfold unwritten
  split <;> rfl

theorem unread_of_ne {id : Nat} {u : Usage} (h : u.id ≠ id) : u.unread id = u := if_neg h

theorem unwritten_of_ne {id : Nat} {u : Usage} (h : u.id ≠ id) : u.unwritten id = u := if_neg h

end Usage

def Stream.usage (s : Stream) : Usage := ⟨s.id, s.reading, s.writing⟩

@[simp] theorem Stream.usage_fail (c : Cause) (s : Stream) : (s.fail c).usage = s.usage := by
  unfold fail
  split <;> rfl

/-- The side of a connection, the number of its next stream, what the other side allows, and who
uses the streams. -/
structure Roll where
  isClient : Bool
  nextId : Nat
  settled : Bool
  limit : Option Nat
  usages : List Usage

/-- The limit of streams after some settings. -/
def Roll.limitAfter (values : List Setting) (limit : Option Nat) : Option Nat :=
  values.foldl (fun l s => if s.id = 3 then some s.value else l) limit

/-- The other side told its settings. -/
def Roll.settle (r : Roll) (values : List Setting) : Roll :=
  { r with settled := true, limit := limitAfter values (if r.settled then r.limit else none) }

/-! ### How many streams there may be -/

/-- What a roll says about the limit of streams is what the settings tell. -/
structure Roll.Told (told : List (List Setting)) (r : Roll) : Prop where
  settled_eq : r.settled = !told.isEmpty
  limit_eq : r.limit = Endpoint.allowed told

namespace Roll

variable {told : List (List Setting)} {r : Roll}

theorem limitsOf_cons (s : Setting) (values : List Setting) : Endpoint.limitsOf (s :: values) =
    if s.id = 3 then s.value :: Endpoint.limitsOf values else Endpoint.limitsOf values := by
  unfold Endpoint.limitsOf
  rw [List.filterMap_cons]
  split <;> simp_all

theorem limitAfter_eq (values : List Setting) (limit : Option Nat) :
    limitAfter values limit = (Endpoint.limitsOf values).getLast?.or limit := by
  induction values generalizing limit with
  | nil => rfl
  | cons s values ih =>
    rw [limitAfter, List.foldl_cons, ← limitAfter, ih]
    rw [limitsOf_cons]
    by_cases hs : s.id = 3
    · rw [if_pos hs, if_pos hs, List.getLast?_cons]
      cases (Endpoint.limitsOf values).getLast? <;> rfl
    · rw [if_neg hs, if_neg hs]

/-- The last limit that is named counts; what there was before the first settings does not. -/
theorem Told.settle (h : r.Told told) (values : List Setting) :
    (r.settle values).Told (told ++ [values]) where
  settled_eq := by simp [Roll.settle]
  limit_eq := by
    have hbefore : (if r.settled then r.limit else none) =
        (Endpoint.limitsOf told.flatten).getLast? := by
      rw [h.settled_eq, h.limit_eq]
      cases told with
      | nil => rfl
      | cons values told => rfl
    have hboth : Endpoint.limitsOf (told ++ [values]).flatten =
        Endpoint.limitsOf told.flatten ++ Endpoint.limitsOf values := by
      simp [Endpoint.limitsOf]
    rw [Roll.settle, limitAfter_eq, hbefore, Endpoint.allowed, if_neg (by simp), hboth,
      List.getLast?_append]

theorem Told.settles (h : r.Told told) (more : List (List Setting)) :
    (more.foldl Roll.settle r).Told (told ++ more) := by
  induction more generalizing told r with
  | nil => simpa using h
  | cons values more ih => simpa using ih (h.settle values)

/-- Settings change nothing but what they tell. -/
theorem settles_eq (more : List (List Setting)) (r : Roll) :
    (more.foldl settle r).isClient = r.isClient ∧ (more.foldl settle r).nextId = r.nextId ∧
      (more.foldl settle r).usages = r.usages := by
  induction more generalizing r with
  | nil => exact ⟨rfl, rfl, rfl⟩
  | cons values more ih => exact ih (r.settle values)

end Roll

namespace Endpoint

def roll (e : Endpoint) : Roll :=
  ⟨e.isClient, e.nextId, e.settled, e.limit, e.streams.map Stream.usage⟩

variable {e : Endpoint} {id : Nat}

@[simp] theorem roll_push (e : Endpoint) (f : Frame) : (e.push f).roll = e.roll := rfl

/-- An update of all streams that leaves their users alone. -/
theorem roll_map {f : Stream → Stream} (hf : ∀ s, (f s).usage = s.usage) (e : Endpoint) :
    roll { e with streams := e.streams.map f } = e.roll := by
  simp [roll, Function.comp_def, hf]

theorem roll_modify {f : Stream → Stream} (hf : ∀ s, (f s).usage = s.usage) (e : Endpoint)
    (id : Nat) : (e.modify id f).roll = e.roll :=
  roll_map (fun s => by split; exacts [hf s, rfl]) e

theorem roll_foldl {α : Type} {f : Endpoint → α → Endpoint} (hf : ∀ e a, (f e a).roll = e.roll)
    (as : List α) (e : Endpoint) : (as.foldl f e).roll = e.roll := by
  induction as generalizing e with
  | nil => rfl
  | cons a as ih => exact (ih (f e a)).trans (hf e a)

@[simp] theorem roll_unqueue (e : Endpoint) (id : Nat) : (e.unqueue id).roll = e.roll :=
  roll_modify (fun _ => by rfl) _ id

@[simp] theorem roll_failAll (e : Endpoint) (c : Cause) : (e.failAll c).roll = e.roll :=
  roll_map (Stream.usage_fail c) e

@[simp] theorem roll_refuse (e : Endpoint) (r : Reason) (debug : Bytes) :
    (e.refuse r debug).roll = e.roll := e.roll_failAll _

@[simp] theorem roll_reset (e : Endpoint) (id : Nat) (party : Party) (r : Reason) :
    (e.reset id party r).roll = e.roll :=
  (roll_modify (fun s => by split <;> rfl) _ id).trans (e.roll_unqueue id)

@[simp] theorem roll_forsake (e : Endpoint) (id : Nat) : (e.forsake id).roll = e.roll := by
  unfold forsake
  split
  · split
    · rfl
    · exact roll_modify (fun _ => by rfl) e id
  · rfl

@[simp] theorem roll_releaseConnection (e : Endpoint) (n : Nat) :
    (e.releaseConnection n).roll = e.roll := rfl

@[simp] theorem roll_passOver (e : Endpoint) (n : Nat) : (e.passOver n).roll = e.roll := rfl

@[simp] theorem roll_release (e : Endpoint) (id n : Nat) : (e.release id n).roll = e.roll :=
  roll_modify (fun _ => by rfl) _ id

@[simp] theorem roll_read (e : Endpoint) (id : Nat) : (e.read id).2.roll = e.roll := by
  unfold read
  split
  · rfl
  · split
    · exact (roll_release _ id _).trans (roll_modify (fun _ => by rfl) e id)
    · split <;> rfl

@[simp] theorem roll_emit (e : Endpoint) (s : Stream) (bs : Bytes) :
    (e.emit s bs).roll = e.roll := by
  unfold emit
  split
  · rfl
  · exact roll_modify (fun _ => by rfl) e s.id

@[simp] theorem roll_finish (e : Endpoint) (id : Nat) : (e.finish id).roll = e.roll :=
  roll_modify (fun _ => by rfl) e id

@[simp] theorem roll_sendHead (e : Endpoint) (id : Nat) (fields : List BlockField) (last : Bool) :
    (e.sendHead id fields last).roll = e.roll := by
  unfold sendHead
  dsimp only
  split
  · exact roll_modify (fun _ => by rfl) _ id
  · rfl

/-! ### Streams taken into use and given up -/

theorem roll_openStream (e : Endpoint) : e.openStream.roll =
    { e.roll with
      nextId := e.nextId + 2
      usages := e.roll.usages ++ [⟨e.nextId, true, true⟩] } := by
  simp [roll, openStream, Stream.fresh, Stream.usage]

theorem roll_dropWriting (e : Endpoint) (id : Nat) : (e.dropWriting id).roll =
    { e.roll with usages := e.roll.usages.map (Usage.unwritten id) } := by
  rw [dropWriting, roll_forsake]
  simp only [roll, modify, List.map_map]
  congr 1
  refine List.map_congr_left fun s _ => ?_
  by_cases hs : s.id = id <;> simp [Stream.usage, Usage.unwritten, hs]

theorem roll_dropReading (e : Endpoint) (id : Nat) : (e.dropReading id).roll =
    { e.roll with usages := e.roll.usages.map (Usage.unread id) } := by
  unfold dropReading
  cases hs : e.stream? id with
  | none =>
    have hsame : e.roll.usages.map (Usage.unread id) = e.roll.usages := by
      simp only [roll, List.map_map]
      refine List.map_congr_left fun s hmem => ?_
      exact Usage.unread_of_ne (ne_of_stream?_none hs hmem)
    rw [hsame]
  | some s =>
    dsimp only
    rw [roll_forsake]
    simp only [roll, modify, releaseConnection, List.map_map]
    congr 1
    refine List.map_congr_left fun s _ => ?_
    by_cases hs : s.id = id <;> simp [Stream.usage, Usage.unread, hs]

/-! ### Frames that come -/

@[simp] theorem roll_takeIn (e : Endpoint) (id : Nat) (bs : Bytes) (last : Bool) :
    (e.takeIn id bs last).roll = e.roll := roll_modify (fun _ => by rfl) _ id

@[simp] theorem roll_receiveData (e : Endpoint) (id : Nat) (bs : Bytes) (last : Bool) :
    (e.receiveData id bs last).roll = e.roll := by
  fun_cases receiveData e id bs last with
  | _ => simp +zetaDelta

@[simp] theorem roll_receiveStatus (e : Endpoint) (id status : Nat) (fields : List BlockField)
    (last : Bool) : (e.receiveStatus id status fields last).roll = e.roll := by
  have hseen : roll { e with lastSeen := max e.lastSeen id } = e.roll := rfl
  unfold receiveStatus
  dsimp only
  split
  · split
    · exact (roll_reset _ id _ _).trans hseen
    · exact hseen
  · exact (roll_modify (fun _ => by rfl) _ id).trans hseen

/-- A head that comes to a client opens no stream. -/
theorem roll_receiveHead (hclient : e.isClient = true) (id : Nat) (block : Bytes) (last : Bool) :
    (e.receiveHead id block last).roll = e.roll := by
  fun_cases receiveHead e id block last with
  | case4 => exact roll_modify (fun _ => by rfl) e id
  | _ => simp_all

theorem roll_applySetting (e : Endpoint) (s : Setting) : (e.applySetting s).roll =
    { e.roll with limit := if s.id = 3 then some s.value else e.limit } := by
  unfold applySetting
  split
  · next h => simp [h, roll]
  · next h => simp [h, roll, Stream.usage, Function.comp_def]
  · next h _ =>
    have h : s.id ≠ 3 := h
    simp [h, roll]

theorem roll_applySettings (values : List Setting) (e : Endpoint) :
    (values.foldl applySetting e).roll =
      { e.roll with limit := Roll.limitAfter values e.limit } := by
  induction values generalizing e with
  | nil => rfl
  | cons s values ih =>
    rw [List.foldl_cons, ih, roll_applySetting]
    have hlimit : (e.applySetting s).limit = if s.id = 3 then some s.value else e.limit :=
      congrArg Roll.limit (e.roll_applySetting s)
    rw [hlimit]
    rfl

theorem roll_receiveSettings (e : Endpoint) (values : List Setting) :
    (e.receiveSettings values).roll = e.roll.settle values := by
  unfold receiveSettings
  dsimp only
  rw [roll_push, roll_applySettings]
  cases hsettled : e.settled with
  | true => simp [roll, Roll.settle, hsettled]
  | false => simp [roll, Roll.settle, hsettled]

@[simp] theorem roll_receiveFarewell (e : Endpoint) (last : Nat) (r : Reason) (debug : Bytes) :
    (e.receiveFarewell last r debug).roll = e.roll := by
  unfold receiveFarewell
  split
  · simp
  · exact roll_map (fun s => by split <;> simp) e

@[simp] theorem roll_receiveReset (e : Endpoint) (id : Nat) (r : Reason) :
    (e.receiveReset id r).roll = e.roll := by
  fun_cases receiveReset e id r with
  | _ =>
    first
    | rfl
    | exact e.roll_refuse _ _
    | exact (roll_modify (fun _ => by rfl) _ id).trans (e.roll_unqueue id)

@[simp] theorem roll_receiveWindow (e : Endpoint) (id more : Nat) :
    (e.receiveWindow id more).roll = e.roll := by
  fun_cases receiveWindow e id more with
  | _ =>
    first
    | rfl
    | exact e.roll_refuse _ _
    | exact e.roll_reset id _ _
    | exact roll_modify (fun _ => by rfl) e id

/-- A frame that comes to a client changes nothing, unless it tells settings. -/
theorem roll_receive (hclient : e.isClient = true) (f : Frame) :
    (e.receive f).roll = (toldBy [(e, f)]).foldl Roll.settle e.roll := by
  have hquiet {f : Frame} {e' : Endpoint} (htold : toldBy [(e, f)] = [])
      (hsame : e'.roll = e.roll) : e'.roll = (toldBy [(e, f)]).foldl Roll.settle e.roll := by
    rw [htold]
    exact hsame
  have hwithin {p : Nat × Bool × Bytes} (h : e.partialHead = some p) (f : Frame) :
      toldBy [(e, f)] = [] := by simp [toldBy, h]
  fun_cases receive e f with
  | case1 _ _ _ _ _ _ h => exact hquiet (hwithin h _) (e.roll_refuse _ _)
  | case2 id last block id' more h =>
    exact hquiet (hwithin h _)
      (roll_receiveHead (e := { e with partialHead := none }) hclient id (block ++ more) last)
  | case3 _ _ _ _ _ _ h => exact hquiet (hwithin h _) rfl
  | case4 _ _ h => exact hquiet (hwithin h _) (e.roll_refuse _ _)
  | case5 => exact hquiet (by simp [toldBy, *]) (e.roll_refuse _ _)
  | case6 => exact hquiet (by simp [toldBy, *]) (e.roll_receiveData _ _ _)
  | case7 => exact hquiet (by simp [toldBy, *]) (roll_receiveHead hclient _ _ _)
  | case9 => exact hquiet (by simp [toldBy, *]) (e.roll_receiveReset _ _)
  | case10 values h =>
    rw [roll_receiveSettings]
    simp [toldBy, h]
  | case14 => exact hquiet (by simp [toldBy, *]) (e.roll_receiveFarewell _ _ _)
  | case15 => exact hquiet (by simp [toldBy, *]) (e.roll_receiveWindow _ _)
  | _ => exact hquiet (by simp [toldBy, *]) rfl

theorem toldBy_cons (x : Endpoint × Frame) (log : Log) :
    toldBy (x :: log) = toldBy [x] ++ toldBy log := by
  simp [toldBy]

theorem roll_digest (n : Nat) (hclient : e.isClient = true) :
    (digest n e).roll = (toldBy (framesIn n e)).foldl Roll.settle e.roll := by
  induction n generalizing e with
  | zero => rfl
  | succ n ih =>
    unfold digest framesIn
    split
    · rfl
    · cases hnext : Frame.next e.input with
      | more => rfl
      | broken r => exact e.roll_refuse r []
      | frame f rest =>
        have hreceive := roll_receive (e := { e with input := rest }) hclient f
        have hstill : (receive { e with input := rest } f).isClient = true := by
          have h := congrArg Roll.isClient hreceive
          exact (h.trans (Roll.settles_eq _ _).1).trans hclient
        dsimp only
        rw [ih hstill, toldBy_cons, List.foldl_append, hreceive]
        rfl

theorem roll_feed (hclient : e.isClient = true) (bs : Bytes) :
    (e.feed bs).roll = (toldBy (e.framesOf bs)).foldl Roll.settle e.roll :=
  roll_digest (e := { e with input := e.input ++ bs }) _ hclient

@[simp] theorem roll_end (e : Endpoint) : e.end_.roll = e.roll := by
  unfold end_
  split
  · exact e.roll_failAll _
  · exact e.roll_failAll _

/-! ### Frames that are sent -/

@[simp] theorem roll_letGo (id n : Nat) (e : Endpoint) : (letGo id n e).roll = e.roll := by
  fun_induction letGo id n e with
  | case5 n e s hs bs rest hout hsend hfull ih =>
    exact ih.trans ((roll_modify (fun _ => by rfl) _ id).trans (e.roll_emit s _))
  | case6 n e s hs rest hout ih | case7 n e s hs r rest hout ih =>
    exact ih.trans (roll_modify (fun _ => by rfl) e id)
  | _ => rfl

@[simp] theorem roll_announceStream (e : Endpoint) (s : Stream) :
    (e.announceStream s).roll = e.roll := by
  unfold announceStream
  split
  · split
    · rfl
    · exact roll_modify (fun _ => by rfl) _ s.id
  · rfl

@[simp] theorem roll_announce (e : Endpoint) : e.announce.roll = e.roll := by
  have hall := roll_foldl roll_announceStream e.streams e
  unfold announce
  dsimp only
  split
  · exact hall
  · exact hall

@[simp] theorem roll_render (e : Endpoint) : e.render.roll = e.roll := by
  unfold render
  split
  · rfl
  · have hgo : e.letAllGo.roll = e.roll :=
      roll_foldl (fun e s => by split; exacts [rfl, roll_letGo s.id _ e]) e.streams e
    exact e.letAllGo.roll_announce.trans hgo

end Endpoint

namespace Client

variable {c : Client} {id : Nat}

theorem roll_start (window : Option Nat) :
    (start window).core.roll = ⟨true, 1, false, some Endpoint.firstLimit, []⟩ := by
  simp only [start, Endpoint.roll_push]
  rfl

/-- What the connection does by itself, and that it is cut off, changes nothing but what the other
side allows. -/
theorem roll_after (hclient : c.core.isClient = true) {e : ClientEvent}
    (he : e.isDriven = true ∨ e = .close) :
    (c.after e).core.roll = (Endpoint.toldBy (c.framesOf e)).foldl Roll.settle c.core.roll := by
  cases e with
  | heard bs => exact Endpoint.roll_feed hclient bs
  | ended => exact c.core.roll_end
  | broken f => exact c.core.roll_failAll _
  | idle =>
    change c.leaveIfIdle.core.roll = c.core.roll
    unfold leaveIfIdle
    split <;> rfl
  | rendered => exact c.core.roll_render
  | written n => rfl
  | stopped => rfl
  | close =>
    change c.close.core.roll = c.core.roll
    unfold close
    split
    · rfl
    · exact c.core.roll_failAll _
  | request r => simp [ClientEvent.isDriven] at he
  | pump id hand channel => simp [ClientEvent.isDriven] at he
  | drop id => simp [ClientEvent.isDriven] at he

theorem roll_request {r : ConnectRequest} {c' : Client} {id : Nat}
    (h : c.request r = .ok (c', id)) : id = c.core.nextId ∧
      c'.core.roll = c.core.openStream.roll ∧ c'.alive = c.alive ∧ c'.closed = c.closed := by
  unfold request at h
  split at h
  · cases h
  split at h
  · cases h
  split at h
  · cases h
  split at h
  · cases h
  · cases h
    exact ⟨rfl, Endpoint.roll_sendHead _ _ _ _, rfl, rfl⟩

theorem roll_readOff (id room n : Nat) (left : Bytes) (c : Client) :
    (c.readOff id room left n).2.2.core.roll = c.core.roll ∧
      (c.readOff id room left n).2.2.alive = c.alive ∧
      (c.readOff id room left n).2.2.closed = c.closed := by
  induction n generalizing left c with
  | zero => exact ⟨rfl, rfl, rfl⟩
  | succ n ih =>
    unfold readOff
    split
    · exact ⟨rfl, rfl, rfl⟩
    · have hread := c.core.roll_read id
      dsimp only
      split
      · next bs _ =>
        obtain ⟨hroll, halive, hclosed⟩ := ih bs { c with core := (c.core.read id).2 }
        exact ⟨hroll.trans hread, halive, hclosed⟩
      · exact ⟨hread, rfl, rfl⟩
      · exact ⟨hread, rfl, rfl⟩
      · split <;> exact ⟨hread, rfl, rfl⟩

/-- That a stream has a writer, as the roll has it. -/
theorem isPumped_iff : c.isPumped id = true ↔
    ∃ u, c.core.roll.usages.find? (·.id = id) = some u ∧ u.writing = true := by
  have hfind : c.core.roll.usages.find? (·.id = id) = (c.core.stream? id).map Stream.usage :=
    List.find?_map
  rw [hfind, isPumped]
  cases c.core.stream? id with
  | none => simp
  | some s => simp [Stream.usage]

theorem pump_alive_closed (id : Nat) (hand : Bytes) (channel : Channel) (c : Client) :
    (c.pump id hand channel).2.2.2.alive = c.alive ∧
      (c.pump id hand channel).2.2.2.closed = c.closed := by
  fun_cases pump id hand channel c with
  | _ => exact ⟨rfl, rfl⟩

/-- What sends a request body on goes on, or it leaves its stream. -/
theorem roll_pump (hpumped : c.isPumped id = true) (hand : Bytes) (channel : Channel) :
    let c' := (c.pump id hand channel).2.2.2
    c'.core.roll = if c'.isPumped id then c.core.roll
      else { c.core.roll with usages := c.core.roll.usages.map (Usage.unwritten id) } := by
  have hgoing {core : Endpoint} (hroll : core.roll = c.core.roll) :
      core.roll = if isPumped id { c with core := core } then c.core.roll
        else { c.core.roll with usages := c.core.roll.usages.map (Usage.unwritten id) } := by
    have hstill : isPumped id { c with core := core } = true := by
      rw [isPumped_iff] at hpumped ⊢
      rwa [hroll]
    rw [hstill, hroll]
    rfl
  have hleft {core : Endpoint} (hroll : core.roll = c.core.roll) :
      (core.dropWriting id).roll = if isPumped id { c with core := core.dropWriting id }
        then c.core.roll
        else { c.core.roll with usages := c.core.roll.usages.map (Usage.unwritten id) } := by
    have hdone : ¬isPumped id { c with core := core.dropWriting id } = true := by
      rw [isPumped_iff]
      rintro ⟨u, hu, hwriting⟩
      rw [Endpoint.roll_dropWriting] at hu
      obtain ⟨v, -, rfl⟩ := List.mem_map.mp (List.mem_of_find?_eq_some hu)
      have hid : v.id = id := by simpa using List.find?_some hu
      simp [Usage.unwritten, hid] at hwriting
    rw [if_neg hdone, Endpoint.roll_dropWriting, hroll]
  fun_cases pump id hand channel c with
  | case1 hs => exact hgoing rfl
  | case2 s hs p hstopped => exact hgoing rfl
  | case3 s hs p _ hover r => exact hleft rfl
  | case4 s hs p _ _ hhand r core =>
    by_cases hended : r.1 = .ended
    · have hcore : core = (c.core.finish id).dropWriting id := if_pos hended
      simp only [hcore]
      exact hleft (c.core.roll_finish id)
    · have hcore : core = c.core := if_neg hended
      simp only [hcore]
      exact hgoing rfl
  | case5 s hs p _ _ hhand r => exact hgoing (c.core.roll_emit s _)

end Client

end TunnelDial.Http2
