import TunnelDial.Proofs.Dial.Run
import TunnelDial.Proofs.Header.Values
import TunnelDial.Proofs.Request.Head
import TunnelDial.Rehearsal.Session

/-! The requests of dials. A dial has one request from its arrival on; on every path to the proxy
that request is what it sends, with the caller's fields over those of the credentials and the
options, and a dialer has the same fields for all its dials. -/
namespace TunnelDial

/-- What a dial sends to the proxy: its request on the transport of a lease, or the head of its
request on a connection of its own. -/
inductive Sending
  | request (lease : Nat) (r : ConnectRequest)
  | head (link : Nat) (bytes : Bytes)
deriving DecidableEq, Repr

/-- What a dial sent that waits in its phase for the answer. -/
def Dial.sending? (x : Dial) : Option Sending :=
  match x.phase with
  | .reusing _ g _ => some (.request g x.request)
  | .opening _ g _ => some (.request g x.request)
  | .exchanging _ k => some (.head k x.request.head)
  | _ => none

/-- The request, or its head, is what a dial with that request sends. -/
def ConnectRequest.IsSent (r : ConnectRequest) : Sending → Prop
  | .request _ r' => r' = r
  | .head _ bytes => bytes = r.head

theorem Dial.isSent_of_sending? {x : Dial} {s : Sending} (hs : x.sending? = some s) :
    x.request.IsSent s := by
  unfold sending? at hs
  split at hs
  · cases hs
    exact (rfl : x.request = x.request)
  · cases hs
    exact (rfl : x.request = x.request)
  · cases hs
    exact (rfl : x.request.head = x.request.head)
  · cases hs

theorem Hub.Move.request_eq {now : Nat} {accepts : Nat → Bool} {h s : Hub} {d : Nat} {x y : Dial}
    {e : DialEvent} (hm : h.Move now accepts d x e y s) : y.request = x.request := by
  cases hm <;> rfl

namespace Custody

variable {c : Custody} {d : Nat} {r : ConnectRequest}

/-- All that a dial sends in a run: something whenever it comes to another phase. -/
def sendings (d : Nat) (c : Custody) : List CustodyEvent → List Sending
  | [] => []
  | e :: es =>
    let c' := c.step e
    (if c'.hub.phase? d = c.hub.phase? d then []
      else ((c'.hub.dials[d]?).bind Dial.sending?).toList) ++ sendings d c' es

/-- The dial is there with that request. -/
def Asks (c : Custody) (d : Nat) (r : ConnectRequest) : Prop :=
  ∃ x, c.hub.dials[d]? = some x ∧ x.request = r

theorem Asks.step (ha : c.Asks d r) (e : CustodyEvent) : (c.step e).Asks d r := by
  obtain ⟨x, hx, rfl⟩ := ha
  obtain ⟨y, hy, rfl | ⟨_, _, _, _, hm⟩⟩ := dial_step hx e
  · exact ⟨y, hy, rfl⟩
  · exact ⟨y, hy, hm.request_eq⟩

theorem asks_arrive (c : Custody) (now : Nat) (accepts : Nat → Bool) (cancelled : Bool)
    (r : ConnectRequest) :
    (c.step (.dial now accepts (.arrive cancelled r))).Asks c.hub.dials.length r := by
  refine ⟨.start r (c.hub.entry cancelled), ?_, rfl⟩
  change (c.hub.dials ++ [_])[c.hub.dials.length]? = _
  simp

/-- Whatever a dial sends in a run is its request. -/
theorem Asks.isSent (ha : c.Asks d r) {es : List CustodyEvent} {s : Sending}
    (hs : s ∈ c.sendings d es) : r.IsSent s := by
  induction es generalizing c with
  | nil => cases hs
  | cons e es ih =>
    have hnext := ha.step e
    rcases List.mem_append.mp hs with hs | hs
    · obtain ⟨x, hx, rfl⟩ := hnext
      split at hs
      · cases hs
      · rw [hx, Option.bind_some, Option.mem_toList] at hs
        exact Dial.isSent_of_sending? hs
    · exact ih hnext hs

end Custody

namespace Rehearsal.World

variable {w : World} {d : Nat}

/-- The requests that each transport got, the first one first. -/
def asked (w : World) : List (List ConnectRequest) := w.transports.map Transport.requests

/-- Only the engine of a transport becomes another one. -/
theorem asked_setClient (w : World) (t : Nat) (c : Http2.Client) :
    (w.setClient t c).asked = w.asked := by
  refine List.ext_getElem? fun i => ?_
  simp only [asked, setClient, List.getElem?_map, List.getElem?_modify]
  by_cases hi : t = i <;> simp [hi, Function.comp_def]

@[simp] theorem asked_dropLink? (w : World) (l : Option Nat) : (w.dropLink? l).asked = w.asked := by
  cases l <;> rfl

theorem asked_dropResponse (w : World) (i : Nat) : (w.dropResponse i).asked = w.asked := by
  unfold dropResponse
  cases w.trips[i]? with
  | none => rfl
  | some t =>
    dsimp only
    split
    · split
      · rfl
      · exact asked_setClient ..
    · rfl

/-- The transport gets the request, if it is there. -/
theorem asked_beginTrip (w : World) (t : Nat) (r : ConnectRequest) :
    (w.beginTrip t r).1.asked = w.asked.modify t (· ++ [r]) := by
  refine List.ext_getElem? fun i => ?_
  rw [List.getElem?_modify]
  unfold beginTrip
  cases hx : w.transports[t]? with
  | none =>
    by_cases hi : t = i
    · subst hi
      simp [asked, hx]
    · simp [asked, hi]
  | some x =>
    simp only [asked, setTransport, List.getElem?_map]
    by_cases hi : t = i
    · subst hi
      rw [List.getElem?_set_self (List.getElem?_eq_some_iff.mp hx).1, hx]
      simp
    · rw [List.getElem?_set_ne hi]
      simp [hi]

theorem asked_beginDirect (w : World) (d : Nat) (o : DirectOptions) (a : Address)
    (protocol : String) (hello : Option Tls.Handshake) :
    (w.beginDirect d o a protocol hello).asked = w.asked := by
  unfold beginDirect
  split <;> rfl

theorem asked_beginReach (w : World) (d : Nat) (p : Phase) :
    (w.beginReach d p).asked = w.asked := by
  unfold beginReach
  split
  · exact asked_beginDirect ..
  · unfold beginTls
    split
    · rfl
    · exact asked_beginDirect ..
  · unfold beginCall
    dsimp only
    split <;> rfl

theorem asked_beginBuild (w : World) (d : Nat) (p : Phase) :
    (w.beginBuild d p).asked = w.asked := by
  unfold beginBuild
  split <;> rfl

theorem asked_beginExchange (w : World) (d : Nat) (p : Phase) :
    (w.beginExchange d p).asked = w.asked := by
  unfold beginExchange
  split <;> rfl

/-- What a dial leaves behind is no request, no dial and no work of another one. -/
theorem leaveWork_keeps (w : World) (p : Phase) (work : Work) :
    (w.leaveWork p work).asked = w.asked ∧ (w.leaveWork p work).hub = w.hub ∧
      (w.leaveWork p work).errands = w.errands ∧ (w.leaveWork p work).now = w.now := by
  have hdrop (i : Nat) : (w.dropResponse i).hub = w.hub ∧ (w.dropResponse i).errands = w.errands ∧
      (w.dropResponse i).now = w.now := by
    unfold dropResponse
    split
    · exact ⟨rfl, rfl, rfl⟩
    · dsimp only
      split
      · split <;> exact ⟨rfl, rfl, rfl⟩
      · exact ⟨rfl, rfl, rfl⟩
  unfold leaveWork
  split
  · exact ⟨rfl, rfl, rfl, rfl⟩
  · exact ⟨asked_dropResponse w _, hdrop _⟩
  · exact ⟨rfl, rfl, rfl, rfl⟩

variable {x : Dial} {e : Errand}

/-- As a dial turns to its new phase, the transport that it asks gets its request, and no other
transport gets any. -/
theorem asked_enter (hx : w.hub.dials[d]? = some x) (he : w.errands[d]? = some e)
    (hp : x.phase ≠ e.phase) :
    (w.enter d).asked =
      match x.sending? with
      | some (.request g r) => w.asked.modify (w.hub.pool.ledger.transport g) (· ++ [r])
      | _ => w.asked := by
  have hphase : w.hub.phase? d = some x.phase := Hub.phase?_eq_some.mpr ⟨x, hx, rfl⟩
  obtain ⟨hasked, hhub, -, -⟩ := leaveWork_keeps w x.phase e.work
  have hask (g : Nat) (p : Phase) : ((w.leaveWork x.phase e.work).beginAsk d g p).asked =
      w.asked.modify (w.hub.pool.ledger.transport g) (· ++ [x.request]) := by
    unfold beginAsk
    rw [hhub, hx]
    exact (asked_beginTrip ..).trans (by rw [hasked])
  unfold enter
  rw [hphase, he]
  dsimp only
  rw [if_neg hp, Dial.sending?]
  generalize hq : x.phase = q at *
  cases q with
  | reusing gated g t => exact hask g _
  | opening gated g t => exact hask g _
  | establishing gated => exact (asked_beginReach ..).trans hasked
  | exchanging gated k => exact (asked_beginExchange ..).trans hasked
  | connecting gated => exact (asked_beginBuild ..).trans hasked
  | ended o =>
    refine Eq.trans ?_ hasked
    dsimp only
    split
    · exact asked_dropLink? _ _
    · rfl
  | seeking | evicting | passing | entering | queued | keeping | dropping | leaving => exact hasked

/-- As a dial turns to the exchange on its connection, the bytes to be written are the head of its
request. -/
theorem exchanging_enter (hx : w.hub.dials[d]? = some x) (he : w.errands[d]? = some e)
    (hp : x.phase ≠ e.phase) {k : Nat} {bytes : Bytes} (hs : x.sending? = some (.head k bytes)) :
    ∃ e', (w.enter d).errands[d]? = some e' ∧
      e'.work = .exchanging (.start bytes (w.now + w.hub.timeout)) := by
  have hphase : w.hub.phase? d = some x.phase := Hub.phase?_eq_some.mpr ⟨x, hx, rfl⟩
  obtain ⟨-, hhub, herrands, hnow⟩ := leaveWork_keeps w x.phase e.work
  unfold Dial.sending? at hs
  split at hs
  · cases hs
  · cases hs
  · rename_i gated k' hq
    cases hs
    unfold enter
    rw [hphase, he]
    dsimp only
    rw [if_neg hp]
    rw [hq] at hhub herrands hnow ⊢
    unfold beginExchange
    rw [hhub, hx]
    dsimp only [setErrand]
    rw [herrands, List.getElem?_modify, he]
    exact ⟨_, rfl, by simp [hnow]⟩
  · cases hs

end Rehearsal.World

namespace Rehearsal

/-- What a caller does leads on to. -/
def Session.after (s : Session) (steps : List SessionStep) : Session :=
  steps.foldl (fun s step => (s.step step).2) s

theorem Session.dialer_step (s : Session) {step : SessionStep} (hne : step ≠ .dropDialer) :
    (s.step step).2.dialer = s.dialer := by
  cases step with
  | dropDialer => exact absurd rfl hne
  | dial | dials | setTransport | holdLease | unwrap | call =>
    simp only [Session.step]
    split <;> rfl
  | clearCache =>
    simp only [Session.step]
    split
    · rfl
    · split <;> rfl
  | cancel | sleep | drop | showLease | dropLease => rfl

/-- A dialer stays the same until it is dropped. -/
theorem Session.dialer_after (s : Session) {steps : List SessionStep}
    (hne : ∀ step ∈ steps, step ≠ .dropDialer) : (s.after steps).dialer = s.dialer :=
  List.foldlRecOn (motive := fun s' : Session => s'.dialer = s.dialer) steps _ rfl
    fun s' hs' _ hmem => (s'.dialer_step (hne _ hmem)).trans hs'

/-- A dial that is begun asks for its target, with the caller's fields over those given. -/
theorem DialOrder.request_plan {order : DialOrder} {base : Headers} {plan : DialPlan}
    (hp : order.plan base = .ok plan) :
    ∃ c : CallOptions, order.headers = c.headers.map .ok ∧
      plan.request = ⟨plan.target.toText, c.layered base⟩ := by
  unfold DialOrder.plan at hp
  cases ha : order.address with
  | error f =>
    rw [ha] at hp
    cases hp
  | ok a =>
    rw [ha] at hp
    cases hn : Network.parse order.network with
    | error name =>
      rw [hn] at hp
      cases hp
    | ok network =>
      rw [hn] at hp
      rcases hh : order.headers with _ | (fault | own)
      · rw [hh] at hp
        cases hp
        exact ⟨⟨none, false⟩, rfl, rfl⟩
      · rw [hh] at hp
        cases hp
      · rw [hh] at hp
        cases hp
        exact ⟨⟨some own, false⟩, rfl, rfl⟩

end Rehearsal

namespace Dialer

open Custody Rehearsal

variable {p : Proxy} {o : DialerOptions} {dialer : Dialer} {c : CallOptions}

theorem nodup_layered (hd : ofConnect p o = .ok dialer) (ho : o.headers.names.Nodup) :
    (c.layered dialer.headers).names.Nodup := by
  rw [headers_ofConnect hd]
  have hbase := p.nodup_requestHeaders ho
  unfold CallOptions.layered
  split
  · exact Headers.nodup_overlay hbase _
  · exact hbase

/-- The names that the caller gives have the caller's values. -/
theorem valuesOf_layered_of_mem (hd : ofConnect p o = .ok dialer) (ho : o.headers.names.Nodup)
    {own : Headers} (hc : c.headers = some own) (hown : own.names.Nodup) {n : HeaderName}
    (hn : n ∈ own.names) : (c.layered dialer.headers).valuesOf n = own.valuesOf n := by
  rw [CallOptions.layered, hc, headers_ofConnect hd]
  exact (Headers.valuesOf_overlay (p.nodup_requestHeaders ho) hown n).trans (if_pos hn)

/-- The names that the caller does not give have the values of the dialer. -/
theorem valuesOf_layered_of_not_mem (hd : ofConnect p o = .ok dialer)
    (ho : o.headers.names.Nodup) (hc : ∀ own, c.headers = some own → own.names.Nodup)
    {n : HeaderName} (hn : ∀ own, c.headers = some own → n ∉ own.names) :
    (c.layered dialer.headers).valuesOf n = (p.requestHeaders o.headers).valuesOf n := by
  rw [CallOptions.layered, headers_ofConnect hd]
  cases hown : c.headers with
  | some own =>
    exact (Headers.valuesOf_overlay (p.nodup_requestHeaders ho) (hc own hown) n).trans
      (if_neg (hn own hown))
  | none => rfl

/-- A dial asks the proxy, by whatever way, for the text of its target with the same fields each
time: for every name those that the caller gives for it, else the authorization of the proxy's
credentials, else those of the options. On HTTP/2 these are the fields sent; in the head of HTTP/1.1
only `host` differs. Each transport that the dial asks gets this request and each connection of its
own this head; and dials change nothing of the fields that later dials start from. -/
theorem requests_layered (hd : ofConnect p o = .ok dialer) (ho : o.headers.names.Nodup)
    (c : CallOptions) (hc : ∀ own, c.headers = some own → own.names.Nodup) (a : Address) :
    let r : ConnectRequest := ⟨a.toText, c.layered dialer.headers⟩
    let values (n : HeaderName) := (r.headers.toList.filter fun f => f.1 = n).map Prod.snd
    (∀ own n, c.headers = some own → n ∈ own.names → values n = own.valuesOf n) ∧
    (∀ n, (∀ own, c.headers = some own → n ∉ own.names) → values n =
      match p.credentials with
      | some k => if n = .proxyAuthorization then [Bytes.ofText k.basic] else o.headers.valuesOf n
      | none => o.headers.valuesOf n) ∧
    Http2.Client.fields r = ⟨Bytes.ofText ":method", Bytes.ofText "CONNECT"⟩ ::
      ⟨Bytes.ofText ":authority", Bytes.ofText a.toText⟩ ::
        r.headers.toList.map (fun f => ⟨Bytes.ofChars f.1.chars, f.2⟩) ∧
    r.head = (Bytes.ofText ("CONNECT " ++ a.toText ++ " HTTP/1.1") ::
      Bytes.ofText ("Host: " ++ a.toText) ::
        List.map ConnectRequest.fieldText (r.headers.toList.filter fun f => f.1 ≠ HeaderName.host)
          ++ [[]]).flatMap (· ++ ConnectRequest.lineEnd) ∧
    (∀ (timeout : Nat) (reuse : Bool) (pre post : List CustodyEvent) (now : Nat)
      (accepts : Nat → Bool) (cancelled : Bool),
      let before := run timeout reuse pre
      ∀ s ∈ (before.step (.dial now accepts (.arrive cancelled r))).sendings
        before.hub.dials.length post, r.IsSent s) ∧
    (∀ (w : World) (d : Nat) (x : Dial) (e : Errand), w.hub.dials[d]? = some x → x.request = r →
      w.errands[d]? = some e → x.phase ≠ e.phase →
      ((w.enter d).asked =
        match x.sending? with
        | some (.request g _) => w.asked.modify (w.hub.pool.ledger.transport g) (· ++ [r])
        | _ => w.asked) ∧
      ∀ k bytes, x.sending? = some (.head k bytes) → ∃ e', (w.enter d).errands[d]? = some e' ∧
        e'.work = .exchanging (.start r.head (w.now + w.hub.timeout))) ∧
    ∀ (s : Session) (steps : List SessionStep), s.dialer = some dialer →
      (∀ step ∈ steps, step ≠ .dropDialer) →
      (s.after steps).headers = dialer.headers ∧
      ∀ (order : DialOrder) (plan : DialPlan), order.plan (s.after steps).headers = .ok plan →
        ∃ c' : CallOptions, order.headers = c'.headers.map .ok ∧
          plan.request = ⟨plan.target.toText, c'.layered dialer.headers⟩ := by
  intro r values
  have hvalues (n : HeaderName) : values n = r.headers.valuesOf n :=
    Headers.map_snd_filter_toList (nodup_layered hd ho) n
  refine ⟨fun own n hown hn => ?_, fun n hn => ?_, rfl, r.head_eq, ?_, ?_, ?_⟩
  · rw [hvalues]
    exact valuesOf_layered_of_mem hd ho hown (hc own hown) hn
  · rw [hvalues]
    exact (valuesOf_layered_of_not_mem hd ho hc hn).trans (p.valuesOf_requestHeaders o.headers n)
  · intro timeout reuse pre post now accepts cancelled before s hs
    exact (asks_arrive before now accepts cancelled r).isSent hs
  · intro w d x e hx hr he hp
    refine ⟨?_, fun k bytes hs => ?_⟩
    · rw [World.asked_enter hx he hp]
      cases hs : x.sending? with
      | none => rfl
      | some s =>
        cases s with
        | head => rfl
        | request g r' =>
          have hsent : r' = x.request := Dial.isSent_of_sending? hs
          rw [hsent, hr]
    · have hsent : bytes = x.request.head := Dial.isSent_of_sending? hs
      rw [← hr, ← hsent]
      exact World.exchanging_enter hx he hp hs
  · intro s steps hs hne
    have hheaders : (s.after steps).headers = dialer.headers := by
      rw [Session.headers, Session.dialer_after s hne, hs]
      rfl
    refine ⟨hheaders, fun order plan hplan => ?_⟩
    rw [hheaders] at hplan
    exact DialOrder.request_plan hplan

/-- The proxy of the run below, with credentials. -/
def guardedProxy : Proxy := ⟨.https, ⟨"proxy.example", 443⟩, some ⟨"u", "p"⟩⟩

def via : HeaderName := ⟨"via".toList⟩

/-- Options that name an authorization and another field twice. -/
def fieldOptions : DialerOptions where
  direct := .standard
  headers := ⟨[⟨.proxyAuthorization, Bytes.ofText "mine", []⟩, ⟨via, [97], [[98]]⟩]⟩
  reuse := true
  priorKnowledge := false
  insecure := false
  ownTls := false
  ownTransport := false

/-- The request of a dial whose caller gives the second field again. -/
def overlaid : ConnectRequest :=
  ⟨Address.toText ⟨"a", 1⟩, (CallOptions.mk (some ⟨[⟨via, [99], []⟩]⟩) false).layered
    (guardedProxy.requestHeaders fieldOptions.headers)⟩

/-- A dial waits at the gate for the first one, asks on the transport kept by then, is refused, and
negotiates HTTP/1.1. -/
def refusedRun : List CustodyEvent :=
  [.turn 0, .turn 0, .turn 0, .turn 0, .turn 0, .turn 0, .turn 1, .turn 1, .turn 1,
    .established 0 (.ok ⟨5, "h2"⟩), .connected 0 (.ok 3), .answered 0 .granted, .turn 0, .turn 0,
    .turn 1, .turn 1, .answered 1 (.refused 502), .turn 1, .turn 1, .turn 1, .turn 1, .turn 1,
    .established 1 (.ok ⟨6, ""⟩)].map (.dial 0 fun _ => true)

theorem requests_layered_refused :
    (overlaid.headers.toList.filter fun f => f.1 = via).map Prod.snd = [[99]] ∧
    (overlaid.headers.toList.filter fun f => f.1 = .proxyAuthorization).map Prod.snd =
      [Bytes.ofText (Credentials.basic ⟨"u", "p"⟩)] ∧
    ∃ sent, sent = [Sending.request 0 overlaid, .head 6 overlaid.head] ∧
      ∀ s ∈ sent, overlaid.IsSent s := by
  let own : Headers := ⟨[⟨via, [99], []⟩]⟩
  let arrival : CustodyEvent := .dial 0 (fun _ => true) (.arrive false overlaid)
  have hdialer : ofConnect guardedProxy fieldOptions = .ok (.connect guardedProxy fieldOptions
      (guardedProxy.requestHeaders fieldOptions.headers)) := rfl
  have hown (h : Headers) (hh : (CallOptions.mk (some own) false).headers = some h) :
      h.names.Nodup := by
    cases hh
    decide
  obtain ⟨hgiven, hother, _, _, hsent, _⟩ :=
    requests_layered hdialer (by decide) ⟨some own, false⟩ hown ⟨"a", 1⟩
  refine ⟨hgiven own via rfl (by decide), hother .proxyAuthorization ?_, _, ?_,
    hsent 10 true [arrival] refusedRun 0 (fun _ => true) false⟩
  · intro h hh
    cases hh
    decide
  · decide +kernel

end Dialer
end TunnelDial
