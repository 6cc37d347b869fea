import TunnelDial.Http2.Client
import TunnelDial.Proofs.Http2.Streams
import TunnelDial.Proofs.Tunnel.Upload

/-! What sends the bytes of a tunnel on an HTTP/2 connection does what the events of an upload say,
and each piece that these send becomes one frame. -/
namespace TunnelDial.Http2

namespace Endpoint

variable {e : Endpoint} {id : Nat} {s : Stream}

/-- To forsake a stream takes nothing back that waits to be sent. -/
theorem stream?_forsake (hs : e.stream? id = some s) :
    (e.forsake id).queued = e.queued ∧
      ∃ s', (e.forsake id).stream? id = some s' ∧ s'.writing = s.writing ∧
        s.outbox <+: s'.outbox := by
  rw [forsake, hs]
  dsimp only
  split
  · exact ⟨rfl, s, hs, rfl, List.prefix_rfl⟩
  · exact ⟨rfl, _, stream?_modify (fun _ => rfl) hs, rfl, List.prefix_append ..⟩

theorem stream?_dropWriting (hs : e.stream? id = some s) :
    (e.dropWriting id).queued = e.queued ∧
      ∃ s', (e.dropWriting id).stream? id = some s' ∧ s'.writing = false ∧
        s.outbox <+: s'.outbox :=
  stream?_forsake (e := e.modify id fun s => { s with writing := false })
    (stream?_modify (fun _ => rfl) hs)

/-- What is sent becomes one frame. -/
theorem emit_cons {bs : Bytes} (hs : e.stream? id = some s) (hbs : bs ≠ []) :
    (e.emit s bs).queued = e.queued ++ [.data id bs false] ∧
      (e.emit s bs).stream? id = some { s with sendRoom := s.sendRoom - bs.length } := by
  obtain rfl := id_of_stream? hs
  rw [emit, if_neg (by simpa using hbs)]
  exact ⟨rfl, stream?_modify (g := fun s => { s with sendRoom := s.sendRoom - bs.length })
    (fun _ => rfl) hs⟩

end Endpoint

namespace Client

/-- What the frame of a piece is; the end waits in the outbox of its stream. -/
def frame? (id : Nat) : Piece → Option Frame
  | .data bs => some (.data id bs false)
  | .last => none

/-- The client sends on a stream for a tunnel whose bytes are under way. -/
structure Serves (c : Client) (id : Nat) (s : Stream) (f : Feed) : Prop where
  found : c.core.stream? id = some s
  writing : s.writing = f.pump.running

/-- Client and stream after the pieces were sent. -/
structure Sent (id : Nat) (pieces : List Piece) (c : Client) (s : Stream) (c' : Client)
    (s' : Stream) : Prop where
  queued : c'.core.queued = c.core.queued ++ pieces.filterMap (frame? id)
  kept : s.outbox <+: s'.outbox
  last : .last ∈ pieces → .last ∈ s'.outbox

variable {c c' c'' : Client} {id : Nat} {s s' s'' : Stream} {f : Feed} {u : Upload}

theorem Sent.nothing (id : Nat) (c : Client) (s : Stream) : Sent id [] c s c s :=
  ⟨by simp, List.prefix_rfl, by simp⟩

theorem Sent.trans {ps qs : List Piece} (h : Sent id ps c s c' s') (h' : Sent id qs c' s' c'' s'') :
    Sent id (ps ++ qs) c s c'' s'' := by
  refine ⟨by simp [h'.queued, h.queued], h.kept.trans h'.kept, fun hl => ?_⟩
  rcases List.mem_append.mp hl with hl | hl
  · exact h'.kept.subset (h.last hl)
  · exact h'.last hl

/-- What one call of the pump leads to. -/
structure Follows (c : Client) (id : Nat) (s : Stream) (f f' : Feed)
    (r : Bool × Bytes × Channel × Client) : Prop where
  hand : r.2.1 = f'.pump.hand
  channel : r.2.2.1 = f'.channel
  serves : ∃ s' pieces, r.2.2.2.Serves id s' f' ∧ f'.sent = f.sent ++ pieces ∧
    Sent id pieces c s r.2.2.2 s'

theorem pump_idle (hs : c.Serves id s f) (hr : f.pump.running = false) :
    c.Follows id s f (f.receive false) (c.pump id f.pump.hand f.channel) := by
  have hp : c.pump id f.pump.hand f.channel = (false, f.pump.hand, f.channel, c) := by
    simp [pump, hs.found, hs.writing, hr]
  have hf : f.receive false = f := by simp [Feed.receive, hr]
  rw [hp, hf]
  exact ⟨rfl, rfl, s, [], hs, by simp, .nothing ..⟩

theorem pump_over (hs : c.Serves id s f) (hr : f.pump.running = true)
    (ho : (s.isOver || s.failure.isSome) = true) :
    c.Follows id s f f.halt (c.pump id f.pump.hand f.channel) := by
  have hp : c.pump id f.pump.hand f.channel =
      (true, [], f.channel.abandon, { c with core := c.core.dropWriting id }) := by
    simp [pump, hs.found, hs.writing, hr, ho, Pump.halt]
  have hf : f.halt = { f with channel := f.channel.abandon, pump := ⟨[], false⟩ } := by
    simp [Feed.halt, Pump.halt, hr]
  obtain ⟨hqueued, s', hs', hwriting, hkept⟩ := Endpoint.stream?_dropWriting hs.found
  rw [hp, hf]
  exact ⟨rfl, rfl, s', [], ⟨hs', hwriting⟩, by simp, by simpa using hqueued, hkept, by simp⟩

theorem pump_receive (hs : c.Serves id s f) (hr : f.pump.running = true)
    (ho : (s.isOver || s.failure.isSome) = false) (hh : f.pump.hand = []) :
    c.Follows id s f (f.receive false) (c.pump id f.pump.hand f.channel) := by
  cases hc : f.channel.chunks with
  | cons bs rest =>
    have hp : c.pump id f.pump.hand f.channel =
        (true, bs, { f.channel with chunks := rest }, c) := by
      simp [pump, hs.found, hs.writing, hr, ho, hh, hc, Pump.receive, Channel.receive]
    rw [hp, Feed.receive_cons hr hh hc]
    exact ⟨rfl, rfl, s, [], ⟨hs.found, hs.writing⟩, by simp, .nothing ..⟩
  | nil =>
    cases hsend : f.channel.sending with
    | true =>
      have hp : c.pump id f.pump.hand f.channel = (false, f.pump.hand, f.channel, c) := by
        simp [pump, hs.found, hs.writing, hr, ho, hh, hc, hsend, Pump.receive, Channel.receive]
      have hf : f.receive false = f := by
        simp [Feed.receive, Pump.receive, Channel.receive, hr, hh, hc, hsend]
      rw [hp, hf]
      exact ⟨rfl, rfl, s, [], hs, by simp, .nothing ..⟩
    | false =>
      have hp : c.pump id f.pump.hand f.channel =
          (true, [], f.channel.abandon,
            { c with core := (c.core.finish id).dropWriting id }) := by
        simp [pump, hs.found, hs.writing, hr, ho, hh, hc, hsend, Pump.receive, Channel.receive]
      have hfin : (c.core.finish id).stream? id =
          some { s with sendEnded := true, outbox := s.outbox ++ [.last] } :=
        Endpoint.stream?_modify (fun _ => rfl) hs.found
      obtain ⟨hqueued, s', hs', hwriting, hkept⟩ := Endpoint.stream?_dropWriting hfin
      rw [hp, Feed.receive_ended hr hh hc hsend]
      refine ⟨rfl, rfl, s', [.last], ⟨hs', hwriting⟩, by simp,
        hqueued.trans (List.append_nil _).symm, ?_, ?_⟩
      · exact (List.prefix_append ..).trans hkept
      · exact fun _ => hkept.subset (by simp)

theorem pump_grant (hs : c.Serves id s f) (hr : f.pump.running = true)
    (ho : (s.isOver || s.failure.isSome) = false) (hh : f.pump.hand ≠ []) :
    c.Follows id s f (f.grant (c.core.capacity s)) (c.pump id f.pump.hand f.channel) := by
  have hp : c.pump id f.pump.hand f.channel =
      (!(f.pump.hand.take (c.core.capacity s)).isEmpty, f.pump.hand.drop (c.core.capacity s),
        f.channel, { c with core := c.core.emit s (f.pump.hand.take (c.core.capacity s)) }) := by
    simp [pump, hs.found, hs.writing, hr, ho, hh, Pump.grant]
  by_cases hn : f.pump.hand.take (c.core.capacity s) = []
  · have hc : c.core.emit s (f.pump.hand.take (c.core.capacity s)) = c.core := by
      simp [Endpoint.emit, hn]
    rw [hp, hc]
    exact ⟨rfl, rfl, s, [], ⟨hs.found, hs.writing⟩, by simp [Feed.grant, Pump.grant, hn],
      .nothing ..⟩
  · obtain ⟨hqueued, hs'⟩ := Endpoint.emit_cons hs.found hn
    rw [hp, Feed.grant_cons hn]
    exact ⟨rfl, rfl, _, [.data _], ⟨hs', hs.writing⟩, rfl, hqueued, List.prefix_rfl, by simp⟩

/-- One call of the pump is one event. -/
theorem pump_event (hs : c.Serves id s u.feed) (hopen : u.severed = false) :
    ∃ e ∈ [.halted, .received, .granted (c.core.capacity s)],
      c.Follows id s u.feed (u.step e).feed (c.pump id u.feed.pump.hand u.feed.channel) := by
  have hreceived : (u.step .received).feed = u.feed.receive false := by
    rw [← hopen]
    rfl
  have hgranted (n : Nat) : (u.step (.granted n)).feed = u.feed.grant n := by
    simp [Upload.step, hopen]
  cases hr : u.feed.pump.running with
  | false => exact ⟨.received, by simp, hreceived ▸ pump_idle hs hr⟩
  | true =>
    cases ho : s.isOver || s.failure.isSome with
    | true => exact ⟨.halted, by simp, pump_over hs hr ho⟩
    | false =>
      by_cases hh : u.feed.pump.hand = []
      · exact ⟨.received, by simp, hreceived ▸ pump_receive hs hr ho hh⟩
      · exact ⟨.granted _, by simp, hgranted _ ▸ pump_grant hs hr ho hh⟩

/-- The events that are the pump's own leave the transport open. -/
theorem severed_step_pump {e : UploadEvent} {n : Nat}
    (he : e ∈ [.halted, .received, .granted n]) : (u.step e).severed = u.severed := by
  simp only [List.mem_cons, List.not_mem_nil, or_false] at he
  rcases he with rfl | rfl | rfl
  · rfl
  · rfl
  · rw [Upload.step]
    split <;> rfl

/-- However long the pump goes on, it does what some events do, and sends what these send. -/
theorem pumpAll_events (n : Nat) (moved : Bool) (hs : c.Serves id s u.feed)
    (hopen : u.severed = false) :
    ∃ es, c.Follows id s u.feed (u.after es).feed
      (c.pumpAll id n moved u.feed.pump.hand u.feed.channel) := by
  induction n generalizing moved c s u with
  | zero => exact ⟨[], rfl, rfl, s, [], hs, by simp [Upload.after], .nothing ..⟩
  | succ n ih =>
    obtain ⟨e, he, hf⟩ := pump_event hs hopen
    rw [pumpAll]
    rcases hp : c.pump id u.feed.pump.hand u.feed.channel with ⟨_ | _, hand, channel, c'⟩
    · rw [hp] at hf
      exact ⟨[e], hf.hand, hf.channel, hf.serves⟩
    · rw [hp] at hf
      obtain ⟨rfl, rfl, s', ps, hs', hps, hsent⟩ := hf
      have hopen' : (u.step e).severed = false := (severed_step_pump he).trans hopen
      obtain ⟨es, hhand, hchannel, s'', qs, hs'', hqs, hsent'⟩ := ih true hs' hopen'
      refine ⟨e :: es, hhand, hchannel, s'', ps ++ qs, hs'', ?_, hsent.trans hsent'⟩
      rw [← List.append_assoc, ← hps]
      exact hqs

end Client

end TunnelDial.Http2
