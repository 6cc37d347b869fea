import TunnelDial.Proofs.Http2.Account

/-! The responses of a client as streams of bytes: what the reads of a stream give is what came on
it, in order and without loss, and its window is given back piece by piece. -/
namespace TunnelDial.Http2

open Endpoint (gained dataUntilEnd)

variable {s : Stream} {id : Nat}

/-! ### Reads -/

/-- What a stream says to its reader when all its data are read. -/
def Stream.ending (s : Stream) : Poll Bytes :=
  match s.failure with
  | some c => if c.reason? = some .noError then .ready [] else .fault c.fault
  | none => if s.recvEnded then .ready [] else .waiting

section Reads

variable {window next : Nat} {log : Nat → Log} {given left : Nat → Bytes} {c : Client}

theorem Client.readOff_left {bs : Bytes} (hbs : bs ≠ []) (id room n : Nat) (c : Client) :
    c.readOff id room bs (n + 1) = (.ready (bs.take room), bs.drop room, c) := by
  simp [readOff, hbs]

/-- The next piece of data is taken in hand. -/
theorem Client.readOff_cons (hs : c.core.stream? id = some s) {bs : Bytes} {rest : List Bytes}
    (hinbox : s.inbox = bs :: rest) (room n : Nat) : c.readOff id room [] (n + 1) =
      Client.readOff id room bs n { c with core := (c.core.read id).2 } := by
  simp [readOff, Endpoint.read_cons hs hinbox]

/-- There is no data. -/
theorem Client.readOff_nil (h : ∀ s, c.core.stream? id = some s → s.inbox = []) (room n : Nat) :
    c.readOff id room [] (n + 1) =
      (((c.core.stream? id).map Stream.ending).getD (.ready []), [], c) := by
  cases hs : c.core.stream? id with
  | none => simp [readOff, Endpoint.read, hs]
  | some s =>
    cases hfailure : s.failure with
    | some cause =>
      by_cases hreason : cause.reason? = some .noError <;>
        simp [readOff, Endpoint.read, hs, h s hs, hfailure, hreason, Stream.ending]
    | none =>
      cases hended : s.recvEnded <;>
        simp [readOff, Endpoint.read, hs, h s hs, hfailure, hended, Stream.ending]

theorem Downloads.bytesOf_ending (s : Option Stream) :
    bytesOf ((s.map Stream.ending).getD (.ready [])) = [] := by
  cases s with
  | none => rfl
  | some s =>
    simp only [Option.map_some, Option.getD_some, Stream.ending]
    split
    · split <;> rfl
    · split <;> rfl

/-- A read keeps the account: what it gives is what it takes off the stream and leaves no longer. -/
theorem Endpoint.Keeps.readOff (id room n : Nat) (h : c.core.Keeps window next log given left) :
    (c.readOff id room (left id) n).2.2.core.Keeps window next log
      (Function.update given id
        (given id ++ Downloads.bytesOf (c.readOff id room (left id) n).1))
      (Function.update left id (c.readOff id room (left id) n).2.1) := by
  induction n generalizing c left with
  | zero => simpa [Client.readOff, Downloads.bytesOf] using h
  | succ n ih =>
    by_cases hleft : left id = []
    · by_cases hcons : ∃ s bs rest, c.core.stream? id = some s ∧ s.inbox = bs :: rest
      · obtain ⟨s, bs, rest, hs, hinbox⟩ := hcons
        have hnext := ih (c := { c with core := (c.core.read id).2 }) (h.read_cons hs hinbox hleft)
        rw [Function.update_self, Function.update_idem] at hnext
        rw [hleft, Client.readOff_cons hs hinbox]
        exact hnext
      · have hnil (s : Stream) (hs : c.core.stream? id = some s) : s.inbox = [] := by
          by_contra hinbox
          obtain ⟨bs, rest, hinbox⟩ := List.exists_cons_of_ne_nil hinbox
          exact hcons ⟨s, bs, rest, hs, hinbox⟩
        rw [hleft, Client.readOff_nil hnil, Downloads.bytesOf_ending, List.append_nil]
        simpa [← hleft] using h
    · rw [Client.readOff_left hleft]
      exact h.give id room

theorem take_cons {bs : Bytes} (hbs : bs ≠ []) {room : Nat} (hroom : 0 < room) :
    ∃ b rest, bs.take room = b :: rest ∧ rest.length < room ∧ b :: rest <+: bs := by
  have htake : bs.take room ≠ [] := by simp [hbs, Nat.ne_of_gt hroom]
  obtain ⟨b, rest, heq⟩ := List.exists_cons_of_ne_nil htake
  have hlength : (bs.take room).length ≤ room := List.length_take_le room bs
  rw [heq, List.length_cons] at hlength
  exact ⟨b, rest, heq, hlength, heq ▸ List.take_prefix room bs⟩

/-- A read gives some bytes, or there are none and it says how the stream ends. -/
theorem Client.readOff_answer {room : Nat} (hroom : 0 < room) {n : Nat}
    (hs : c.core.stream? id = some s) (hn : s.inbox.length < n) :
    (∃ b bs, (c.readOff id room [] n).1 = .ready (b :: bs) ∧ bs.length < room ∧
      b :: bs <+: s.inbox.flatten) ∨
      s.inbox.flatten = [] ∧ (c.readOff id room [] n).1 = s.ending := by
  induction n generalizing c s with
  | zero => cases hn
  | succ n ih =>
    cases hinbox : s.inbox with
    | nil =>
      refine .inr ⟨rfl, ?_⟩
      rw [readOff_nil fun t ht => by rw [hs] at ht; cases ht; exact hinbox, hs]
      rfl
    | cons bs rest =>
      rw [readOff_cons hs hinbox]
      rw [hinbox, List.length_cons] at hn
      by_cases hbs : bs = []
      · -- an empty piece ends nothing: the read goes on behind it
        subst hbs
        exact ih (c := { c with core := (c.core.read id).2 })
          (Endpoint.stream?_read_cons hs hinbox) (Nat.lt_of_succ_lt_succ hn)
      · obtain ⟨k, rfl⟩ : ∃ k, n = k + 1 := ⟨n - 1, by omega⟩
        obtain ⟨b, more, htake, hmore, hprefix⟩ := take_cons hbs hroom
        refine .inl ⟨b, more, by rw [readOff_left hbs, htake], hmore, ?_⟩
        exact hprefix.trans (List.prefix_append _ _)

theorem Client.read_answer {room : Nat} (hroom : 0 < room) (hs : c.core.stream? id = some s)
    (left : Bytes) : (∃ b bs, (c.read id room left).1 = .ready (b :: bs) ∧ bs.length < room ∧
      b :: bs <+: left ++ s.inbox.flatten) ∨
      left = [] ∧ s.inbox.flatten = [] ∧ (c.read id room left).1 = s.ending := by
  unfold Client.read
  by_cases hleft : left = []
  · subst hleft
    have hn : s.inbox.length < (c.waiting id).length + 2 := by simp [Client.waiting, hs]
    exact (readOff_answer hroom hs hn).imp_right fun h => ⟨rfl, h⟩
  · obtain ⟨b, bs, htake, hbs, hprefix⟩ := take_cons hleft hroom
    refine .inl ⟨b, bs, by rw [readOff_left hleft, htake], hbs, ?_⟩
    exact hprefix.trans (List.prefix_append _ _)

end Reads

/-! ### The client -/

namespace Client

variable {window next : Nat} {log : Nat → Log} {given left : Nat → Bytes} {c : Client}

theorem steady_leaveIfIdle (c : Client) : c.core.Steady c.leaveIfIdle.core := by
  unfold leaveIfIdle
  split
  · exact c.core.steady_refl.same rfl
  · exact c.core.steady_refl

theorem steady_close (c : Client) : c.core.Steady c.close.core := by
  unfold close
  split
  · exact c.core.steady_refl
  · exact (c.core.steady_failAll (c := .brokenStream) nofun).same rfl

theorem steady_pump (hclient : c.core.isClient = true) (id : Nat) (hand : Bytes)
    (channel : Channel) : c.core.Steady (pump id hand channel c).2.2.2.core := by
  unfold pump
  cases hs : c.core.stream? id with
  | none => exact c.core.steady_refl
  | some s =>
    dsimp only
    split
    · exact c.core.steady_refl
    · split
      · exact Endpoint.steady_dropWriting hclient id
      · split
        · split
          · exact (c.core.steady_finish id).trans
              (Endpoint.steady_dropWriting (by exact hclient) id)
          · exact c.core.steady_refl
        · exact c.core.steady_emit s _

theorem request_ok {r : ConnectRequest} {answer : Client × Nat} (hr : c.request r = .ok answer) :
    answer.1 = { c with core := c.core.openStream.sendHead c.core.nextId (fields r) false } := by
  unfold request at hr
  grind

/-- A request opens a stream of its own. -/
theorem keeps_request (h : c.core.Keeps window next log given left) {r : ConnectRequest}
    {answer : Client × Nat} (hr : c.request r = .ok answer)
    (hfresh : log next = [] ∧ given next = [] ∧ left next = []) :
    answer.1.core.Keeps window (next + 2) log given left := by
  rw [request_ok hr]
  exact (h.openStream hfresh).steady
    (c.core.openStream.steady_sendHead c.core.nextId (fields r) false)

/-- What an event does to the account of a client. -/
theorem keeps_after (h : c.core.Keeps window next log given left)
    (hfresh : log next = [] ∧ given next = [] ∧ left next = []) (e : ClientEvent) :
    ∃ next', next ≤ next' ∧ (c.framesOf e = [] ∨ next' = next) ∧
      (c.after e).core.Keeps window next' (fun id => log id ++ c.framesOf e) given left := by
  have hquiet {core : Endpoint} (hframes : c.framesOf e = [])
      (hcore : core.Keeps window next log given left) :
      ∃ next', next ≤ next' ∧ (c.framesOf e = [] ∨ next' = next) ∧
        core.Keeps window next' (fun id => log id ++ c.framesOf e) given left :=
    ⟨next, Nat.le_refl _, .inl hframes, by simpa [hframes] using hcore⟩
  have hclient := h.tidy.isClient
  cases e with
  | heard bs => exact ⟨next, Nat.le_refl _, .inr rfl, h.feed bs⟩
  | ended => exact hquiet rfl (h.steady c.core.steady_end)
  | broken f => exact hquiet rfl (h.steady (c.core.steady_failAll nofun))
  | idle => exact hquiet rfl (h.steady c.steady_leaveIfIdle)
  | rendered => exact hquiet rfl (h.steady c.core.steady_render)
  | written n => exact hquiet rfl (h.steady (c.core.steady_refl.same rfl))
  | stopped => exact hquiet rfl h
  | request r =>
    cases hr : c.request r with
    | error f => exact hquiet rfl (by simpa [after, hr] using h)
    | ok answer =>
      refine ⟨next + 2, Nat.le_add_right _ _, .inl rfl, ?_⟩
      simpa [after, hr, framesOf] using keeps_request h hr hfresh
  | pump id hand channel => exact hquiet rfl (h.steady (steady_pump hclient id hand channel))
  | drop id => exact hquiet rfl (h.dropReading id)
  | close => exact hquiet rfl (h.steady c.steady_close)

/-! The turns of a connection are made of the events. -/

variable {σ : Type} [ByteStream σ]

theorem run_append (c : Client) (es es' : List ClientEvent) :
    c.run (es ++ es') = (c.run es).run es' := List.foldl_append

theorem listen_run (now n : Nat) (moved : Bool) (c : Client) (t : σ) :
    ∃ events, (listen now n moved c t).2.1 = c.run events := by
  induction n generalizing moved c t with
  | zero => exact ⟨[], rfl⟩
  | succ n ih =>
    unfold listen
    split
    · exact ⟨[], rfl⟩
    · dsimp only
      split
      · exact ⟨[.ended], rfl⟩
      · next bs _ _ =>
        obtain ⟨events, hrun⟩ := ih true (c.after (.heard bs)) (ByteStream.read now 65536 t).2
        exact ⟨.heard bs :: events, hrun⟩
      · next f _ => exact ⟨[.broken f], rfl⟩
      · exact ⟨[], rfl⟩

theorem speak_run (now n : Nat) (moved : Bool) (c : Client) (t : σ) :
    ∃ events, (speak now n moved c t).2.1 = c.run events := by
  induction n generalizing moved c t with
  | zero => exact ⟨[], rfl⟩
  | succ n ih =>
    unfold speak
    split
    · exact ⟨[], rfl⟩
    · dsimp only
      split
      · exact ⟨[], rfl⟩
      · next k _ _ =>
        obtain ⟨events, hrun⟩ :=
          ih true (c.after (.written k)) (ByteStream.write now c.core.output t).2
        exact ⟨.written k :: events, hrun⟩
      · next f _ => exact ⟨[.broken f], rfl⟩
      · exact ⟨[], rfl⟩

/-- A turn of the connection, whatever stream lies below it, is a run of events. -/
theorem turn_run (now : Nat) (c : Client) (t : σ) :
    ∃ events, (turn now c t).2.1 = c.run events := by
  obtain ⟨heard, hheard⟩ := listen_run now patience false c t
  obtain ⟨said, hsaid⟩ := speak_run now patience (listen now patience false c t).1
    (((c.run heard).after .idle).after .rendered) (listen now patience false c t).2.2
  have hrun : c.run (heard ++ .idle :: .rendered :: said) =
      (((c.run heard).after .idle).after .rendered).run said := run_append c heard _
  unfold turn
  dsimp only
  split
  · exact ⟨[], rfl⟩
  · split
    · exact ⟨heard, hheard⟩
    · rw [hheard]
      have hspeak := hsaid.trans hrun.symm
      split
      · refine ⟨(heard ++ .idle :: .rendered :: said) ++ [.stopped], ?_⟩
        rw [run_append, ← hspeak]
        rfl
      · exact ⟨_, hspeak⟩

end Client

namespace Downloads

variable {window : Nat} {d : Downloads}

/-- All streams agree with what came, what was given and what is left; there is nothing yet of the
streams to be opened. -/
structure Sound (window : Nat) (d : Downloads) : Prop where
  keeps : d.client.core.Keeps window d.client.core.nextId d.log d.given d.left
  fresh : ∀ id, d.client.core.nextId ≤ id → d.log id = [] ∧ d.given id = [] ∧ d.left id = []

theorem Sound.after_client (h : d.Sound window) (e : ClientEvent) :
    (d.after (.client e)).Sound window := by
  obtain ⟨next, hnext, hframes, hkeeps⟩ := Client.keeps_after h.keeps (h.fresh _ (Nat.le_refl _)) e
  refine ⟨?_, fun id hid => ?_⟩
  · rw [show (d.after (.client e)).client.core.nextId = next from hkeeps.nextId]
    refine hkeeps.congr fun s hs => ⟨?_, rfl, rfl⟩
    rcases hframes with hnone | hsame
    · simp [Downloads.after, hnone]
    · have hused : s.id < d.client.core.nextId := hsame ▸ hkeeps.nextId ▸ hkeeps.tidy.used s hs
      simp [Downloads.after, hused]
  · have hid : d.client.core.nextId ≤ id := Nat.le_trans hnext (hkeeps.nextId ▸ hid)
    simpa [Downloads.after, Nat.not_lt.mpr hid] using h.fresh id hid

theorem Sound.after_read (h : d.Sound window) (id room : Nat) :
    (d.after (.read id room)).Sound window := by
  have hkeeps := h.keeps.readOff id room ((d.client.waiting id).length + 2)
  refine ⟨?_, fun i hi => ?_⟩
  · rw [show (d.after (.read id room)).client.core.nextId = d.client.core.nextId from hkeeps.nextId]
    exact hkeeps
  · have hi : d.client.core.nextId ≤ i := hkeeps.nextId ▸ hi
    obtain ⟨hlog, hgiven, hleft⟩ := h.fresh i hi
    refine ⟨hlog, ?_⟩
    by_cases hid : i = id
    · have hnone (s : Stream) (hs : d.client.core.stream? i = some s) : s.inbox = [] := by
        have hused := h.keeps.tidy.used s (Endpoint.mem_of_stream? hs)
        rw [Endpoint.id_of_stream? hs] at hused
        omega
      subst hid
      simp [Downloads.after, Downloads.read, Client.read, hleft, Client.readOff_nil hnone,
        bytesOf_ending, hgiven]
    · simp [Downloads.after, Function.update_of_ne hid, hgiven, hleft]

theorem Sound.after (h : d.Sound window) (e : DownloadEvent) : (d.after e).Sound window := by
  cases e with
  | client e => exact h.after_client e
  | read id room => exact h.after_read id room

theorem Sound.run (h : d.Sound window) (events : List DownloadEvent) :
    (d.run events).Sound window := by
  induction events generalizing d with
  | nil => exact h
  | cons e events ih => exact ih (h.after e)

theorem keeps_start (n : Nat) : (Endpoint.start true n).Keeps n 1 (fun _ => []) (fun _ => [])
    (fun _ => []) where
  tidy := ⟨rfl, List.nodup_nil, fun _ hs => by cases hs⟩
  ownWindow := rfl
  nextId := rfl
  sound := Window.isSound_ofSize _
  balance := by simp [Endpoint.start, Window.ofSize, Endpoint.pending]
  streams := fun _ hs => by cases hs

theorem sound_start (window : Option Nat) :
    (start window).Sound (window.getD Window.standard) where
  keeps := (keeps_start _).steady ((Endpoint.steady_refl _).same (by rfl))
  fresh := fun _ _ => ⟨rfl, rfl, rfl⟩

/-- What came on a stream is what was taken off it and what waits on it; of what was taken, all is
given but the rest of the last piece. The window of the stream is short of what came and was not
taken, and so is that of the connection. -/
structure Delivers (window : Nat) (d : Downloads) (s : Stream) : Prop where
  in_order : ∃ taken, d.came s.id = taken ++ s.inbox ∧ taken.flatten = d.given s.id ++ d.left s.id ∧
    (d.left s.id = [] ∨ ∃ bs, taken.getLast? = some bs ∧ d.left s.id <:+ bs) ∧
    s.recv.available + (d.came s.id).flatten.length = window + taken.flatten.length
  heard : d.came s.id <+: dataUntilEnd s.id (d.log s.id)
  whole : s.failure = none → d.came s.id = dataUntilEnd s.id (d.log s.id)
  balance : d.client.core.recv.available + d.client.core.pending = Window.standard

/-- What the next read of a stream answers: the bytes that follow those given, or, when all that
came is given, how the stream ended. -/
def Answers (d : Downloads) (s : Stream) (room : Nat) : Prop :=
  match (d.read s.id room).1 with
  | .ready [] => d.given s.id = (d.came s.id).flatten ∧
    (s.failure = none ∧ (∃ x ∈ d.log s.id, x.1.endsOn s.id x.2 = true) ∨
      (∃ c, s.failure = some c ∧ c.reason? = some .noError) ∧
        ∃ x ∈ d.log s.id, x.2.excuses s.id = true)
  | .ready bs => bs.length ≤ room ∧ d.given s.id ++ bs <+: (d.came s.id).flatten
  | .fault f => d.given s.id = (d.came s.id).flatten ∧
    ∃ c, s.failure = some c ∧ c.reason? ≠ some .noError ∧ f = c.fault
  | .waiting => d.given s.id = (d.came s.id).flatten ∧ s.failure = none ∧
    ∀ x ∈ d.log s.id, x.1.endsOn s.id x.2 = false

theorem Sound.delivers (h : d.Sound window) (hs : s ∈ d.client.core.streams)
    (hreading : s.reading = true) : d.Delivers window s := by
  have hfollows := h.keeps.streams s hs
  obtain ⟨taken, hcame, hgiven, hleft⟩ := hfollows.order hreading
  have hcredit := hfollows.credit hreading
  refine ⟨⟨taken, hcame, hgiven, hleft, ?_⟩, hfollows.heard, hfollows.whole hreading,
    h.keeps.balance⟩
  rw [came, hcame, List.flatten_append, List.length_append]
  omega

theorem Sound.answers (h : d.Sound window) (hs : s ∈ d.client.core.streams)
    (hreading : s.reading = true) {room : Nat} (hroom : 0 < room) : d.Answers s room := by
  have hfollows := h.keeps.streams s hs
  obtain ⟨taken, hcame, hgiven, -⟩ := hfollows.order hreading
  have hcame : (d.came s.id).flatten = d.given s.id ++ (d.left s.id ++ s.inbox.flatten) := by
    rw [came, hcame, List.flatten_append, hgiven, List.append_assoc]
  unfold Answers read
  rcases Client.read_answer hroom (h.keeps.tidy.stream?_of_mem hs) (d.left s.id) with
    ⟨b, bs, hready, hbs, hprefix⟩ | ⟨hleft, hinbox, hending⟩
  · rw [hready, hcame]
    exact ⟨hbs, (List.prefix_append_right_inj _).mpr hprefix⟩
  · have hall : d.given s.id = (d.came s.id).flatten := by
      rw [hcame, hinbox, hleft, List.append_nil, List.append_nil]
    rw [hending, Stream.ending]
    cases hfailure : s.failure with
    | some cause =>
      by_cases hreason : cause.reason? = some .noError
      · simp only [hreason, if_true]
        exact ⟨hall, .inr ⟨⟨cause, rfl, hreason⟩, hfollows.excused cause hfailure hreason⟩⟩
      · simp only [hreason, if_false]
        exact ⟨hall, cause, rfl, hreason, rfl⟩
    | none =>
      cases hended : s.recvEnded with
      | true => exact ⟨hall, .inl ⟨rfl, by simpa [Endpoint.hasEnd] using hfollows.ended hended⟩⟩
      | false =>
        exact ⟨hall, rfl, by simpa [Endpoint.hasEnd] using hfollows.no_end hfailure hended⟩

/-- Whatever happens to a client and however its responses are read: a stream that is still read
gives what came on it, and its next read gives more of it or says how the stream ended. -/
theorem reads_in_order (window : Option Nat) (events : List DownloadEvent) {room : Nat}
    (hs : s ∈ ((start window).run events).client.core.streams) (hreading : s.reading = true)
    (hroom : 0 < room) :
    ((start window).run events).Delivers (window.getD Window.standard) s ∧
      ((start window).run events).Answers s room :=
  have hsound := (sound_start window).run events
  ⟨hsound.delivers hs hreading, hsound.answers hs hreading hroom⟩

/-- A proxy grants a tunnel, sends an empty piece of data and two bytes, and then takes its leave of
all streams, this one among them, without an error; the two bytes are read. -/
def leave : List DownloadEvent :=
  [.client (.request ⟨"target.example:443", .empty⟩),
   .client (.heard ([0, 0, 0, 4, 0, 0, 0, 0, 0] ++ [0, 0, 1, 1, 4, 0, 0, 0, 1, 136]
     ++ [0, 0, 0, 0, 0, 0, 0, 0, 1] ++ [0, 0, 2, 0, 0, 0, 0, 0, 1, 104, 105]
     ++ [0, 0, 8, 7, 0, 0, 0, 0, 0, 0, 0, 0, 0, 0, 0, 0, 0])),
   .read 1 8]

theorem reads_in_order_leave : ((start none).run leave).given 1 = [104, 105] ∧
    ∃ s ∈ ((start none).run leave).client.core.streams, s.reading = true ∧ 0 < 8 ∧
      ((start none).run leave).Delivers Window.standard s ∧
      ((start none).run leave).Answers s 8 := by
  refine ⟨by decide +kernel, ?_⟩
  obtain ⟨s, hs, hreading⟩ :
      ∃ s ∈ ((start none).run leave).client.core.streams, s.reading = true := by decide +kernel
  exact ⟨s, hs, hreading, by decide, reads_in_order none leave hs hreading (by decide)⟩

/-- The end of the bytes need not be the end of the stream or a reset: the other side may have taken
its leave of the connection. -/
theorem not_only_end_or_reset : ¬ ∀ (window : Option Nat) (events : List DownloadEvent) (s : Stream)
    (room : Nat), s ∈ ((start window).run events).client.core.streams → s.reading = true →
    0 < room → (((start window).run events).read s.id room).1 = .ready [] →
    ∃ x ∈ ((start window).run events).log s.id,
      x.1.endsOn s.id x.2 = true ∨ x.2 = .reset s.id .noError := by
  intro hall
  obtain ⟨s, hs, hreading, hread, hnone⟩ : ∃ s ∈ ((start none).run leave).client.core.streams,
      s.reading = true ∧ (((start none).run leave).read s.id 8).1 = .ready [] ∧
        ∀ x ∈ ((start none).run leave).log s.id,
          ¬ (x.1.endsOn s.id x.2 = true ∨ x.2 = .reset s.id .noError) := by decide +kernel
  obtain ⟨x, hx, hend⟩ := hall none leave s 8 hs hreading (by decide) hread
  exact hnone x hx hend

end Downloads

end TunnelDial.Http2
