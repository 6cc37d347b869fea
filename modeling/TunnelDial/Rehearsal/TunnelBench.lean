import TunnelDial.Rehearsal.Dialing
import TunnelDial.Rehearsal.TunnelCall

/-! One tunnel on its own: over a scripted stream, over a socket, or on a stream of a transport
whose other end the caller holds. -/
namespace TunnelDial.Rehearsal

/-- The world with the tunnel, and the leases of a group that the caller holds beside the tunnel. -/
structure TunnelBench where
  world : World
  group : Nat
  leases : Nat
deriving Repr

inductive BenchStep
  | receive
  | loseBody
  | showBody
  | dropLease
  | addLease
  | drop
  | unwrap
  | call (c : TunnelCall)
deriving Repr

/-- The answer to a step; `gone` says that the tunnel was dropped. -/
inductive BenchReply
  | nothing
  | gone
  | done
  | truth (b : Bool)
  | count (n : Nat)
  | text (s : String)
  | received (e : TaskEnd)
  | called (r : TunnelReply)
deriving Repr

namespace TunnelBench

def plain (replay : Bytes) (s : ScriptedStream) : TunnelBench := ⟨.withPlain "" replay s, 0, 0⟩

def socket (acts : List PeerAct) : TunnelBench := ⟨.withPeer "" acts, 0, 0⟩

def mux (leases : Nat) (reads : List Act) : TunnelBench := ⟨.withMux "" leases reads, 0, leases⟩

def tunnel? (b : TunnelBench) : Option Tunnel := b.world.tunnel? ""

def hasBody (b : TunnelBench) : Bool :=
  (b.world.trips.head?.map (·.channel.receiving)).getD false

def lease? (b : TunnelBench) : Option (Option Nat) :=
  match b.tunnel? with
  | some (.mux m _) => some m.lease
  | _ => none

def withPool (b : TunnelBench) (p : Pool) (leases : Nat) : TunnelBench :=
  ⟨b.world.setPool p, b.group, leases⟩

def step (b : TunnelBench) : BenchStep → BenchReply × TunnelBench
  | .receive =>
    if b.hasBody then
      let r := b.world.receive 0
      (.received r.1, { b with world := r.2 })
    else (.nothing, b)
  | .loseBody => (.truth b.hasBody, { b with world := b.world.loseBody 0 })
  | .showBody => (if b.hasBody then .text (Text.record "RequestBody" [] true) else .nothing, b)
  | .dropLease =>
    if b.leases = 0 then (.truth false, b)
    else (.truth true, b.withPool (b.world.hub.pool.release b.group) (b.leases - 1))
  | .addLease =>
    match b.lease? with
    | some (some g) =>
      let more := b.leases + 1
      (.count more, b.withPool (b.world.hub.pool.retain g) more)
    | some none => (.count b.leases, b)
    | none => (.nothing, b)
  | .drop => (.truth b.tunnel?.isSome, { b with world := b.world.remove "" })
  | .unwrap =>
    match b.world.bare? "" with
    | some w => (.done, { b with world := w })
    | none => (.nothing, b)
  | .call c =>
    match b.tunnel? with
    | some t =>
      let r := b.world.call "" t c
      (.called r.1, { b with world := r.2 })
    | none => (.gone, b)

def closes (b : TunnelBench) : Nat := b.world.hub.pool.ledger.closings.length

def dropped (b : TunnelBench) : Bool :=
  match b.world.carriers.head?, b.world.trips.head? with
  | some (.scripted s), _ => s.dropped
  | _, some t => t.dropped
  | _, _ => false

/-- The scripted stream; a tunnel on a transport wrote nothing to it. -/
def stream (b : TunnelBench) : ScriptedStream :=
  match b.world.carriers.head? with
  | some (.scripted s) => s
  | _ => { ScriptedStream.ofActs [] [] [] [] with dropped := b.dropped }

def finalPeer? (b : TunnelBench) : Option Carrier := b.world.finish.carriers.head?

end TunnelBench

end TunnelDial.Rehearsal
