import TunnelDial.Http2.Endpoint

/-! The streams of an endpoint, found by their numbers and changed one at a time. -/
namespace TunnelDial.Http2.Endpoint

variable {e : Endpoint} {id : Nat} {s : Stream}

theorem mem_of_stream? (hs : e.stream? id = some s) : s ∈ e.streams :=
  List.mem_of_find?_eq_some hs

theorem id_of_stream? (hs : e.stream? id = some s) : s.id = id := by
  simpa using List.find?_some hs

theorem ne_of_stream?_none (h : e.stream? id = none) (hs : s ∈ e.streams) : s.id ≠ id := by
  simpa using List.find?_eq_none.mp h s hs

theorem stream?_modify {g : Stream → Stream} (hg : ∀ s, (g s).id = s.id)
    (hs : e.stream? id = some s) : (e.modify id g).stream? id = some (g s) := by
  have hid (x : Stream) : (if x.id = id then g x else x).id = x.id := by
    split
    · exact hg x
    · rfl
  have hfind : e.streams.find? ((fun x => decide (x.id = id)) ∘
      fun x => if x.id = id then g x else x) = some s := by
    simpa only [Function.comp_def, hid, stream?] using hs
  rw [stream?, modify, List.find?_map, hfind, Option.map_some, if_pos (id_of_stream? hs)]

/-- Two changes of one stream are one. -/
theorem modify_modify (e : Endpoint) (id : Nat) {g g' : Stream → Stream}
    (hg : ∀ s, (g s).id = s.id) :
    (e.modify id g).modify id g' = e.modify id (g' ∘ g) := by
  unfold modify
  simp only [List.map_map]
  congr 1
  refine List.map_congr_left fun s _ => ?_
  by_cases hs : s.id = id
  · simp [hs, hg]
  · simp [hs]

end TunnelDial.Http2.Endpoint
