import Remedy.Proofs.Flow.Simulation

/-!
# No statement that can run is dead

Every statement that some execution of a scope reaches has a node that the graph marks reachable, so
that dead code is only reported at statements that no execution reaches.
-/

namespace Remedy.Flow

open Python

variable {g : Graph} {body : List Stmt} {place : Place} {v line : Nat}

/-- Control can come to the node of every statement that an execution of a scope reaches. -/
theorem Reached.exists_slot (h : Reached body place) :
    ∃ x ∈ blockSlots 0 2 body, x.place = place ∧ x.node ∈ (Graph.ofBody body).reachable := by
  obtain ⟨reached, ending, run, hplace⟩ := h
  have hstart : Entered (Graph.ofBody body).edges [Graph.startId] :=
    .of_alive Relation.ReflTransGen.refl
  have hfollows := run.simulated ⟨Graph.finishId, none⟩ 2 [Graph.startId]
    (List.subset_append_left ..) hstart
  obtain ⟨x, hx, heq, halive⟩ := hfollows.marked place hplace
  exact ⟨x, hx, heq, Graph.mem_reachable_iff.mpr halive⟩

/-! ## Dead statements -/

theorem line?_isSome {node : Node} : node.line?.isSome = true ↔ ∃ s, node = .statement s := by
  cases node <;> simp [Node.line?]

theorem mem_deadStatements :
    v ∈ g.deadStatements ↔ v ∉ g.reachable ∧ ∃ s, g.nodes[v]? = some (.statement s) := by
  have hsome : (g.nodes[v]?.bind Node.line?).isSome = true ↔
      ∃ s, g.nodes[v]? = some (.statement s) := by
    cases hv : g.nodes[v]? with
    | none => simp
    | some node => rw [Option.bind_some, line?_isSome]; simp
  unfold Graph.deadStatements
  rw [List.mem_filter, List.mem_range, Bool.and_eq_true, hsome, Bool.not_eq_true',
    Bool.eq_false_iff, ne_eq, List.contains_iff_mem]
  constructor
  · exact fun h => h.2
  · rintro ⟨hdead, s, hs⟩
    exact ⟨(List.getElem?_eq_some_iff.mp hs).1, hdead, s, hs⟩

/-- A line where dead code is reported is the line of a dead statement. -/
theorem exists_dead_of_mem_deadLines (h : line ∈ g.deadLines) :
    ∃ v ∈ g.deadStatements, ∃ s, g.nodes[v]? = some (.statement s) ∧ s.line = line := by
  unfold Graph.deadLines at h
  rw [List.mem_eraseDups, List.mem_mergeSort] at h
  obtain ⟨v, hv, hline⟩ := List.mem_filterMap.mp h
  have hdead : v ∈ g.deadStatements := (List.mem_filter.mp hv).1
  obtain ⟨-, s, hs⟩ := mem_deadStatements.mp hdead
  refine ⟨v, hdead, s, hs, ?_⟩
  rw [hs] at hline
  exact Option.some.inj hline

/-- A dead statement has a place, and no execution reaches it. -/
theorem exists_place_of_dead {s : Stmt} (hdead : v ∈ (Graph.ofBody body).deadStatements)
    (hs : (Graph.ofBody body).nodes[v]? = some (.statement s)) :
    ∃ place, place.find? body = some s ∧ nodeOf? body place = some v ∧ ¬ Reached body place := by
  obtain ⟨x, hx, rfl, rfl⟩ := nodes_ofBody_iff.mp hs
  have hfind := find_scopeSlots body x hx
  refine ⟨x.place, hfind, nodeOf?_eq_some.mpr ⟨x, hx, rfl, rfl⟩, fun hreached => ?_⟩
  obtain ⟨y, hy, heq, halive⟩ := hreached.exists_slot
  obtain rfl : y = x := List.inj_on_of_nodup_map (nodup_blockSlots 0 2 body) hy hx heq
  exact (mem_deadStatements.mp hdead).1 halive

/-- The graph of a scope calls no statement dead that can run. Different statements have different
nodes in it; each statement that some execution reaches has a node, and the graph marks it
reachable; and what it reports are lines of statements that no execution reaches. -/
theorem reached_alive (body : List Stmt) :
    (∀ p q v, nodeOf? body p = some v → nodeOf? body q = some v → p = q)
      ∧ (∀ place, Reached body place → ∃ s v, place.find? body = some s
        ∧ nodeOf? body place = some v
        ∧ (Graph.ofBody body).nodes[v]? = some (.statement s)
        ∧ v ∈ (Graph.ofBody body).reachable)
      ∧ (∀ v ∈ (Graph.ofBody body).deadStatements, ∃ place s, place.find? body = some s
        ∧ nodeOf? body place = some v ∧ ¬ Reached body place)
      ∧ ∀ line ∈ (Graph.ofBody body).deadLines, ∃ place s v, place.find? body = some s
        ∧ s.line = line ∧ nodeOf? body place = some v
        ∧ v ∈ (Graph.ofBody body).deadStatements ∧ ¬ Reached body place := by
  refine ⟨fun p q v hp hq => nodeOf?_inj hp hq, fun place hreached => ?_, fun v hdead => ?_,
    fun line hline => ?_⟩
  · obtain ⟨x, hx, rfl, halive⟩ := hreached.exists_slot
    exact ⟨x.what, x.node, find_scopeSlots body x hx, nodeOf?_eq_some.mpr ⟨x, hx, rfl, rfl⟩,
      nodes_ofBody_iff.mpr ⟨x, hx, rfl, rfl⟩, halive⟩
  · obtain ⟨-, s, hs⟩ := mem_deadStatements.mp hdead
    obtain ⟨place, hfind, hnode, hnot⟩ := exists_place_of_dead hdead hs
    exact ⟨place, s, hfind, hnode, hnot⟩
  · obtain ⟨v, hdead, s, hs, rfl⟩ := exists_dead_of_mem_deadLines hline
    obtain ⟨place, hfind, hnode, hnot⟩ := exists_place_of_dead hdead hs
    exact ⟨place, s, v, hfind, rfl, hnode, hdead, hnot⟩

end Remedy.Flow
