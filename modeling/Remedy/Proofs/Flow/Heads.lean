import Remedy.Proofs.Flow.Census
import Remedy.Proofs.Flow.Region

/-!
# Where dead code is reported

A dead statement is reported unless edges to higher numbers lead to it from another one. The number
of the end of a loop is lower than those of the loop's blocks, so what follows a dead loop is not
covered by what leaves the loop from its blocks; and a loop is not covered by its blocks. That is
all that is missed (`mem_deadLines_iff`).
-/

namespace Remedy.Flow

open Python
open Relation (ReflTransGen TransGen)

variable {g : Graph} {body : List Stmt} {what : Stmt} {t u v line : Nat}

/-! ## Heads -/

/-- An edge to a higher number. -/
def Graph.Ascends (g : Graph) (u v : Nat) : Prop := (u, v) ∈ g.edges ∧ u < v

theorem mem_forward : v ∈ g.forward u ↔ g.Ascends u v := by
  rw [Graph.forward, List.mem_filter, Graph.mem_successors, decide_eq_true_iff, Graph.Ascends]

theorem within_forward : Within g.forward g.edges := fun v =>
  Nat.le_trans (List.length_filter_le ..) (Graph.within_successors v)

theorem lt_of_ascends (h : TransGen g.Ascends u v) : u < v := by
  induction h with
  | single h => exact h.2
  | tail _ h ih => exact Nat.lt_trans ih h.2

theorem mem_covered :
    v ∈ reach g.forward g.edges.length (g.deadStatements.flatMap g.forward) ↔
      ∃ s ∈ g.deadStatements, TransGen g.Ascends s v := by
  rw [mem_reach_iff within_forward]
  simp only [List.mem_flatMap, mem_forward]
  constructor
  · rintro ⟨u, ⟨s, hs, hstep⟩, hpath⟩
    exact ⟨s, hs, .head' hstep hpath⟩
  · rintro ⟨s, hs, hpath⟩
    obtain ⟨u, hstep, hrest⟩ := TransGen.head'_iff.mp hpath
    exact ⟨u, ⟨s, hs, hstep⟩, hrest⟩

theorem mem_deadHeads :
    v ∈ g.deadHeads ↔ v ∈ g.deadStatements ∧ ∀ s ∈ g.deadStatements, ¬ TransGen g.Ascends s v := by
  unfold Graph.deadHeads
  rw [List.mem_filter, Bool.not_eq_true', Bool.eq_false_iff, ne_eq, List.contains_iff_mem,
    mem_covered]
  simp only [not_exists, not_and]

theorem mem_deadLines :
    line ∈ g.deadLines ↔
      ∃ v ∈ g.deadHeads, ∃ s, g.nodes[v]? = some (.statement s) ∧ s.line = line := by
  unfold Graph.deadLines
  rw [List.mem_eraseDups, List.mem_mergeSort, List.mem_filterMap]
  refine exists_congr fun v => and_congr_right fun hv => ?_
  obtain ⟨-, s, hs⟩ := mem_deadStatements.mp (mem_deadHeads.mp hv).1
  simp only [hs, Option.bind_some, Node.line?, Option.some.injEq, Node.statement.injEq,
    exists_eq_left']

/-! ## Lines -/

/-- Where all statements of a scope start on different lines, so do those of its nodes. -/
theorem eq_of_line {s : Stmt} (hlines : ((Stmt.walkScope body).map Stmt.line).Nodup)
    (hu : (Graph.ofBody body).nodes[u]? = some (.statement s))
    (hv : (Graph.ofBody body).nodes[v]? = some (.statement what)) (hline : s.line = what.line) :
    u = v := by
  obtain ⟨x, hx, rfl, rfl⟩ := nodes_ofBody_iff.mp hu
  obtain ⟨y, hy, rfl, rfl⟩ := nodes_ofBody_iff.mp hv
  have hnodup : ((blockSlots 0 2 body).map fun x => x.what.line).Nodup := by
    obtain ⟨order, hperm, hsub⟩ := subperm_blockSlots 0 2 body
    have hmap := hperm.map Stmt.line
    rw [List.map_map] at hmap
    exact hmap.nodup_iff.mp (hlines.sublist (hsub.map Stmt.line))
  rw [List.inj_on_of_nodup_map hnodup hx hy hline]

/-! ## Ways into a region -/

/-- An edge, but for those from the blocks of a loop to its end. -/
def Graph.Onward (g : Graph) (u v : Nat) : Prop :=
  (u, v) ∈ g.edges ∧ ¬ (g.nodes[v]? = some .loopEnd ∧ v < u)

theorem Graph.Ascends.onward (h : g.Ascends u v) : g.Onward u v :=
  ⟨h.1, fun hback => Nat.lt_asymm h.2 hback.2⟩

theorem statementSize_pos (s : Stmt) : 0 < statementSize s := by
  cases s <;> unfold statementSize <;> omega

/-- A way into the nodes of a statement passes its own node, which it comes to from before. -/
theorem exists_ascent_of_enters {s : Nat}
    (ht : (Graph.ofBody body).nodes[t]? = some (.statement what))
    (hpath : ReflTransGen (Graph.ofBody body).Onward s v)
    (hs : ¬ (t ≤ s ∧ s < t + statementSize what)) (hv : t ≤ v ∧ v < t + statementSize what) :
    ∃ a, ReflTransGen (Graph.ofBody body).Onward s a ∧ (Graph.ofBody body).Ascends a t := by
  induction hpath with
  | refl => exact absurd hv hs
  | @tail b v hsb hbv ih =>
      rcases edges_enclosed ht hbv.1 hv.1 hv.2 with hb | ⟨rfl, hlt⟩
      · exact ih hb
      · exact ⟨b, hsb, hbv.1, hlt⟩

/-- What leads to a dead node is dead. -/
theorem dead_of_ascends (ht : ¬ Alive g.edges t) (hpath : TransGen g.Ascends u t) :
    ¬ Alive g.edges u := fun hu =>
  ht (hu.trans (ReflTransGen.mono (fun _ _ h => h.1) _ _ hpath.to_reflTransGen))

/-- Where a dead statement leads to a dead node, and the way there ends with edges to higher
numbers, some dead statement leads there by such edges alone. -/
theorem exists_head_of_onward {s : Nat} (ht : ¬ Alive (Graph.ofBody body).edges t)
    (hs : s ∈ (Graph.ofBody body).deadStatements)
    (hpath : ReflTransGen (Graph.ofBody body).Onward s v)
    (hlast : TransGen (Graph.ofBody body).Ascends v t) :
    ∃ head ∈ (Graph.ofBody body).deadStatements, TransGen (Graph.ofBody body).Ascends head t := by
  induction hpath with
  | refl => exact ⟨s, hs, hlast⟩
  | @tail b v hsb hbv ih =>
      rcases edges_turn hbv.1 with hlt | rfl | hend | ⟨stmt, hstmt⟩
      · exact ih (.head ⟨hbv.1, hlt⟩ hlast)
      · obtain ⟨w, hstep, -⟩ := TransGen.head'_iff.mp hlast
        exact absurd rfl (source_ne_finish hstep.1)
      · exact absurd hend hbv.2
      · -- a turn is at a statement, which is as dead as what it leads to
        refine ⟨v, mem_deadStatements.mpr ⟨fun hreach => ?_, stmt, hstmt⟩, hlast⟩
        exact dead_of_ascends ht hlast (Graph.mem_reachable_iff.mp hreach)

/-- Where the statements of a scope start on different lines, a dead statement is reported exactly
if the only dead statements that lead to it without leaving a loop from its blocks are itself and
those in its own blocks. -/
theorem mem_deadLines_iff (body : List Stmt) (t : Nat) (what : Stmt)
    (hlines : ((Stmt.walkScope body).map Stmt.line).Nodup)
    (hnode : (Graph.ofBody body).nodes[t]? = some (.statement what))
    (hdead : t ∈ (Graph.ofBody body).deadStatements) :
    what.line ∈ (Graph.ofBody body).deadLines ↔
      ∀ s ∈ (Graph.ofBody body).deadStatements, ReflTransGen (Graph.ofBody body).Onward s t →
        t ≤ s ∧ s < t + statementSize what := by
  have hhead : what.line ∈ (Graph.ofBody body).deadLines ↔ t ∈ (Graph.ofBody body).deadHeads := by
    rw [mem_deadLines]
    constructor
    · rintro ⟨v, hv, s, hs, hline⟩
      obtain rfl := eq_of_line hlines hs hnode hline
      exact hv
    · exact fun ht => ⟨t, ht, what, hnode, rfl⟩
  rw [hhead, mem_deadHeads]
  constructor
  · rintro ⟨-, hnone⟩ s hs hpath
    by_contra hout
    have hin : t ≤ t ∧ t < t + statementSize what :=
      ⟨Nat.le_refl t, Nat.lt_add_of_pos_right (statementSize_pos what)⟩
    obtain ⟨a, hsa, hat⟩ := exists_ascent_of_enters hnode hpath hout hin
    have hnot : ¬ Alive (Graph.ofBody body).edges t := fun halive =>
      (mem_deadStatements.mp hdead).1 (Graph.mem_reachable_iff.mpr halive)
    obtain ⟨head, hhead, hascent⟩ := exists_head_of_onward hnot hs hsa (.single hat)
    exact hnone head hhead hascent
  · intro honly
    refine ⟨hdead, fun s hs hascent => ?_⟩
    have hpath : ReflTransGen (Graph.ofBody body).Onward s t :=
      ReflTransGen.mono (fun _ _ h => h.onward) _ _ hascent.to_reflTransGen
    exact Nat.not_le_of_lt (lt_of_ascends hascent) (honly s hs hpath).1

/-- A dead loop that an assignment before it leads to, and what leads back to it from its body. -/
theorem mem_deadLines_iff_loop :
    let body : List Stmt := [.simple 1 (.ret none), .simple 2 .pass,
      .whileLoop 3 (.name 3 "x") [.simple 4 .continueLoop, .simple 5 .pass] []]
    let loop : Stmt := .whileLoop 3 (.name 3 "x") [.simple 4 .continueLoop, .simple 5 .pass] []
    ((Stmt.walkScope body).map Stmt.line).Nodup
      ∧ (Graph.ofBody body).nodes[4]? = some (.statement loop)
      ∧ 4 ∈ (Graph.ofBody body).deadStatements
      ∧ (loop.line ∈ (Graph.ofBody body).deadLines ↔
        ∀ s ∈ (Graph.ofBody body).deadStatements,
          ReflTransGen (Graph.ofBody body).Onward s 4 → 4 ≤ s ∧ s < 4 + statementSize loop) := by
  intro body loop
  have hlines : ((Stmt.walkScope body).map Stmt.line).Nodup := by decide
  have hnode : (Graph.ofBody body).nodes[4]? = some (.statement loop) := rfl
  have hdead : 4 ∈ (Graph.ofBody body).deadStatements := by decide +kernel
  exact ⟨hlines, hnode, hdead, mem_deadLines_iff body 4 loop hlines hnode hdead⟩

/-! ## A region that is reported twice -/

/-- A loop that cannot run, which `break` leaves, and a statement after it. -/
def deadLoop : List Stmt :=
  [.simple 2 (.ret (some (.const 2 (.int 0)))),
    .whileLoop 3 (.const 3 (.bool true)) [.simple 4 .breakLoop] [],
    .simple 5 (.expr (.call 5 (.name 5 "done") []))]

/-- What follows a dead loop that is left by `break` is reported, though the loop leads to it. -/
theorem after_dead_loop_reported :
    ((Stmt.walkScope deadLoop).map Stmt.line).Nodup
      ∧ (∃ loop after, (Graph.ofBody deadLoop).nodes[3]? = some (.statement loop) ∧ loop.line = 3
        ∧ (Graph.ofBody deadLoop).nodes[6]? = some (.statement after) ∧ after.line = 5)
      ∧ 3 ∈ (Graph.ofBody deadLoop).deadStatements ∧ 6 ∈ (Graph.ofBody deadLoop).deadStatements
      ∧ ReflTransGen (fun u v => (u, v) ∈ (Graph.ofBody deadLoop).edges) 3 6
      ∧ ¬ ReflTransGen (fun u v => (u, v) ∈ (Graph.ofBody deadLoop).edges) 6 3
      ∧ 5 ∈ (Graph.ofBody deadLoop).deadLines := by
  have hsearch (u v : Nat) : v ∈ reach (Graph.ofBody deadLoop).successors
      (Graph.ofBody deadLoop).edges.length [u] ↔
        ReflTransGen (fun u v => (u, v) ∈ (Graph.ofBody deadLoop).edges) u v := by
    rw [mem_reach_iff Graph.within_successors]
    simp only [List.mem_singleton, exists_eq_left, Graph.mem_successors]
  refine ⟨by decide, ⟨_, _, rfl, rfl, rfl, rfl⟩, by decide +kernel, by decide +kernel, ?_, ?_, ?_⟩
  · rw [← hsearch]
    decide +kernel
  · rw [← hsearch]
    decide +kernel
  · exact mem_deadLines.mpr ⟨6, by decide +kernel, _, rfl, rfl⟩

end Remedy.Flow
