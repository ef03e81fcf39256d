import Remedy.Flow.Graph
import Remedy.Proofs.Flow.Worklist

/-!
# The search through a graph is exact

The nodes that a graph lists as reachable are those that a path from the start leads to
(`Graph.mem_reachable_iff`).
-/

namespace Remedy.Flow

open Relation (ReflTransGen)

/-- A node that control can come to along edges from the start. -/
def Alive (edges : List (Nat × Nat)) (v : Nat) : Prop :=
  ReflTransGen (fun a b => (a, b) ∈ edges) Graph.startId v

theorem Alive.step {edges : List (Nat × Nat)} {v w : Nat} (h : Alive edges v)
    (hw : (v, w) ∈ edges) : Alive edges w :=
  ReflTransGen.tail h hw

theorem length_eraseDups_le (l : List Nat) : l.eraseDups.length ≤ l.length := by
  induction hn : l.length using Nat.strongRecOn generalizing l with
  | ind n ih =>
      cases l with
      | nil => exact Nat.zero_le n
      | cons a l =>
          have hfilter : (l.filter fun b => !b == a).length ≤ l.length := List.length_filter_le ..
          rw [List.length_cons] at hn
          have hrest := ih _ (by omega) (l.filter fun b => !b == a) rfl
          rw [List.eraseDups_cons, List.length_cons]
          omega

theorem nodup_eraseDups (l : List Nat) : l.eraseDups.Nodup := by
  match l with
  | [] => exact List.nodup_nil
  | a :: l =>
      rw [List.eraseDups_cons, List.nodup_cons, List.mem_eraseDups]
      exact ⟨fun h => by simpa using (List.mem_filter.mp h).2, nodup_eraseDups _⟩
termination_by l.length
decreasing_by exact Nat.lt_succ_of_le (List.length_filter_le _ _)

namespace Graph

variable {g : Graph} {v w : Nat}

theorem mem_successors : w ∈ g.successors v ↔ (v, w) ∈ g.edges := by
  rw [successors, List.mem_eraseDups, List.mem_map]
  constructor
  · rintro ⟨⟨a, b⟩, he, rfl⟩
    obtain ⟨hmem, ha⟩ := List.mem_filter.mp he
    obtain rfl : a = v := of_decide_eq_true ha
    exact hmem
  · intro he
    exact ⟨(v, w), List.mem_filter.mpr ⟨he, decide_eq_true rfl⟩, rfl⟩

theorem within_successors : Within g.successors g.edges := by
  intro v
  refine Nat.le_trans (length_eraseDups_le _) ?_
  exact Nat.le_of_eq (by rw [List.length_map, List.countP_eq_length_filter])

/-- The nodes that the search of a graph marks are those that control can come to. -/
theorem mem_reachable_iff : v ∈ g.reachable ↔ Alive g.edges v := by
  rw [reachable, mem_reach_iff within_successors]
  simp only [List.mem_singleton, exists_eq_left, mem_successors, Alive]

end Graph

end Remedy.Flow
