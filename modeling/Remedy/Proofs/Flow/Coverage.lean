import Mathlib.Data.List.Sort
import Remedy.Proofs.Flow.Heads

/-!
# No dead statement goes unreported

A dead statement is the head of a region or follows from one by edges to higher numbers: of the dead
statements that lead to it in this way, one with the lowest number is not led to itself. So nothing
is reported exactly when every statement is alive (`deadLines_reports`).
-/

namespace Remedy.Flow

open Python
open Relation (ReflTransGen TransGen)

variable {g : Graph} {v : Nat}

/-! ## Heads of regions -/

theorem not_alive_of_dead (hv : v ∈ g.deadStatements) : ¬ Alive g.edges v := fun halive =>
  (mem_deadStatements.mp hv).1 (Graph.mem_reachable_iff.mpr halive)

/-- A dead statement is a head, or edges to higher numbers lead to it from one. -/
theorem exists_head_of_dead (hv : v ∈ g.deadStatements) :
    ∃ head ∈ g.deadHeads, ReflTransGen g.Ascends head v := by
  -- what leads to a statement by such edges has a lower number
  induction v using Nat.strongRecOn with
  | ind v ih =>
      by_cases hled : ∃ s ∈ g.deadStatements, TransGen g.Ascends s v
      · obtain ⟨s, hs, hpath⟩ := hled
        obtain ⟨head, hhead, hway⟩ := ih s (lt_of_ascends hpath) hs
        exact ⟨head, hhead, hway.trans hpath.to_reflTransGen⟩
      · have hhead : v ∈ g.deadHeads :=
          mem_deadHeads.mpr ⟨hv, fun s hs hpath => hled ⟨s, hs, hpath⟩⟩
        exact ⟨v, hhead, .refl⟩

/-! ## The lines in order -/

theorem pairwise_lt_eraseDups {l : List Nat} (h : l.Pairwise (· ≤ ·)) :
    l.eraseDups.Pairwise (· < ·) := by
  induction hn : l.length using Nat.strongRecOn generalizing l with
  | ind n ih =>
      cases l with
      | nil => exact .nil
      | cons a l =>
          obtain ⟨hle, hrest⟩ := List.pairwise_cons.mp h
          have hlength : (l.filter fun b => !b == a).length ≤ l.length := List.length_filter_le ..
          rw [List.length_cons] at hn
          rw [List.eraseDups_cons, List.pairwise_cons]
          refine ⟨fun b hb => ?_, ih _ (by omega) (hrest.filter _) rfl⟩
          obtain ⟨hmem, hne⟩ := List.mem_filter.mp (List.mem_eraseDups.mp hb)
          rw [Bool.not_eq_true', beq_eq_false_iff_ne] at hne
          exact Nat.lt_of_le_of_ne (hle b hmem) (Ne.symm hne)

theorem pairwise_deadLines (g : Graph) : g.deadLines.Pairwise (· < ·) :=
  pairwise_lt_eraseDups (List.pairwise_mergeSort' (· ≤ ·) _)

/-! ## What is reported -/

/-- What the lines where dead code begins say about a graph. -/
structure Graph.Reports (g : Graph) (lines : List Nat) : Prop where
  /-- A line that is reported is that of a dead statement. -/
  dead : ∀ line ∈ lines, ∃ v s, g.nodes[v]? = some (.statement s) ∧ s.line = line
    ∧ ¬ Alive g.edges v
  /-- A dead statement is one that is reported or follows from one by edges to higher numbers. -/
  covered : ∀ v s, g.nodes[v]? = some (.statement s) → ¬ Alive g.edges v →
    ∃ head what, g.nodes[head]? = some (.statement what) ∧ ¬ Alive g.edges head
      ∧ head ∈ g.deadHeads ∧ what.line ∈ lines ∧ ReflTransGen g.Ascends head v
  ordered : lines.Pairwise (· < ·)
  /-- Nothing is reported exactly when there is no dead statement. -/
  nothing : lines = [] ↔ ∀ v s, g.nodes[v]? = some (.statement s) → Alive g.edges v

/-- Every dead statement of a graph is reported, at its own line or as part of a region, and nothing
else is. -/
theorem deadLines_reports (g : Graph) : g.Reports g.deadLines := by
  have hdead (line : Nat) (hline : line ∈ g.deadLines) :
      ∃ v s, g.nodes[v]? = some (.statement s) ∧ s.line = line ∧ ¬ Alive g.edges v := by
    obtain ⟨v, hv, s, hs, hsline⟩ := exists_dead_of_mem_deadLines hline
    exact ⟨v, s, hs, hsline, not_alive_of_dead hv⟩
  have hcovered (v : Nat) (s : Stmt) (hs : g.nodes[v]? = some (.statement s))
      (hv : ¬ Alive g.edges v) : ∃ head what, g.nodes[head]? = some (.statement what)
        ∧ ¬ Alive g.edges head ∧ head ∈ g.deadHeads ∧ what.line ∈ g.deadLines
        ∧ ReflTransGen g.Ascends head v := by
    have hmem : v ∈ g.deadStatements :=
      mem_deadStatements.mpr ⟨fun hreach => hv (Graph.mem_reachable_iff.mp hreach), s, hs⟩
    obtain ⟨head, hhead, hway⟩ := exists_head_of_dead hmem
    have hheadDead := (mem_deadHeads.mp hhead).1
    obtain ⟨-, what, hwhat⟩ := mem_deadStatements.mp hheadDead
    exact ⟨head, what, hwhat, not_alive_of_dead hheadDead, hhead,
      mem_deadLines.mpr ⟨head, hhead, what, hwhat, rfl⟩, hway⟩
  refine ⟨hdead, hcovered, pairwise_deadLines g, fun hnil v s hs => ?_, fun hall => ?_⟩
  · by_contra hv
    obtain ⟨head, what, -, -, -, hline, -⟩ := hcovered v s hs hv
    rw [hnil] at hline
    exact List.not_mem_nil hline
  · refine List.eq_nil_iff_forall_not_mem.mpr fun line hline => ?_
    obtain ⟨v, s, hs, -, hv⟩ := hdead line hline
    exact hv (hall v s hs)

end Remedy.Flow
