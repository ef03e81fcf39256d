import Mathlib.Algebra.Order.Group.Multiset
import Mathlib.Tactic.Abel
import Remedy.Proofs.Flow.Soundness

/-!
# Which statements have a node

The graph of a scope has one node for each of its statements, but for those in an `else` block that
a loop with a true condition never comes to: that block is left out, with whatever is in it
(`omitted`), and so it is not reported as dead either. Nothing else is left out
(`lines_add_omitted`).
-/

namespace Remedy.Flow

open Python

/-! ## What is left out -/

/-- The `else` block of a loop whose condition is a true literal. -/
def idleElse : Stmt → List Stmt
  | .whileLoop _ test _ orelse => if test.literal?.any Literal.truthy then orelse else []
  | _ => []

mutual

/-- The statements that a statement has no nodes for, though they belong to its scope. -/
def omittedOne : Stmt → List Stmt
  | .simple _ _ | .function _ _ _ _ | .classDef _ _ _ => []
  | .branch _ _ body orelse | .forLoop _ _ _ body orelse => omitted body ++ omitted orelse
  | .whileLoop _ test body orelse =>
    omitted body
      ++ if test.literal?.any Literal.truthy then Stmt.walkScope orelse else omitted orelse
  | .tryBlock _ body handlers orelse finalBody =>
    omitted body ++ omittedHandlers handlers ++ omitted orelse ++ omitted finalBody
  | .withBlock _ _ _ body => omitted body

/-- The statements of a scope that its graph leaves out. -/
def omitted : List Stmt → List Stmt
  | [] => []
  | s :: body => omittedOne s ++ omitted body

/-- The statements of handlers that the graph leaves out. -/
def omittedHandlers : List Handler → List Stmt
  | [] => []
  | .mk _ _ body :: handlers => omitted body ++ omittedHandlers handlers

end

theorem walkScope_eq_nil_iff {body : List Stmt} : Stmt.walkScope body = [] ↔ body = [] := by
  constructor
  · intro h
    cases body with
    | nil => rfl
    | cons s body =>
        have hs := Stmt.mem_walkOne_self s
        rw [(List.append_eq_nil_iff.mp h).1] at hs
        cases hs
  · rintro rfl
    rfl

mutual

theorem omittedOne_eq_nil_iff :
    (s : Stmt) → (omittedOne s = [] ↔ ∀ t ∈ Stmt.walkOne s, idleElse t = [])
  | .simple line what => iff_of_true rfl (List.forall_mem_singleton.mpr rfl)
  | .function line name params body => iff_of_true rfl (List.forall_mem_singleton.mpr rfl)
  | .classDef line name body => iff_of_true rfl (List.forall_mem_singleton.mpr rfl)
  | .branch line test body orelse => by
      have hown : idleElse (.branch line test body orelse) = [] := rfl
      simp only [omittedOne, Stmt.walkOne, List.append_eq_nil_iff, List.forall_mem_cons,
        List.forall_mem_append, omitted_eq_nil_iff body, omitted_eq_nil_iff orelse, hown, true_and]
  | .whileLoop line test body orelse => by
      have hown : idleElse (.whileLoop line test body orelse)
        = if test.literal?.any Literal.truthy then orelse else [] := rfl
      simp only [omittedOne, Stmt.walkOne, List.append_eq_nil_iff, List.forall_mem_cons,
        List.forall_mem_append, omitted_eq_nil_iff body, hown]
      split
      · rw [walkScope_eq_nil_iff]
        constructor
        · rintro ⟨hbody, rfl⟩
          exact ⟨rfl, hbody, List.forall_mem_nil _⟩
        · exact fun h => ⟨h.2.1, h.1⟩
      · simp only [omitted_eq_nil_iff orelse, true_and]
  | .forLoop line target iter body orelse => by
      have hown : idleElse (.forLoop line target iter body orelse) = [] := rfl
      simp only [omittedOne, Stmt.walkOne, List.append_eq_nil_iff, List.forall_mem_cons,
        List.forall_mem_append, omitted_eq_nil_iff body, omitted_eq_nil_iff orelse, hown, true_and]
  | .tryBlock line body handlers orelse finalBody => by
      have hown : idleElse (.tryBlock line body handlers orelse finalBody) = [] := rfl
      simp only [omittedOne, Stmt.walkOne, List.append_eq_nil_iff, List.forall_mem_cons,
        List.forall_mem_append, omitted_eq_nil_iff body, omittedHandlers_eq_nil_iff handlers,
        omitted_eq_nil_iff orelse, omitted_eq_nil_iff finalBody, hown, true_and]
  | .withBlock line items targets body => by
      have hown : idleElse (.withBlock line items targets body) = [] := rfl
      simp only [omittedOne, Stmt.walkOne, List.forall_mem_cons, omitted_eq_nil_iff body, hown,
        true_and]

/-- Nothing is left out exactly when no loop with a true condition has an `else` block. -/
theorem omitted_eq_nil_iff :
    (body : List Stmt) → (omitted body = [] ↔ ∀ t ∈ Stmt.walkScope body, idleElse t = [])
  | [] => by simp [omitted, Stmt.walkScope]
  | s :: body => by
      simp only [omitted, Stmt.walkScope, List.append_eq_nil_iff, List.forall_mem_append,
        omittedOne_eq_nil_iff s, omitted_eq_nil_iff body]

theorem omittedHandlers_eq_nil_iff :
    (handlers : List Handler) →
      (omittedHandlers handlers = [] ↔ ∀ t ∈ Stmt.walkHandlers handlers, idleElse t = [])
  | [] => by simp [omittedHandlers, Stmt.walkHandlers]
  | .mk line name body :: handlers => by
      simp only [omittedHandlers, Stmt.walkHandlers, List.append_eq_nil_iff,
        List.forall_mem_append, omitted_eq_nil_iff body, omittedHandlers_eq_nil_iff handlers]

end

/-! ## What has a node -/

/-- The statements of slots, each as often as it has one. -/
def statementsOf (slots : List Slot) : Multiset Stmt := slots.map Slot.what

theorem statementsOf_nil : statementsOf [] = 0 := rfl

theorem statementsOf_cons (x : Slot) (slots : List Slot) :
    statementsOf (x :: slots) = x.what ::ₘ statementsOf slots := rfl

theorem statementsOf_append (a b : List Slot) :
    statementsOf (a ++ b) = statementsOf a + statementsOf b := by
  rw [statementsOf, List.map_append, ← Multiset.coe_add]
  rfl

theorem statementsOf_under (n : Nat) (part : Part) (slots : List Slot) :
    statementsOf (under n part slots) = statementsOf slots := by
  rw [statementsOf, under, List.map_map]
  rfl

mutual

theorem statementsOf_statementSlots (n next : Nat) :
    (s : Stmt) → statementsOf (statementSlots n next s) + omittedOne s = Stmt.walkOne s
  | .simple line what => rfl
  | .function line name params body => rfl
  | .classDef line name body => rfl
  | .branch line test body orelse => by
      have hbody := statementsOf_blockSlots 0 (next + 1) body
      have horelse := statementsOf_blockSlots 0 (next + 1 + blockSize body) orelse
      simp only [statementSlots, omittedOne, Stmt.walkOne, statementsOf_cons, statementsOf_append,
        statementsOf_under, ← Multiset.cons_coe, ← Multiset.coe_add, ← hbody, ← horelse,
        Multiset.cons_add]
      rw [add_add_add_comm]
  | .whileLoop line test body orelse => by
      have hbody := statementsOf_blockSlots 0 (next + 2) body
      have horelse := statementsOf_blockSlots 0 (next + 2 + blockSize body) orelse
      simp only [statementSlots, omittedOne, Stmt.walkOne, statementsOf_cons, statementsOf_append,
        statementsOf_under, ← Multiset.cons_coe, ← Multiset.coe_add, ← hbody, Multiset.cons_add]
      split
      · rw [statementsOf_nil, add_zero, add_assoc]
      · rw [← horelse, add_add_add_comm, statementsOf_under]
  | .forLoop line target iter body orelse => by
      have hbody := statementsOf_blockSlots 0 (next + 2) body
      have horelse := statementsOf_blockSlots 0 (next + 2 + blockSize body) orelse
      simp only [statementSlots, omittedOne, Stmt.walkOne, statementsOf_cons, statementsOf_append,
        statementsOf_under, ← Multiset.cons_coe, ← Multiset.coe_add, ← hbody, ← horelse,
        Multiset.cons_add]
      rw [add_add_add_comm]
  | .tryBlock line body handlers orelse finalBody => by
      have hbody := statementsOf_blockSlots 0 (next + 1) body
      have horelse := statementsOf_blockSlots 0 (next + 1 + blockSize body) orelse
      have hhandlers := statementsOf_handlerSlots n 0
        (next + 1 + blockSize body + blockSize orelse) handlers
      have hfinal := statementsOf_blockSlots 0
        (next + 1 + blockSize body + blockSize orelse + handlersSize handlers + 1) finalBody
      simp only [statementSlots, omittedOne, Stmt.walkOne, statementsOf_cons, statementsOf_append,
        statementsOf_under, ← Multiset.cons_coe, ← Multiset.coe_add, ← hbody, ← horelse,
        ← hhandlers, ← hfinal, Multiset.cons_add]
      -- the graph has the `else` block before the handlers
      congr 1
      abel
  | .withBlock line items targets body => by
      have hbody := statementsOf_blockSlots 0 (next + 1) body
      simp only [statementSlots, omittedOne, Stmt.walkOne, statementsOf_cons, statementsOf_under,
        ← Multiset.cons_coe, ← hbody, Multiset.cons_add]

/-- The nodes of a block and what is left out of it are the statements of its scope. -/
theorem statementsOf_blockSlots (n next : Nat) :
    (body : List Stmt) → statementsOf (blockSlots n next body) + omitted body = Stmt.walkScope body
  | [] => rfl
  | s :: body => by
      have hfirst := statementsOf_statementSlots n next s
      have hrest := statementsOf_blockSlots (n + 1) (next + statementSize s) body
      simp only [blockSlots, omitted, Stmt.walkScope, statementsOf_append, ← Multiset.coe_add,
        ← hfirst, ← hrest]
      rw [add_add_add_comm]

theorem statementsOf_handlerSlots (n k next : Nat) :
    (handlers : List Handler) → statementsOf (handlerSlots n k next handlers)
      + omittedHandlers handlers = Stmt.walkHandlers handlers
  | [] => rfl
  | .mk line name body :: handlers => by
      have hbody := statementsOf_blockSlots 0 next body
      have hrest := statementsOf_handlerSlots n (k + 1) (next + blockSize body) handlers
      simp only [handlerSlots, omittedHandlers, Stmt.walkHandlers, statementsOf_append,
        statementsOf_under, ← Multiset.coe_add, ← hbody, ← hrest]
      rw [add_add_add_comm]

end

theorem subperm_blockSlots (n next : Nat) (body : List Stmt) :
    List.Subperm ((blockSlots n next body).map Slot.what) (Stmt.walkScope body) := by
  rw [← Multiset.coe_le, ← statementsOf_blockSlots n next body]
  exact Multiset.le_add_right _ _

/-- The statement of a node is one of the scope. -/
theorem mem_walkScope_of_node {body : List Stmt} {v : Nat} {s : Stmt}
    (h : (Graph.ofBody body).nodes[v]? = some (.statement s)) : s ∈ Stmt.walkScope body := by
  obtain ⟨x, hx, -, rfl⟩ := nodes_ofBody_iff.mp h
  exact (subperm_blockSlots 0 2 body).subset (List.mem_map_of_mem hx)

/-! ## Lines -/

/-- The lines of the statement nodes of a graph, each as often as it occurs. -/
def Graph.lines (g : Graph) : Multiset Nat := g.nodes.filterMap Node.line?

/-- The lines of statements, each as often as it occurs. -/
def linesOfStatements (stmts : List Stmt) : Multiset Nat := stmts.map Stmt.line

theorem filterMap_line (next : Nat) (nodes : List Node) :
    nodes.filterMap Node.line? = (statementsFrom next nodes).map fun entry => entry.2.line := by
  induction nodes generalizing next with
  | nil => rfl
  | cons node nodes ih =>
      cases node with
      | statement s => exact congrArg (List.cons s.line) (ih (next + 1))
      | start => exact ih (next + 1)
      | finish => exact ih (next + 1)
      | join => exact ih (next + 1)
      | loopEnd => exact ih (next + 1)

theorem lines_eq (body : List Stmt) :
    (Graph.ofBody body).lines = (statementsOf (blockSlots 0 2 body)).map Stmt.line := by
  rw [Graph.lines, filterMap_line 0, statementsFrom_ofBody, List.map_map, statementsOf,
    Multiset.map_coe, List.map_map]
  rfl

/-- The statement nodes of a scope's graph have the lines of the statements of the scope, each as
often, but for those in an `else` block that a loop with a true condition never comes to; so they
are the same exactly if there is no such block. -/
theorem lines_add_omitted (body : List Stmt) :
    (Graph.ofBody body).lines + linesOfStatements (omitted body)
        = linesOfStatements (Stmt.walkScope body)
      ∧ ((Graph.ofBody body).lines = linesOfStatements (Stmt.walkScope body) ↔
        ∀ s ∈ Stmt.walkScope body, idleElse s = []) := by
  have hsum : (Graph.ofBody body).lines + linesOfStatements (omitted body)
      = linesOfStatements (Stmt.walkScope body) := by
    have hmap := congrArg (Multiset.map Stmt.line) (statementsOf_blockSlots 0 2 body)
    rwa [Multiset.map_add, ← lines_eq] at hmap
  refine ⟨hsum, ?_⟩
  rw [← omitted_eq_nil_iff, ← hsum, left_eq_add, linesOfStatements, Multiset.coe_eq_zero,
    List.map_eq_nil_iff]

/-- A loop without an end, and an `else` block that control never comes to. -/
def idleLoop : List Stmt :=
  [.whileLoop 1 (.const 1 (.bool true)) [.simple 2 (.expr (.call 2 (.name 2 "step") []))]
    [.simple 4 (.expr (.call 4 (.name 4 "done") []))]]

/-- A statement in such a block has no node and is not reported, though no execution reaches it. -/
theorem idle_else_omitted :
    (Graph.ofBody idleLoop).lines ≠ linesOfStatements (Stmt.walkScope idleLoop)
      ∧ linesOfStatements (Stmt.walkScope idleLoop) = {1, 2, 4}
      ∧ (Graph.ofBody idleLoop).lines = {1, 2}
      ∧ ¬ Reached idleLoop (.inside 0 .orelse (.here 0))
      ∧ (Graph.ofBody idleLoop).deadLines = [] := by
  refine ⟨by decide, rfl, rfl, fun hreached => ?_, by decide +kernel⟩
  obtain ⟨x, hx, hplace, -⟩ := hreached.exists_slot
  have hplaces : (blockSlots 0 2 idleLoop).map Slot.place = [.here 0, .inside 0 .body (.here 0)] :=
    rfl
  have hmem : x.place ∈ (blockSlots 0 2 idleLoop).map Slot.place := List.mem_map_of_mem hx
  rw [hplaces, hplace] at hmem
  exact absurd hmem (by decide)

end Remedy.Flow
