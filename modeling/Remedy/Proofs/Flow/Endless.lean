import Remedy.Proofs.Flow.Census
import Remedy.Proofs.Flow.Heads
import Remedy.Proofs.Flow.Located
import Remedy.Python.Check

/-!
# Loops that cannot end are not left in the graph

The check of `while` loops and the graph look for the ways out of a loop independently. The one goes
through the loop's body for a `break` that is in no inner loop (`Stmt.anyEscapes`), the other has
each `break` lead to the end of the loop that it is in. An edge to the end of the loop around a
statement is there only if the statement can escape (`target_statement`), so that the end of a loop
that is found endless has no predecessor, and nothing behind the loop is reached
(`endlessLoop_not_left`).
-/

namespace Remedy.Flow

open Python

variable {g : Graph} {jumps : Targets} {preds : List Nat} {next line u v : Nat} {body : List Stmt}

/-! ## Where edges lead -/

/-- A node is among those from `next` on, or it is one that jumps go to. -/
def Targets.LeadTo (jumps : Targets) (next : Nat) (breaks : Prop) (v : Nat) : Prop :=
  next ≤ v ∨ jumps.JumpTo breaks v

theorem Targets.LeadTo.mono {mid : Nat} {breaks breaks' : Prop} (h : jumps.LeadTo mid breaks v)
    (hle : next ≤ mid) (himp : breaks → breaks') : jumps.LeadTo next breaks' v :=
  h.imp (Nat.le_trans hle) fun hjump => hjump.mono himp

theorem leadTo_of_edgesTo {sources : List Nat} {target : Nat} {breaks : Prop}
    (he : (u, v) ∈ edgesTo sources target) (hle : next ≤ target) : jumps.LeadTo next breaks v :=
  .inl ((mem_edgesTo.mp he).2 ▸ hle)

/-- Where the edges of a loop lead, given those of its blocks. A `break` in its body stays in it. -/
theorem target_loop {s : Stmt} {forever : Bool} {block orelse : List Stmt} {breaks breaks' : Prop}
    (hbody : ∀ u v, (u, v) ∈ (loopBody jumps next block).edges →
      Targets.LeadTo { jumps with loop? := some (next, next + 1) } (next + 2) breaks v)
    (horelse : ∀ u v, (u, v) ∈ (loopElse jumps next block orelse).edges →
      jumps.LeadTo (next + 2 + blockSize block) breaks' v)
    (he : (u, v) ∈ (loopPiece jumps next preds s forever block orelse).edges) :
    jumps.LeadTo next breaks' v := by
  unfold loopPiece at he
  simp only [List.mem_append] at he
  rcases he with he | (he | he) | he | he
  · exact leadTo_of_edgesTo he (Nat.le_refl _)
  · rcases hbody u v he with hv | hv
    · exact .inl (Nat.le_of_add_right_le hv)
    · -- its jumps stay at the loop, and so it does not matter if the body can escape
      rcases hv.of_loop with rfl | rfl | ⟨rfl, -⟩
      · exact .inr (.inl rfl)
      · exact .inl (Nat.le_refl _)
      · exact .inl (Nat.le_succ _)
  · exact leadTo_of_edgesTo he (Nat.le_refl _)
  · unfold loopAfter at he
    split at he
    · cases he
    · exact (horelse u v he).mono (by omega) id
  · exact leadTo_of_edgesTo he (Nat.le_succ _)

mutual

/-- The edges of a statement lead to the end of the loop around it only if it can escape. -/
theorem target_statement {jumps : Targets} {next u v : Nat} {preds : List Nat} :
    (s : Stmt) → (u, v) ∈ (Piece.statement jumps next preds s).edges →
      jumps.LeadTo next (s.escapes = true) v
  | .simple line what, he => by
      rcases statement_simple jumps next preds line what with
        ⟨hpiece, -⟩ | ⟨target?, hpiece, htarget⟩
      · rw [hpiece] at he
        exact leadTo_of_edgesTo he (Nat.le_refl _)
      · rw [hpiece] at he
        rcases List.mem_append.mp he with he | he
        · exact leadTo_of_edgesTo he (Nat.le_refl _)
        · obtain ⟨target, htarget?, heq⟩ := Option.map_eq_some_iff.mp (Option.mem_toList.mp he)
          cases heq
          refine .inr ((htarget v htarget?).mono fun hbroke => ?_)
          cases what with
          | breakLoop => rfl
          | expr | assign | update | ret | raise | continueLoop | pass | imports | outer | other =>
              cases hbroke
  | .function line name params body, he => leadTo_of_edgesTo he (Nat.le_refl _)
  | .classDef line name body, he => leadTo_of_edgesTo he (Nat.le_refl _)
  | .branch line test body orelse, he => by
      rw [statement_branch] at he
      simp only [List.mem_append] at he
      rcases he with he | (he | he) | he
      · exact leadTo_of_edgesTo he (Nat.le_refl _)
      · exact (target_block body he).mono (by omega) fun h => by simp [Stmt.escapes, h]
      · exact (target_block orelse he).mono (by omega) fun h => by simp [Stmt.escapes, h]
      · exact leadTo_of_edgesTo he (by omega)
  | .whileLoop line test body orelse, he => by
      rw [statement_whileLoop] at he
      have h := target_loop (fun u v => target_block body) (fun u v => target_block orelse) he
      exact h.mono (Nat.le_refl _) fun h => by simp [Stmt.escapes, h]
  | .forLoop line target iter body orelse, he => by
      rw [statement_forLoop] at he
      have h := target_loop (fun u v => target_block body) (fun u v => target_block orelse) he
      exact h.mono (Nat.le_refl _) fun h => by simp [Stmt.escapes, h]
  | .tryBlock line body handlers orelse finalBody, he => by
      have hjoin := join_tryPieces jumps next body handlers orelse finalBody
      rw [statement_tryBlock] at he
      simp only [List.mem_append] at he
      rcases he with he | ((((he | he) | he) | he) | he) | he
      · exact leadTo_of_edgesTo he (Nat.le_refl _)
      · exact (target_block body he).mono (by omega) fun h => by simp [Stmt.escapes, h]
      · rw [triedNormal_eq] at he
        exact (target_block orelse he).mono (by omega) fun h => by simp [Stmt.escapes, h]
      · rw [triedHandled_eq] at he
        exact (target_handlers handlers he).mono (by omega) fun h => by simp [Stmt.escapes, h]
      · exact leadTo_of_edgesTo he (by omega)
      · rw [tryLast_eq] at he
        exact (target_block finalBody he).mono (by omega) fun h => by simp [Stmt.escapes, h]
      · exact .inr (.inl (mem_edgesTo.mp he).2)
  | .withBlock line items targets body, he => by
      rw [statement_withBlock] at he
      rcases List.mem_append.mp he with he | he
      · exact leadTo_of_edgesTo he (Nat.le_refl _)
      · exact (target_block body he).mono (Nat.le_succ _) fun h => by simp [Stmt.escapes, h]

theorem target_block {jumps : Targets} {next u v : Nat} {preds : List Nat} :
    (body : List Stmt) → (u, v) ∈ (Piece.block jumps next preds body).edges →
      jumps.LeadTo next (Stmt.anyEscapes body = true) v
  | [], he => nomatch he
  | s :: body, he => by
      unfold Piece.block at he
      rcases List.mem_append.mp he with he | he
      · exact (target_statement s he).mono (Nat.le_refl _) fun h => by simp [Stmt.anyEscapes, h]
      · exact (target_block body he).mono (Nat.le_add_right ..) fun h => by
          simp [Stmt.anyEscapes, h]

theorem target_handlers {jumps : Targets} {next source u v : Nat} :
    (handlers : List Handler) →
      (u, v) ∈ (Piece.handlerPieces jumps next source handlers).edges →
      jumps.LeadTo next (Stmt.anyHandlerEscapes handlers = true) v
  | [], he => nomatch he
  | .mk line name body :: handlers, he => by
      unfold Piece.handlerPieces at he
      rcases List.mem_append.mp he with he | he
      · exact (target_block body he).mono (Nat.le_refl _) fun h => by
          simp [Stmt.anyHandlerEscapes, h]
      · exact (target_handlers handlers he).mono (Nat.le_add_right ..) fun h => by
          simp [Stmt.anyHandlerEscapes, h]

end

/-! ## Behind a loop that cannot end -/

/-- Nodes that are entered only from each other are not reached, the start being none of them. -/
theorem not_alive_of_closed {edges : List (Nat × Nat)} {p : Nat → Prop} (hstart : ¬ p Graph.startId)
    (hclosed : ∀ u v, (u, v) ∈ edges → p v → p u) (hv : p v) : ¬ Alive edges v := by
  intro halive
  induction halive with
  | refl => exact hstart hv
  | tail _ hstep ih => exact ih (hclosed _ _ hstep hv)

section Endless

variable {test : Expr} {block orelse rest : List Stmt}

/-- No edge leads to the end of a loop that runs for ever if its body cannot escape. -/
theorem PlacedOne.no_edge_to_end
    (h : PlacedOne g jumps next preds (.whileLoop line test block orelse))
    (htest : test.literal?.any Literal.truthy = true) (hblock : Stmt.anyEscapes block = false) :
    (u, next + 1) ∉ g.edges := by
  intro he
  have hsize := statementSize_pos (.whileLoop line test block orelse)
  have he := h.embeds.target u (next + 1) he (Nat.le_succ _)
    (by unfold statementSize; omega)
  rw [statement_whileLoop, htest] at he
  unfold loopPiece loopAfter at he
  simp only [List.mem_append, mem_edgesTo, if_true, List.not_mem_nil, false_and, or_false] at he
  -- edges into the loop and back to its node do not go to its end; it has no `else` block
  rcases he with ⟨-, he⟩ | he | ⟨-, he⟩
  · omega
  · rcases target_block block he with hle | hjump
    · omega
    · rcases hjump.of_loop with hfinish | hnext | ⟨-, hescapes⟩
      · have := h.exits _ (.inl hfinish)
        omega
      · omega
      · rw [hblock] at hescapes
        cases hescapes
  · omega

/-- Neither the end of a loop that runs for ever is reached nor what comes after the loop, if its
body cannot escape. -/
theorem Placed.not_alive_after
    (h : Placed g jumps next preds (.whileLoop line test block orelse :: rest))
    (htest : test.literal?.any Literal.truthy = true) (hblock : Stmt.anyEscapes block = false)
    (hle : next + statementSize (.whileLoop line test block orelse) ≤ v)
    (hlt : v < next + statementSize (.whileLoop line test block orelse) + blockSize rest) :
    ¬ Alive g.edges v := by
  have hsize := statementSize_pos (.whileLoop line test block orelse)
  have hrest := h.rest
  have hregion := region_block hrest.exits hrest.before rest
  rw [statement_whileLoop] at hrest hregion
  refine not_alive_of_closed (p := fun v => v = next + 1 ∨
    next + statementSize (.whileLoop line test block orelse) ≤ v
      ∧ v < next + statementSize (.whileLoop line test block orelse) + blockSize rest)
    ?_ (fun u w he hw => ?_) (.inr ⟨hle, hlt⟩)
  · rw [Graph.startId]
    omega
  · rcases hw with rfl | ⟨hle, hlt⟩
    · exact absurd he (h.first.no_edge_to_end htest hblock)
    · exact (hregion.source u w (hrest.embeds.target u w he hle hlt)).imp_left List.mem_singleton.mp

theorem exists_endless_finding {lineText : Nat → List Char} {owner : Owner}
    (hmem : .whileLoop line test block orelse ∈ Stmt.walkScope body)
    (htest : test.literal?.any Literal.truthy = true) (hblock : Stmt.anyEscapes block = false) :
    ∃ finding ∈ Scope.findings lineText ⟨owner, body⟩, finding.category = .infiniteLoop
      ∧ finding.line = some line ∧ finding.confidence = .ofPercent 95 := by
  obtain ⟨finding, hfound, hfinding⟩ : ∃ finding, Check.endlessLoop line test block = [finding]
      ∧ finding.category = .infiniteLoop ∧ finding.line = some line
      ∧ finding.confidence = .ofPercent 95 := by
    rw [Check.endlessLoop, if_neg (by rw [hblock]; exact Bool.false_ne_true), if_pos htest]
    exact ⟨_, rfl, rfl, rfl, rfl⟩
  refine ⟨finding, ?_, hfinding⟩
  unfold Scope.findings
  refine List.mem_append_right _ (List.mem_flatMap.mpr ⟨_, hmem, ?_⟩)
  unfold Check.statement
  simp only [hfound, List.mem_append, List.mem_singleton, true_or]

/-- A `while` loop on a true literal whose body cannot escape is found endless, and the graph
agrees: the end of the loop has no predecessor, and no statement after the loop in its block is
reached. -/
theorem endlessLoop_not_left (lineText : Nat → List Char) (owner : Owner) (body : List Stmt)
    (place : Place) (line : Nat) (test : Expr) (block orelse : List Stmt) (head : Nat)
    (hfind : place.find? body = some (.whileLoop line test block orelse))
    (hhead : nodeOf? body place = some head)
    (htest : test.literal?.any Literal.truthy = true) (hblock : Stmt.anyEscapes block = false) :
    (∃ finding ∈ Scope.findings lineText ⟨owner, body⟩, finding.category = .infiniteLoop
        ∧ finding.line = some line ∧ finding.confidence = .ofPercent 95)
      ∧ (Graph.ofBody body).nodes[head + 1]? = some .loopEnd
      ∧ (∀ u, head + 1 ∉ (Graph.ofBody body).successors u)
      ∧ ∀ later v, place.Before later → nodeOf? body later = some v →
        v ∉ (Graph.ofBody body).reachable := by
  obtain ⟨x, hx, rfl, rfl⟩ := nodeOf?_eq_some.mp hhead
  obtain ⟨inner, entry, rest, hlocated⟩ := (placed_ofBody body).locate hx
  have hwhat : x.what = .whileLoop line test block orelse :=
    Option.some.inj ((find_scopeSlots body x hx).symm.trans hfind)
  have hplaced := hlocated.placed
  have hlater := hlocated.later
  rw [hwhat] at hplaced hlater
  refine ⟨?_, hplaced.first.loopEnd rfl, fun u hu => ?_, fun later v hbefore hv => ?_⟩
  · have hmem := mem_walkScope_of_node (nodes_ofBody_iff.mpr ⟨x, hx, rfl, hwhat⟩)
    exact exists_endless_finding hmem htest hblock
  · exact hplaced.first.no_edge_to_end htest hblock (Graph.mem_successors.mp hu)
  · obtain ⟨y, hy, rfl, rfl⟩ := nodeOf?_eq_some.mp hv
    obtain ⟨hle, hlt⟩ := hlater y hy hbefore
    rw [Graph.mem_reachable_iff]
    exact hplaced.not_alive_after htest hblock hle hlt

/-- A loop with a `break` of an inner loop only, and a statement after it. -/
theorem endlessLoop_not_left_inner_break :
    let inner : Stmt := .forLoop 2 (.name 2 "x") (.name 2 "items") [.simple 3 .breakLoop]
      [.simple 5 .pass]
    let body : List Stmt := [.whileLoop 1 (.const 1 (.bool true)) [inner] [], .simple 6 .pass]
    (Place.here 0).find? body = some (.whileLoop 1 (.const 1 (.bool true)) [inner] [])
      ∧ nodeOf? body (.here 0) = some 2 ∧ Stmt.anyEscapes [inner] = false
      ∧ (∃ finding ∈ Scope.findings (fun _ => []) ⟨.program, body⟩,
        finding.category = .infiniteLoop ∧ finding.line = some 1
          ∧ finding.confidence = .ofPercent 95)
      ∧ (∀ u, 3 ∉ (Graph.ofBody body).successors u)
      ∧ nodeOf? body (.here 1) = some 8 ∧ 8 ∉ (Graph.ofBody body).reachable := by
  intro inner body
  have hhead : nodeOf? body (.here 0) = some 2 := by decide
  have hafter : nodeOf? body (.here 1) = some 8 := by decide
  have hblock : Stmt.anyEscapes [inner] = false := by decide
  obtain ⟨hfinding, -, hnone, hdead⟩ := endlessLoop_not_left (fun _ => []) .program body (.here 0) 1
    (.const 1 (.bool true)) [inner] [] 2 rfl hhead rfl hblock
  exact ⟨rfl, hhead, hblock, hfinding, hnone, hafter,
    hdead (.here 1) 8 Nat.zero_lt_one hafter⟩

end Endless

end Remedy.Flow
