import Remedy.Proofs.Flow.Simulation

/-!
# The pieces of statements

What a statement makes of the graph, as an equation for each kind of statement in terms of the pieces
of its blocks, with the nodes where pieces are left and the nodes that jumps go to.
-/

namespace Remedy.Flow

open Python

variable {jumps : Targets} {preds : List Nat} {n next line : Nat}

/-! ## Where jumps go -/

/-- A jump goes to a node; to the end of the loop it goes only by `break`. -/
def Targets.JumpTo (jumps : Targets) (breaks : Prop) (v : Nat) : Prop :=
  v = jumps.finish ∨ (∃ leave, jumps.loop? = some (v, leave))
    ∨ ∃ head, jumps.loop? = some (head, v) ∧ breaks

theorem Targets.JumpTo.mono {breaks breaks' : Prop} {v : Nat} (h : jumps.JumpTo breaks v)
    (himp : breaks → breaks') : jumps.JumpTo breaks' v := by
  rcases h with h | h | ⟨head, hloop, hbreaks⟩
  · exact .inl h
  · exact .inr (.inl h)
  · exact .inr (.inr ⟨head, hloop, himp hbreaks⟩)

/-- The jumps in the body of a loop whose node is `next`. -/
theorem Targets.JumpTo.of_loop {breaks : Prop} {v : Nat}
    (h : Targets.JumpTo { jumps with loop? := some (next, next + 1) } breaks v) :
    v = jumps.finish ∨ v = next ∨ v = next + 1 ∧ breaks := by
  rcases h with h | ⟨leave, hloop⟩ | ⟨head, hloop, hbreaks⟩
  · exact .inl h
  · cases hloop
    exact .inr (.inl rfl)
  · cases hloop
    exact .inr (.inr ⟨rfl, hbreaks⟩)

/-- Outside loops there is only one place to jump to. -/
theorem Targets.JumpTo.of_scope {breaks : Prop} {v : Nat}
    (h : Targets.JumpTo ⟨Graph.finishId, none⟩ breaks v) : v = Graph.finishId := by
  rcases h with h | ⟨leave, hloop⟩ | ⟨head, hloop, -⟩
  · exact h
  · cases hloop
  · cases hloop

/-! ## Pieces of statements -/

theorem mem_edgesTo {sources : List Nat} {target u v : Nat} :
    (u, v) ∈ edgesTo sources target ↔ u ∈ sources ∧ v = target := by
  simp [edgesTo, eq_comm]

section Pieces

variable {test target iter : Expr} {body orelse finalBody : List Stmt} {handlers : List Handler}

/-- The `else` block of a loop, unless the loop never runs out. -/
def loopAfter (jumps : Targets) (next : Nat) (forever : Bool) (body orelse : List Stmt) : Piece :=
  if forever then ⟨[], [], []⟩ else loopElse jumps next body orelse

/-- The piece of a loop that stands for `s`. -/
def loopPiece (jumps : Targets) (next : Nat) (preds : List Nat) (s : Stmt) (forever : Bool)
    (body orelse : List Stmt) : Piece :=
  ⟨.statement s :: .loopEnd :: ((loopBody jumps next body).nodes
      ++ (loopAfter jumps next forever body orelse).nodes),
    edgesTo preds next ++ ((loopBody jumps next body).edges
      ++ edgesTo (loopBody jumps next body).outs next
      ++ ((loopAfter jumps next forever body orelse).edges
        ++ edgesTo (loopAfter jumps next forever body orelse).outs (next + 1))),
    [next + 1]⟩

/-- A simple statement falls through or jumps. -/
theorem statement_simple (jumps : Targets) (next : Nat) (preds : List Nat) (line : Nat)
    (what : Simple) :
    Piece.statement jumps next preds (.simple line what)
          = .through next preds (.simple line what) ∧ endingOf what = .normal
      ∨ ∃ target?, Piece.statement jumps next preds (.simple line what)
          = .jump next preds (.simple line what) target?
        ∧ ∀ v, target? = some v → jumps.JumpTo (endingOf what = .broke) v := by
  cases what with
  | ret value => exact .inr ⟨_, rfl, fun v h => .inl (Option.some.inj h).symm⟩
  | raise value => exact .inr ⟨_, rfl, fun v h => .inl (Option.some.inj h).symm⟩
  | breakLoop =>
      refine .inr ⟨_, rfl, fun v h => .inr (.inr ?_)⟩
      obtain ⟨⟨head, leave⟩, hloop, rfl⟩ := Option.map_eq_some_iff.mp h
      exact ⟨head, hloop, rfl⟩
  | continueLoop =>
      refine .inr ⟨_, rfl, fun v h => .inr (.inl ?_)⟩
      obtain ⟨⟨head, leave⟩, hloop, rfl⟩ := Option.map_eq_some_iff.mp h
      exact ⟨leave, hloop⟩
  | expr | assign | update | pass | imports | outer | other => exact .inl ⟨rfl, rfl⟩

theorem statement_branch :
    Piece.statement jumps next preds (.branch line test body orelse) =
      ⟨.statement (.branch line test body orelse) ::
          ((branchBody jumps next test body).nodes
            ++ (branchElse jumps next test body orelse).nodes ++ [.join]),
        edgesTo preds next ++ ((branchBody jumps next test body).edges
          ++ (branchElse jumps next test body orelse).edges
          ++ edgesTo ((branchBody jumps next test body).outs
              ++ (branchElse jumps next test body orelse).outs)
            (next + 1 + blockSize body + blockSize orelse)),
        [next + 1 + blockSize body + blockSize orelse]⟩ := by
  unfold Piece.statement branchBody branchElse
  simp only [length_block, List.cons_append, List.append_assoc]

theorem statement_whileLoop :
    Piece.statement jumps next preds (.whileLoop line test body orelse) =
      loopPiece jumps next preds (.whileLoop line test body orelse)
        (test.literal?.any Literal.truthy) body orelse := by
  unfold Piece.statement loopPiece loopAfter loopBody loopElse
  cases test.literal?.any Literal.truthy <;>
    simp [length_block, edgesTo, List.append_assoc]

theorem statement_forLoop :
    Piece.statement jumps next preds (.forLoop line target iter body orelse) =
      loopPiece jumps next preds (.forLoop line target iter body orelse) false body orelse := by
  unfold Piece.statement loopPiece loopAfter loopBody loopElse
  simp [length_block, List.append_assoc]

/-- The nodes where the parts of a `try` statement before its `finally` are left. -/
def TryPieces.opens (p : TryPieces) : List Nat := p.normal.outs ++ p.handled.outs

theorem statement_tryBlock :
    Piece.statement jumps next preds (.tryBlock line body handlers orelse finalBody) =
      let p := tryPieces jumps next body handlers orelse finalBody
      ⟨.statement (.tryBlock line body handlers orelse finalBody) ::
          (p.tried.nodes ++ p.normal.nodes ++ p.handled.nodes ++ [.join] ++ p.last.nodes),
        edgesTo preds next ++ (p.tried.edges ++ p.normal.edges ++ p.handled.edges
          ++ edgesTo p.opens p.join ++ p.last.edges
          ++ edgesTo (if finalBody.isEmpty || !p.opens.isEmpty then [] else p.last.outs)
            jumps.finish),
        if finalBody.isEmpty then [p.join] else if p.opens.isEmpty then [] else p.last.outs⟩ := by
  unfold Piece.statement tryPieces TryPieces.opens
  cases finalBody with
  | nil => simp [Piece.block, edgesTo]
  | cons s rest =>
      rw [List.isEmpty_cons, if_neg Bool.false_ne_true]
      dsimp only
      split <;> rename_i h <;> simp [h, edgesTo]

theorem join_tryPieces (jumps : Targets) (next : Nat) (body : List Stmt)
    (handlers : List Handler) (orelse finalBody : List Stmt) :
    (tryPieces jumps next body handlers orelse finalBody).join
      = next + 1 + blockSize body + blockSize orelse + handlersSize handlers := by
  simp only [tryPieces, length_block, length_handlers]

theorem statement_withBlock {items targets : List Expr} :
    Piece.statement jumps next preds (.withBlock line items targets body) =
      ⟨.statement (.withBlock line items targets body) ::
          (Piece.block jumps (next + 1) [next] body).nodes,
        edgesTo preds next ++ (Piece.block jumps (next + 1) [next] body).edges,
        (Piece.block jumps (next + 1) [next] body).outs⟩ := by
  unfold Piece.statement
  rfl

end Pieces

/-! ## Where pieces are left -/

mutual

theorem mem_outs_statement {jumps : Targets} {next : Nat} {preds : List Nat} {v : Nat} :
    (s : Stmt) → v ∈ (Piece.statement jumps next preds s).outs →
      next ≤ v ∧ v < next + statementSize s
  | .simple line what, h => by
      rcases statement_simple jumps next preds line what with
        ⟨hpiece, -⟩ | ⟨target?, hpiece, -⟩
      · rw [hpiece] at h
        obtain rfl := List.mem_singleton.mp h
        exact ⟨Nat.le_refl _, Nat.lt_succ_self _⟩
      · rw [hpiece] at h
        cases h
  | .function line name params body, h => by
      obtain rfl := List.mem_singleton.mp h
      exact ⟨Nat.le_refl _, Nat.lt_succ_self _⟩
  | .classDef line name body, h => by
      obtain rfl := List.mem_singleton.mp h
      exact ⟨Nat.le_refl _, Nat.lt_succ_self _⟩
  | .branch line test body orelse, h => by
      rw [statement_branch] at h
      obtain rfl := List.mem_singleton.mp h
      unfold statementSize
      omega
  | .whileLoop line test body orelse, h => by
      rw [statement_whileLoop] at h
      obtain rfl := List.mem_singleton.mp h
      unfold statementSize
      omega
  | .forLoop line target iter body orelse, h => by
      rw [statement_forLoop] at h
      obtain rfl := List.mem_singleton.mp h
      unfold statementSize
      omega
  | .tryBlock line body handlers orelse finalBody, h => by
      rw [statement_tryBlock] at h
      dsimp only at h
      rw [join_tryPieces, tryLast_eq, join_tryPieces] at h
      unfold statementSize
      split at h
      · obtain rfl := List.mem_singleton.mp h
        omega
      split at h
      · cases h
      · rcases mem_outs_block finalBody h with h | h
        · simp only [List.mem_cons, List.not_mem_nil, or_false] at h
          omega
        · omega
  | .withBlock line items targets body, h => by
      rw [statement_withBlock] at h
      unfold statementSize
      rcases mem_outs_block body h with h | h
      · obtain rfl := List.mem_singleton.mp h
        omega
      · omega

theorem mem_outs_block {jumps : Targets} {next : Nat} {preds : List Nat} {v : Nat} :
    (body : List Stmt) → v ∈ (Piece.block jumps next preds body).outs →
      v ∈ preds ∨ next ≤ v ∧ v < next + blockSize body
  | [], h => .inl h
  | s :: body, h => by
      unfold Piece.block at h
      dsimp only at h
      rw [length_statement] at h
      unfold blockSize
      rcases mem_outs_block body h with h | h
      · have := mem_outs_statement s h
        omega
      · omega

end

/-- The node before a block of a branch, if the block can be chosen. -/
theorem mem_arm {p : Prop} [Decidable p] {v : Nat} (h : v ∈ if p then [] else [next]) :
    v = next := by
  split at h
  · cases h
  · exact List.mem_singleton.mp h

theorem mem_outs_branch {test : Expr} {body orelse : List Stmt} {v : Nat}
    (h : v ∈ (branchBody jumps next test body).outs ++ (branchElse jumps next test body orelse).outs) :
    next ≤ v ∧ v < next + 1 + blockSize body + blockSize orelse := by
  rcases List.mem_append.mp h with h | h
  · rcases mem_outs_block body h with h | h
    · rw [mem_arm h]
      omega
    · omega
  · rcases mem_outs_block orelse h with h | h
    · rw [mem_arm h]
      omega
    · omega

theorem mem_outs_handlers {source v : Nat} {handlers : List Handler}
    (h : v ∈ (Piece.handlerPieces jumps next source handlers).outs) :
    v = source ∨ next ≤ v ∧ v < next + handlersSize handlers := by
  induction handlers generalizing next with
  | nil => cases h
  | cons handler handlers ih =>
      obtain ⟨line, name, body⟩ := handler
      unfold Piece.handlerPieces at h
      dsimp only at h
      rw [length_block] at h
      unfold handlersSize
      rcases List.mem_append.mp h with h | h
      · rcases mem_outs_block body h with h | h
        · exact .inl (List.mem_singleton.mp h)
        · omega
      · rcases ih h with h | h
        · exact .inl h
        · omega

section Try

variable {body orelse finalBody : List Stmt} {handlers : List Handler}

theorem mem_opens {v : Nat}
    (h : v ∈ (tryPieces jumps next body handlers orelse finalBody).opens) :
    next ≤ v ∧ v < (tryPieces jumps next body handlers orelse finalBody).join := by
  rw [join_tryPieces]
  unfold TryPieces.opens at h
  rw [triedNormal_eq, triedHandled_eq] at h
  rcases List.mem_append.mp h with h | h
  · rcases mem_outs_block orelse h with h | h
    · rcases mem_outs_block body h with h | h
      · obtain rfl := List.mem_singleton.mp h
        omega
      · omega
    · omega
  · rcases mem_outs_handlers h with h | h
    · omega
    · omega

theorem mem_outs_tried {v : Nat}
    (h : v ∈ (tryPieces jumps next body handlers orelse finalBody).tried.outs) :
    v ∈ [next] ∨ next + 1 ≤ v ∧ v < next + 1 + blockSize body :=
  mem_outs_block body h

theorem mem_outs_last {v : Nat}
    (h : v ∈ (tryPieces jumps next body handlers orelse finalBody).last.outs) :
    next ≤ v ∧ v < (tryPieces jumps next body handlers orelse finalBody).join + 1
      + blockSize finalBody := by
  rw [tryLast_eq] at h
  rw [join_tryPieces] at h ⊢
  rcases mem_outs_block finalBody h with h | h
  · simp only [List.mem_cons, List.not_mem_nil, or_false] at h
    omega
  · omega

end Try

end Remedy.Flow
