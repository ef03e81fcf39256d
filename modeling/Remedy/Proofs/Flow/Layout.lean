import Mathlib.Data.List.Nodup
import Remedy.Flow.Graph
import Remedy.Proofs.Flow.Execution

/-!
# The nodes of the statements of a scope

Every statement that the graph of a scope has a node for, with its place and the number of its node
(`Slot`). The slots of a block follow the recursion that makes its piece, so that the statement
nodes of the piece are those of its slots, in the same order (`statementsFrom_block`). Different
slots have different places and different numbers.
-/

namespace Remedy.Flow

open Python

/-! ## Sizes -/

mutual

def statementSize : Stmt → Nat
  | .simple _ _ | .function _ _ _ _ | .classDef _ _ _ => 1
  | .branch _ _ body orelse => 1 + blockSize body + blockSize orelse + 1
  | .whileLoop _ test body orelse =>
    2 + blockSize body + if test.literal?.any Literal.truthy then 0 else blockSize orelse
  | .forLoop _ _ _ body orelse => 2 + blockSize body + blockSize orelse
  | .tryBlock _ body handlers orelse finalBody =>
    1 + blockSize body + blockSize orelse + handlersSize handlers + 1 + blockSize finalBody
  | .withBlock _ _ _ body => 1 + blockSize body

def blockSize : List Stmt → Nat
  | [] => 0
  | s :: body => statementSize s + blockSize body

def handlersSize : List Handler → Nat
  | [] => 0
  | .mk _ _ body :: handlers => blockSize body + handlersSize handlers

end

/-- The pieces that a `try` statement is made of. -/
structure TryPieces where
  tried : Piece
  normal : Piece
  handled : Piece
  join : Nat
  last : Piece

/-- The pieces of a `try` statement whose node is `next`. -/
def tryPieces (jumps : Targets) (next : Nat) (body : List Stmt) (handlers : List Handler)
    (orelse finalBody : List Stmt) : TryPieces :=
  let tried := Piece.block jumps (next + 1) [next] body
  let normal := Piece.block jumps (next + 1 + tried.nodes.length) tried.outs orelse
  let handled :=
    Piece.handlerPieces jumps (next + 1 + tried.nodes.length + normal.nodes.length) next handlers
  let join := next + 1 + tried.nodes.length + normal.nodes.length + handled.nodes.length
  ⟨tried, normal, handled, join, Piece.block jumps (join + 1) [join, next] finalBody⟩

/-- The nodes of a `try` statement do not depend on how its `finally` is left. -/
theorem nodes_tryBlock (jumps : Targets) (next : Nat) (preds : List Nat) (line : Nat)
    (body : List Stmt) (handlers : List Handler) (orelse finalBody : List Stmt) :
    (Piece.statement jumps next preds (.tryBlock line body handlers orelse finalBody)).nodes =
      .statement (.tryBlock line body handlers orelse finalBody) ::
        ((tryPieces jumps next body handlers orelse finalBody).tried.nodes
          ++ (tryPieces jumps next body handlers orelse finalBody).normal.nodes
          ++ (tryPieces jumps next body handlers orelse finalBody).handled.nodes
          ++ .join :: (tryPieces jumps next body handlers orelse finalBody).last.nodes) := by
  unfold Piece.statement tryPieces
  cases finalBody with
  | nil => simp [Piece.block]
  | cons s rest =>
      rw [List.isEmpty_cons, if_neg Bool.false_ne_true]
      dsimp only
      split <;> simp

mutual

theorem length_statement (jumps : Targets) (next : Nat) (preds : List Nat) :
    (s : Stmt) → (Piece.statement jumps next preds s).nodes.length = statementSize s
  | .simple line what => by
      unfold Piece.statement
      split <;> rfl
  | .function line name params body => rfl
  | .classDef line name body => rfl
  | .branch line test body orelse => by
      unfold Piece.statement
      simp [length_block, statementSize]
      omega
  | .whileLoop line test body orelse => by
      unfold Piece.statement
      dsimp only
      split <;> rename_i h <;> simp [length_block, statementSize, h] <;> omega
  | .forLoop line target iter body orelse => by
      unfold Piece.statement
      simp [length_block, statementSize]
      omega
  | .tryBlock line body handlers orelse finalBody => by
      rw [nodes_tryBlock]
      simp [tryPieces, length_block, length_handlers, statementSize]
      omega
  | .withBlock line items targets body => by
      unfold Piece.statement
      simp [length_block, statementSize]
      omega

theorem length_block (jumps : Targets) (next : Nat) (preds : List Nat) :
    (body : List Stmt) → (Piece.block jumps next preds body).nodes.length = blockSize body
  | [] => rfl
  | s :: body => by
      unfold Piece.block
      simp [length_statement, length_block, blockSize]

theorem length_handlers (jumps : Targets) (next source : Nat) :
    (handlers : List Handler) →
      (Piece.handlerPieces jumps next source handlers).nodes.length = handlersSize handlers
  | [] => rfl
  | .mk line name body :: handlers => by
      unfold Piece.handlerPieces
      simp [length_block, length_handlers, handlersSize]

end

/-! ## Slots -/

/-- A statement with its place and the number of its node. -/
structure Slot where
  place : Place
  node : Nat
  what : Stmt

/-- The slots of a block, as slots of the block around it. -/
def under (n : Nat) (part : Part) (slots : List Slot) : List Slot :=
  slots.map fun x => { x with place := .inside n part x.place }

mutual

/-- The slots of a statement with some number in its block, its own node being `next`. -/
def statementSlots (n next : Nat) : Stmt → List Slot
  | .simple line what => [⟨.here n, next, .simple line what⟩]
  | .function line name params body => [⟨.here n, next, .function line name params body⟩]
  | .classDef line name body => [⟨.here n, next, .classDef line name body⟩]
  | .branch line test body orelse =>
    ⟨.here n, next, .branch line test body orelse⟩ ::
      (under n .body (blockSlots 0 (next + 1) body)
        ++ under n .orelse (blockSlots 0 (next + 1 + blockSize body) orelse))
  | .whileLoop line test body orelse =>
    ⟨.here n, next, .whileLoop line test body orelse⟩ ::
      (under n .body (blockSlots 0 (next + 2) body)
        ++ if test.literal?.any Literal.truthy then []
          else under n .orelse (blockSlots 0 (next + 2 + blockSize body) orelse))
  | .forLoop line target iter body orelse =>
    ⟨.here n, next, .forLoop line target iter body orelse⟩ ::
      (under n .body (blockSlots 0 (next + 2) body)
        ++ under n .orelse (blockSlots 0 (next + 2 + blockSize body) orelse))
  | .tryBlock line body handlers orelse finalBody =>
    let join := next + 1 + blockSize body + blockSize orelse + handlersSize handlers
    ⟨.here n, next, .tryBlock line body handlers orelse finalBody⟩ ::
      (under n .body (blockSlots 0 (next + 1) body)
        ++ under n .orelse (blockSlots 0 (next + 1 + blockSize body) orelse)
        ++ handlerSlots n 0 (next + 1 + blockSize body + blockSize orelse) handlers
        ++ under n .final (blockSlots 0 (join + 1) finalBody))
  | .withBlock line items targets body =>
    ⟨.here n, next, .withBlock line items targets body⟩ ::
      under n .body (blockSlots 0 (next + 1) body)

/-- The slots of the statements of a block from number `n` on, their first node being `next`. -/
def blockSlots (n next : Nat) : List Stmt → List Slot
  | [] => []
  | s :: body => statementSlots n next s ++ blockSlots (n + 1) (next + statementSize s) body

/-- The slots of the handlers of a statement from number `k` on. -/
def handlerSlots (n k next : Nat) : List Handler → List Slot
  | [] => []
  | .mk _ _ body :: handlers =>
    under n (.handler k) (blockSlots 0 next body)
      ++ handlerSlots n (k + 1) (next + blockSize body) handlers

end

/-! ## Statement nodes -/

/-- The statements among nodes that are numbered from `next`, with their numbers. -/
def statementsFrom (next : Nat) : List Node → List (Nat × Stmt)
  | [] => []
  | .statement s :: nodes => (next, s) :: statementsFrom (next + 1) nodes
  | .start :: nodes | .finish :: nodes | .join :: nodes | .loopEnd :: nodes =>
    statementsFrom (next + 1) nodes

theorem statementsFrom_append (next : Nat) (a b : List Node) :
    statementsFrom next (a ++ b) = statementsFrom next a ++ statementsFrom (next + a.length) b := by
  induction a generalizing next with
  | nil => rfl
  | cons node a ih =>
      have hnext : next + (a.length + 1) = next + 1 + a.length := by omega
      cases node <;> simp [statementsFrom, ih, hnext]

theorem exists_index_cons {α : Type} {next v : Nat} {a b : α} {as : List α} :
    (∃ i, v = next + i ∧ (a :: as)[i]? = some b) ↔
      (v = next ∧ a = b) ∨ ∃ i, v = next + 1 + i ∧ as[i]? = some b := by
  constructor
  · rintro ⟨i, rfl, hi⟩
    cases i with
    | zero => exact .inl ⟨rfl, Option.some.inj hi⟩
    | succ i => exact .inr ⟨i, by omega, hi⟩
  · rintro (⟨rfl, rfl⟩ | ⟨i, rfl, hi⟩)
    · exact ⟨0, rfl, rfl⟩
    · exact ⟨i + 1, by omega, hi⟩

theorem mem_statementsFrom {next : Nat} {nodes : List Node} {v : Nat} {s : Stmt} :
    (v, s) ∈ statementsFrom next nodes ↔
      ∃ i, v = next + i ∧ nodes[i]? = some (.statement s) := by
  induction nodes generalizing next with
  | nil => simp [statementsFrom]
  | cons node nodes ih =>
      rw [exists_index_cons, ← ih]
      cases node <;> simp [statementsFrom, eq_comm]

/-- The number of a slot and its statement. -/
def Slot.entry (x : Slot) : Nat × Stmt := (x.node, x.what)

theorem map_entry_under (n : Nat) (part : Part) (slots : List Slot) :
    (under n part slots).map Slot.entry = slots.map Slot.entry := by
  rw [under, List.map_map]
  rfl

mutual

theorem statementsFrom_statement (jumps : Targets) (n next : Nat) (preds : List Nat) :
    (s : Stmt) → statementsFrom next (Piece.statement jumps next preds s).nodes
      = (statementSlots n next s).map Slot.entry
  | .simple line what => by
      unfold Piece.statement
      split <;> rfl
  | .function line name params body => rfl
  | .classDef line name body => rfl
  | .branch line test body orelse => by
      unfold Piece.statement
      simp [statementsFrom, statementsFrom_append, statementsFrom_block _ 0, length_block,
        statementSlots, map_entry_under, Slot.entry]
  | .whileLoop line test body orelse => by
      have hnext : next + 1 + 1 = next + 2 := rfl
      unfold Piece.statement
      dsimp only
      split <;> rename_i h <;> simp [statementsFrom, statementsFrom_append,
        statementsFrom_block _ 0, length_block, statementSlots, map_entry_under, Slot.entry, hnext,
        h]
  | .forLoop line target iter body orelse => by
      have hnext : next + 1 + 1 = next + 2 := rfl
      unfold Piece.statement
      simp [statementsFrom, statementsFrom_append, statementsFrom_block _ 0, length_block,
        statementSlots, map_entry_under, Slot.entry, hnext]
  | .tryBlock line body handlers orelse finalBody => by
      rw [nodes_tryBlock]
      simp [statementsFrom, statementsFrom_append, statementsFrom_block _ 0,
        statementsFrom_handlers _ n 0, length_block, length_handlers, statementSlots,
        map_entry_under, Slot.entry, tryPieces]
  | .withBlock line items targets body => by
      unfold Piece.statement
      simp [statementsFrom, statementsFrom_block _ 0, statementSlots, map_entry_under, Slot.entry]

theorem statementsFrom_block (jumps : Targets) (n next : Nat) (preds : List Nat) :
    (body : List Stmt) → statementsFrom next (Piece.block jumps next preds body).nodes
      = (blockSlots n next body).map Slot.entry
  | [] => rfl
  | s :: body => by
      unfold Piece.block
      simp [statementsFrom_append, statementsFrom_statement jumps n,
        statementsFrom_block jumps (n + 1), blockSlots, length_statement]

theorem statementsFrom_handlers (jumps : Targets) (n k next source : Nat) :
    (handlers : List Handler) →
      statementsFrom next (Piece.handlerPieces jumps next source handlers).nodes
        = (handlerSlots n k next handlers).map Slot.entry
  | [] => rfl
  | .mk line name body :: handlers => by
      unfold Piece.handlerPieces
      simp [statementsFrom_append, statementsFrom_block _ 0, statementsFrom_handlers _ n (k + 1),
        length_block, handlerSlots, map_entry_under]

end

/-! ## Different places -/

/-- The number of the outermost statement that a place is in. -/
def Place.number : Place → Nat
  | .here n | .inside n _ _ => n

/-- The block of its outermost statement that a place is in. -/
def Place.part? : Place → Option Part
  | .here _ => none
  | .inside _ part _ => some part

theorem forall_under {n : Nat} {part : Part} {slots : List Slot} {q : Place → Prop}
    (h : ∀ x ∈ slots, q (.inside n part x.place)) : ∀ x ∈ under n part slots, q x.place := by
  intro x hx
  obtain ⟨y, hy, rfl⟩ := List.mem_map.mp hx
  exact h y hy

theorem number_under {n : Nat} {part : Part} {slots : List Slot} :
    ∀ x ∈ under n part slots, x.place.number = n :=
  forall_under (q := fun place => place.number = n) fun _ _ => rfl

theorem number_handlerSlots {n k next : Nat} {handlers : List Handler} :
    ∀ x ∈ handlerSlots n k next handlers, x.place.number = n := by
  induction handlers generalizing k next with
  | nil => exact List.forall_mem_nil _
  | cons handler handlers ih =>
      obtain ⟨line, name, body⟩ := handler
      exact List.forall_mem_append.mpr ⟨number_under, ih⟩

theorem number_statementSlots {n next : Nat} {s : Stmt} :
    ∀ x ∈ statementSlots n next s, x.place.number = n := by
  cases s with
  | simple line what => exact List.forall_mem_singleton.mpr rfl
  | function line name params body => exact List.forall_mem_singleton.mpr rfl
  | classDef line name body => exact List.forall_mem_singleton.mpr rfl
  | branch line test body orelse =>
      exact List.forall_mem_cons.mpr
        ⟨rfl, List.forall_mem_append.mpr ⟨number_under, number_under⟩⟩
  | whileLoop line test body orelse =>
      refine List.forall_mem_cons.mpr ⟨rfl, List.forall_mem_append.mpr ⟨number_under, ?_⟩⟩
      split
      · exact List.forall_mem_nil _
      · exact number_under
  | forLoop line target iter body orelse =>
      exact List.forall_mem_cons.mpr
        ⟨rfl, List.forall_mem_append.mpr ⟨number_under, number_under⟩⟩
  | tryBlock line body handlers orelse finalBody =>
      refine List.forall_mem_cons.mpr ⟨rfl, ?_⟩
      simp only [List.forall_mem_append]
      exact ⟨⟨⟨number_under, number_under⟩, number_handlerSlots⟩, number_under⟩
  | withBlock line items targets body => exact List.forall_mem_cons.mpr ⟨rfl, number_under⟩

theorem number_blockSlots {n next : Nat} {body : List Stmt} :
    ∀ x ∈ blockSlots n next body, n ≤ x.place.number := by
  induction body generalizing n next with
  | nil => exact List.forall_mem_nil _
  | cons s body ih =>
      refine List.forall_mem_append.mpr ⟨fun x hx => ?_, fun x hx => ?_⟩
      · exact Nat.le_of_eq (number_statementSlots x hx).symm
      · exact Nat.le_of_succ_le (ih x hx)

/-- Slots in blocks of a statement, at different places. -/
structure Grouped (slots : List Slot) (parts : Part → Prop) : Prop where
  nodup : (slots.map Slot.place).Nodup
  part : ∀ x ∈ slots, ∃ part, parts part ∧ x.place.part? = some part

theorem Grouped.nil {parts : Part → Prop} : Grouped [] parts :=
  ⟨List.nodup_nil, List.forall_mem_nil _⟩

theorem Grouped.under {slots : List Slot} (n : Nat) (part : Part)
    (h : (slots.map Slot.place).Nodup) : Grouped (under n part slots) (· = part) := by
  refine ⟨?_, fun x hx => ⟨part, rfl, ?_⟩⟩
  · have hmap : (Flow.under n part slots).map Slot.place
        = (slots.map Slot.place).map (.inside n part) := by
      rw [Flow.under, List.map_map, List.map_map]
      rfl
    rw [hmap]
    exact h.map fun p q heq => (Place.inside.inj heq).2.2
  · exact forall_under (q := fun place => place.part? = some part) (fun _ _ => rfl) x hx

/-- Slots in different blocks are at different places. -/
theorem Grouped.append {a b : List Slot} {parts others : Part → Prop} (ha : Grouped a parts)
    (hb : Grouped b others) (h : ∀ part, parts part → ¬ others part) :
    Grouped (a ++ b) fun part => parts part ∨ others part := by
  constructor
  · rw [List.map_append, List.nodup_append]
    refine ⟨ha.nodup, hb.nodup, fun p hp q hq heq => ?_⟩
    obtain ⟨x, hx, rfl⟩ := List.mem_map.mp hp
    obtain ⟨y, hy, rfl⟩ := List.mem_map.mp hq
    obtain ⟨part, hpart, hpx⟩ := ha.part x hx
    obtain ⟨other, hother, hpy⟩ := hb.part y hy
    rw [heq, hpy] at hpx
    cases hpx
    exact h part hpart hother
  · refine List.forall_mem_append.mpr ⟨fun x hx => ?_, fun x hx => ?_⟩
    · obtain ⟨part, hpart, hpx⟩ := ha.part x hx
      exact ⟨part, .inl hpart, hpx⟩
    · obtain ⟨part, hpart, hpx⟩ := hb.part x hx
      exact ⟨part, .inr hpart, hpx⟩

/-- The place of a statement is none of those in its blocks. -/
theorem Grouped.cons {n next : Nat} {s : Stmt} {slots : List Slot} {parts : Part → Prop}
    (h : Grouped slots parts) : ((⟨.here n, next, s⟩ :: slots).map Slot.place).Nodup := by
  refine List.nodup_cons.mpr ⟨fun hmem => ?_, h.nodup⟩
  obtain ⟨x, hx, heq⟩ := List.mem_map.mp hmem
  obtain ⟨part, -, hpart⟩ := h.part x hx
  rw [heq] at hpart
  cases hpart

mutual

theorem nodup_statementSlots (n next : Nat) :
    (s : Stmt) → ((statementSlots n next s).map Slot.place).Nodup
  | .simple line what => List.nodup_singleton _
  | .function line name params body => List.nodup_singleton _
  | .classDef line name body => List.nodup_singleton _
  | .branch line test body orelse => by
      have hbody := Grouped.under n .body (nodup_blockSlots 0 (next + 1) body)
      have horelse := Grouped.under n .orelse
        (nodup_blockSlots 0 (next + 1 + blockSize body) orelse)
      exact (hbody.append horelse (by rintro _ rfl; nofun)).cons
  | .whileLoop line test body orelse => by
      have hbody := Grouped.under n .body (nodup_blockSlots 0 (next + 2) body)
      have horelse := Grouped.under n .orelse
        (nodup_blockSlots 0 (next + 2 + blockSize body) orelse)
      unfold statementSlots
      split
      · rw [List.append_nil]
        exact hbody.cons
      · exact (hbody.append horelse (by rintro _ rfl; nofun)).cons
  | .forLoop line target iter body orelse => by
      have hbody := Grouped.under n .body (nodup_blockSlots 0 (next + 2) body)
      have horelse := Grouped.under n .orelse
        (nodup_blockSlots 0 (next + 2 + blockSize body) orelse)
      exact (hbody.append horelse (by rintro _ rfl; nofun)).cons
  | .tryBlock line body handlers orelse finalBody => by
      have hbody := Grouped.under n .body (nodup_blockSlots 0 (next + 1) body)
      have horelse := Grouped.under n .orelse
        (nodup_blockSlots 0 (next + 1 + blockSize body) orelse)
      have hhandlers := grouped_handlerSlots n 0
        (next + 1 + blockSize body + blockSize orelse) handlers
      have hfinal := Grouped.under n .final (nodup_blockSlots 0
        (next + 1 + blockSize body + blockSize orelse + handlersSize handlers + 1) finalBody)
      refine (((hbody.append horelse ?_).append hhandlers ?_).append hfinal ?_).cons
      · rintro _ rfl
        nofun
      · rintro _ (rfl | rfl) ⟨j, -, hj⟩ <;> cases hj
      · rintro _ ((rfl | rfl) | ⟨j, -, rfl⟩) <;> nofun
  | .withBlock line items targets body =>
      (Grouped.under n .body (nodup_blockSlots 0 (next + 1) body)).cons

/-- Statements of one block have different numbers there. -/
theorem nodup_blockSlots (n next : Nat) :
    (body : List Stmt) → ((blockSlots n next body).map Slot.place).Nodup
  | [] => List.nodup_nil
  | s :: body => by
      unfold blockSlots
      rw [List.map_append, List.nodup_append]
      refine ⟨nodup_statementSlots n next s, nodup_blockSlots _ _ body, fun p hp q hq heq => ?_⟩
      obtain ⟨x, hx, rfl⟩ := List.mem_map.mp hp
      obtain ⟨y, hy, rfl⟩ := List.mem_map.mp hq
      have hnumber := number_blockSlots y hy
      rw [← heq, number_statementSlots x hx] at hnumber
      omega

theorem grouped_handlerSlots (n k next : Nat) :
    (handlers : List Handler) →
      Grouped (handlerSlots n k next handlers) fun part => ∃ j, k ≤ j ∧ part = .handler j
  | [] => .nil
  | .mk line name body :: handlers => by
      have hbody := Grouped.under n (.handler k) (nodup_blockSlots 0 next body)
      have hrest := grouped_handlerSlots n (k + 1) (next + blockSize body) handlers
      have hboth := hbody.append hrest <| by
        rintro _ rfl ⟨j, hj, heq⟩
        cases heq
        omega
      refine ⟨hboth.nodup, fun x hx => ?_⟩
      obtain ⟨part, hpart | ⟨j, hj, hpart⟩, hpx⟩ := hboth.part x hx
      · exact ⟨part, ⟨k, Nat.le_refl k, hpart⟩, hpx⟩
      · exact ⟨part, ⟨j, Nat.le_of_succ_le hj, hpart⟩, hpx⟩

end

/-! ## The statement at the place of a slot -/

theorem find_under {whole block : List Stmt} {s : Stmt} {n : Nat} {part : Part}
    {slots : List Slot} (hn : whole[n]? = some s) (hblock : part.block? s = some block)
    (h : (∀ i, block[0 + i]? = block[i]?) → ∀ x ∈ slots, x.place.find? block = some x.what) :
    ∀ x ∈ under n part slots, x.place.find? whole = some x.what := by
  intro x hx
  obtain ⟨y, hy, rfl⟩ := List.mem_map.mp hx
  change Place.find? (.inside n part y.place) whole = some y.what
  rw [Place.find?, hn, Option.bind_some, hblock, Option.bind_some]
  exact h (fun i => by rw [Nat.zero_add]) y hy

mutual

theorem find_statementSlots (whole : List Stmt) (n next : Nat) :
    (s : Stmt) → whole[n]? = some s →
      ∀ x ∈ statementSlots n next s, x.place.find? whole = some x.what
  | .simple line what, hn => List.forall_mem_singleton.mpr hn
  | .function line name params body, hn => List.forall_mem_singleton.mpr hn
  | .classDef line name body, hn => List.forall_mem_singleton.mpr hn
  | .branch line test body orelse, hn =>
      List.forall_mem_cons.mpr ⟨hn, List.forall_mem_append.mpr
        ⟨find_under hn rfl (find_blockSlots body 0 _ body),
          find_under hn rfl (find_blockSlots orelse 0 _ orelse)⟩⟩
  | .whileLoop line test body orelse, hn => by
      refine List.forall_mem_cons.mpr ⟨hn, List.forall_mem_append.mpr
        ⟨find_under hn rfl (find_blockSlots body 0 _ body), ?_⟩⟩
      split
      · exact List.forall_mem_nil _
      · exact find_under hn rfl (find_blockSlots orelse 0 _ orelse)
  | .forLoop line target iter body orelse, hn =>
      List.forall_mem_cons.mpr ⟨hn, List.forall_mem_append.mpr
        ⟨find_under hn rfl (find_blockSlots body 0 _ body),
          find_under hn rfl (find_blockSlots orelse 0 _ orelse)⟩⟩
  | .tryBlock line body handlers orelse finalBody, hn => by
      refine List.forall_mem_cons.mpr ⟨hn, ?_⟩
      simp only [List.forall_mem_append]
      refine ⟨⟨⟨find_under hn rfl (find_blockSlots body 0 _ body), ?_⟩, ?_⟩, ?_⟩
      · exact find_under hn rfl (find_blockSlots orelse 0 _ orelse)
      · exact find_handlerSlots whole n 0 _ _ hn handlers fun i => by rw [Nat.zero_add]; rfl
      · exact find_under hn rfl (find_blockSlots finalBody 0 _ finalBody)
  | .withBlock line items targets body, hn =>
      List.forall_mem_cons.mpr ⟨hn, find_under hn rfl (find_blockSlots body 0 _ body)⟩

theorem find_blockSlots (whole : List Stmt) (n next : Nat) :
    (body : List Stmt) → (∀ i, whole[n + i]? = body[i]?) →
      ∀ x ∈ blockSlots n next body, x.place.find? whole = some x.what
  | [], _ => List.forall_mem_nil _
  | s :: body, hbody => by
      refine List.forall_mem_append.mpr ⟨?_, ?_⟩
      · exact find_statementSlots whole n next s (hbody 0)
      · refine find_blockSlots whole (n + 1) _ body fun i => ?_
        rw [Nat.add_assoc, Nat.add_comm 1 i]
        exact hbody (i + 1)
termination_by structural body => body

theorem find_handlerSlots (whole : List Stmt) (n k next : Nat) (s : Stmt)
    (hn : whole[n]? = some s) :
    (handlers : List Handler) →
      (∀ i, (Part.handler (k + i)).block? s = handlers[i]?.map Handler.body) →
      ∀ x ∈ handlerSlots n k next handlers, x.place.find? whole = some x.what
  | [], _ => List.forall_mem_nil _
  | .mk line name body :: handlers, h => by
      refine List.forall_mem_append.mpr ⟨find_under hn (h 0) (find_blockSlots body 0 _ body), ?_⟩
      refine find_handlerSlots whole n (k + 1) _ s hn handlers fun i => ?_
      rw [Nat.add_assoc, Nat.add_comm 1 i]
      exact h (i + 1)
termination_by structural handlers => handlers

end

theorem find_scopeSlots (body : List Stmt) :
    ∀ x ∈ blockSlots 0 2 body, x.place.find? body = some x.what :=
  find_blockSlots body 0 2 body fun i => by rw [Nat.zero_add]

/-! ## The node of a place -/

/-- The number of the node that the graph of a scope has for the statement at a place. -/
def nodeOf? (body : List Stmt) (place : Place) : Option Nat :=
  ((blockSlots 0 2 body).find? fun x => x.place = place).map Slot.node

theorem nodeOf?_eq_some {body : List Stmt} {place : Place} {v : Nat} :
    nodeOf? body place = some v ↔ ∃ x ∈ blockSlots 0 2 body, x.place = place ∧ x.node = v := by
  constructor
  · intro h
    obtain ⟨x, hx, rfl⟩ := Option.map_eq_some_iff.mp h
    exact ⟨x, List.mem_of_find?_eq_some hx, by simpa using List.find?_some hx, rfl⟩
  · rintro ⟨x, hx, rfl, rfl⟩
    have hsome : ((blockSlots 0 2 body).find? fun y => y.place = x.place).isSome = true :=
      List.find?_isSome.mpr ⟨x, hx, decide_eq_true rfl⟩
    obtain ⟨y, hy⟩ := Option.isSome_iff_exists.mp hsome
    have hplace : y.place = x.place := by simpa using List.find?_some hy
    have heq : y = x :=
      List.inj_on_of_nodup_map (nodup_blockSlots 0 2 body) (List.mem_of_find?_eq_some hy) hx hplace
    rw [nodeOf?, hy, heq, Option.map_some]

theorem statementsFrom_ofBody (body : List Stmt) :
    statementsFrom 0 (Graph.ofBody body).nodes = (blockSlots 0 2 body).map Slot.entry :=
  statementsFrom_block ⟨Graph.finishId, none⟩ 0 2 [Graph.startId] body

/-- The slots of a scope are the statement nodes of its graph. -/
theorem nodes_ofBody_iff {body : List Stmt} {v : Nat} {s : Stmt} :
    (Graph.ofBody body).nodes[v]? = some (.statement s) ↔
      ∃ x ∈ blockSlots 0 2 body, x.node = v ∧ x.what = s := by
  have hmem : (Graph.ofBody body).nodes[v]? = some (.statement s) ↔
      (v, s) ∈ statementsFrom 0 (Graph.ofBody body).nodes := by
    rw [mem_statementsFrom]
    simp only [Nat.zero_add, exists_eq_left']
  rw [hmem, statementsFrom_ofBody, List.mem_map]
  simp only [Slot.entry, Prod.mk.injEq]

theorem nodup_statementsFrom (next : Nat) (nodes : List Node) :
    ((statementsFrom next nodes).map Prod.fst).Nodup := by
  induction nodes generalizing next with
  | nil => exact List.nodup_nil
  | cons node nodes ih =>
      cases node with
      | start => exact ih (next + 1)
      | finish => exact ih (next + 1)
      | join => exact ih (next + 1)
      | loopEnd => exact ih (next + 1)
      | statement s =>
          refine List.nodup_cons.mpr ⟨fun hmem => ?_, ih (next + 1)⟩
          obtain ⟨⟨v, t⟩, hmem, heq⟩ := List.mem_map.mp hmem
          obtain ⟨i, hi, -⟩ := mem_statementsFrom.mp hmem
          obtain rfl : v = next := heq
          omega

/-- Different places have different nodes. -/
theorem nodeOf?_inj {body : List Stmt} {p q : Place} {v : Nat} (hp : nodeOf? body p = some v)
    (hq : nodeOf? body q = some v) : p = q := by
  obtain ⟨x, hx, rfl, rfl⟩ := nodeOf?_eq_some.mp hp
  obtain ⟨y, hy, rfl, hnode⟩ := nodeOf?_eq_some.mp hq
  have hnodup : ((blockSlots 0 2 body).map Slot.node).Nodup := by
    have h := nodup_statementsFrom 0 (Graph.ofBody body).nodes
    rwa [statementsFrom_ofBody, List.map_map] at h
  rw [List.inj_on_of_nodup_map hnodup hy hx hnode]

end Remedy.Flow
