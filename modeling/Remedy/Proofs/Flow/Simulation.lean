import Remedy.Proofs.Flow.Layout
import Remedy.Proofs.Flow.Search

/-!
# The graph follows every execution

A simulation: where an execution of a piece of program starts from nodes that control can come to,
all statements that it reaches have such nodes; if it ends normally, so is one of the nodes where
the piece is left, and if it ends by `break`, the place where the innermost loop is left
(`Follows`). Returns and exceptions need no such clause, since the blocks that may run after them
are entered from the node of their `try` statement.
-/

namespace Remedy.Flow

open Python

variable {edges : List (Nat × Nat)} {jumps : Targets} {slots others : List Slot}
  {outs preds : List Nat} {reached later : List Place} {ending : Ending} {n next : Nat}

/-! ## Marked places -/

/-- Control can come to one of several nodes. -/
def Entered (edges : List (Nat × Nat)) (preds : List Nat) : Prop := ∃ v ∈ preds, Alive edges v

/-- Control can come to the nodes of the statements at some places. -/
def Marked (edges : List (Nat × Nat)) (slots : List Slot) (reached : List Place) : Prop :=
  ∀ place ∈ reached, ∃ x ∈ slots, x.place = place ∧ Alive edges x.node

theorem Entered.alive {v : Nat} (h : Entered edges preds) (hsub : edgesTo preds v ⊆ edges) :
    Alive edges v := by
  obtain ⟨u, hu, halive⟩ := h
  exact halive.step (hsub (List.mem_map.mpr ⟨u, hu, rfl⟩))

theorem Entered.of_alive {v : Nat} (h : Alive edges v) : Entered edges [v] :=
  ⟨v, List.mem_singleton.mpr rfl, h⟩

theorem Entered.mono (h : Entered edges preds) (hsub : preds ⊆ outs) : Entered edges outs := by
  obtain ⟨v, hv, halive⟩ := h
  exact ⟨v, hsub hv, halive⟩

theorem Marked.nil : Marked edges slots [] := List.forall_mem_nil _

theorem Marked.mono (h : Marked edges slots reached) (hsub : slots ⊆ others) :
    Marked edges others reached := by
  intro place hplace
  obtain ⟨x, hx, hmarked⟩ := h place hplace
  exact ⟨x, hsub hx, hmarked⟩

theorem Marked.append (h : Marked edges slots reached) (h' : Marked edges slots later) :
    Marked edges slots (reached ++ later) :=
  List.forall_mem_append.mpr ⟨h, h'⟩

theorem Marked.under (part : Part) (h : Marked edges slots reached) :
    Marked edges (under n part slots) (reached.map (.inside n part)) := by
  intro place hplace
  obtain ⟨p, hp, rfl⟩ := List.mem_map.mp hplace
  obtain ⟨x, hx, rfl, halive⟩ := h p hp
  exact ⟨_, List.mem_map.mpr ⟨x, hx, rfl⟩, rfl, halive⟩

/-- A statement whose own node control can come to. -/
theorem Marked.cons {s : Stmt} (hnext : Alive edges next) (h : Marked edges slots reached) :
    Marked edges (⟨.here n, next, s⟩ :: slots) (.here n :: reached) :=
  List.forall_mem_cons.mpr ⟨⟨_, List.mem_cons_self .., rfl, hnext⟩,
    h.mono (List.subset_cons_self ..)⟩

/-! ## What it means to follow -/

/-- What a part of a graph says of an execution that it follows: the statements reached are marked,
and so is where the execution goes on. -/
structure Follows (edges : List (Nat × Nat)) (jumps : Targets) (slots : List Slot)
    (outs : List Nat) (reached : List Place) (ending : Ending) : Prop where
  marked : Marked edges slots reached
  normal : ending = .normal → Entered edges outs
  broke : ending = .broke → ∀ head leave, jumps.loop? = some (head, leave) → Alive edges leave

/-- Where an execution ends neither normally nor by `break`, only its statements matter. -/
theorem Follows.of_marked (h : Marked edges slots reached)
    (hending : ending = .paused ∨ ending = .raised ∨ ending = .returned) :
    Follows edges jumps slots outs reached ending := by
  refine ⟨h, ?_, ?_⟩
  · rintro rfl
    rcases hending with h | h | h <;> cases h
  · rintro rfl
    rcases hending with h | h | h <;> cases h

def loopBody (jumps : Targets) (next : Nat) (body : List Stmt) : Piece :=
  Piece.block { jumps with loop? := some (next, next + 1) } (next + 2) [next] body

def loopElse (jumps : Targets) (next : Nat) (body orelse : List Stmt) : Piece :=
  Piece.block jumps (next + 2 + blockSize body) [next] orelse

def loopSlots (n next : Nat) (forever : Bool) (body orelse : List Stmt) : List Slot :=
  under n .body (blockSlots 0 (next + 2) body)
    ++ if forever then [] else under n .orelse (blockSlots 0 (next + 2 + blockSize body) orelse)

/-- The slots in the blocks of a `try` statement without its `finally`. -/
def triedSlots (n next : Nat) (body : List Stmt) (handlers : List Handler)
    (orelse : List Stmt) : List Slot :=
  under n .body (blockSlots 0 (next + 1) body)
    ++ under n .orelse (blockSlots 0 (next + 1 + blockSize body) orelse)
    ++ handlerSlots n 0 (next + 1 + blockSize body + blockSize orelse) handlers

/-- The graph follows an execution, wherever the piece of program stands in it. -/
def Simulated (edges : List (Nat × Nat)) : Code → List Place → Ending → Prop
  | .statement n s, reached, ending => ∀ jumps next preds,
      (Piece.statement jumps next preds s).edges ⊆ edges → Entered edges preds →
      Follows edges jumps (statementSlots n next s) (Piece.statement jumps next preds s).outs
        reached ending
  | .block n body, reached, ending => ∀ jumps next preds,
      (Piece.block jumps next preds body).edges ⊆ edges → Entered edges preds →
      Follows edges jumps (blockSlots n next body) (Piece.block jumps next preds body).outs
        reached ending
  | .loop n forever body orelse, reached, ending => ∀ jumps next, Alive edges next →
      (loopBody jumps next body).edges ⊆ edges →
      (forever = false → (loopElse jumps next body orelse).edges ⊆ edges
        ∧ edgesTo (loopElse jumps next body orelse).outs (next + 1) ⊆ edges) →
      Follows edges jumps (loopSlots n next forever body orelse) [next + 1] reached ending
  | .tried n body handlers orelse, reached, ending => ∀ jumps next finalBody, Alive edges next →
      (tryPieces jumps next body handlers orelse finalBody).tried.edges ⊆ edges →
      (tryPieces jumps next body handlers orelse finalBody).normal.edges ⊆ edges →
      (tryPieces jumps next body handlers orelse finalBody).handled.edges ⊆ edges →
      Follows edges jumps (triedSlots n next body handlers orelse)
        ((tryPieces jumps next body handlers orelse finalBody).normal.outs
          ++ (tryPieces jumps next body handlers orelse finalBody).handled.outs) reached ending

theorem simulated_paused (code : Code) : Simulated edges code [] .paused := by
  cases code with
  | statement n s => exact fun _ _ _ _ _ => .of_marked .nil (.inl rfl)
  | block n body => exact fun _ _ _ _ _ => .of_marked .nil (.inl rfl)
  | loop n forever body orelse => exact fun _ _ _ _ _ => .of_marked .nil (.inl rfl)
  | tried n body handlers orelse => exact fun _ _ _ _ _ _ _ => .of_marked .nil (.inl rfl)

/-! ## Statements without a block -/

theorem simulated_through {s : Stmt}
    (hslots : ∀ n next, statementSlots n next s = [⟨.here n, next, s⟩])
    (hpiece : ∀ jumps next preds, Piece.statement jumps next preds s = .through next preds s)
    (hending : ending = .normal ∨ ending = .raised) :
    Simulated edges (.statement n s) [.here n] ending := by
  intro jumps next preds hsub hpreds
  rw [hpiece] at hsub ⊢
  have hnext : Alive edges next := hpreds.alive hsub
  rw [hslots]
  refine ⟨.cons hnext .nil, fun _ => .of_alive hnext, ?_⟩
  rintro rfl
  rcases hending with h | h <;> cases h

/-- A jump is followed if its target is right for its ending. -/
theorem simulated_jump {line : Nat} {what : Simple} (target? : Targets → Option Nat)
    (hpiece : ∀ jumps next preds, Piece.statement jumps next preds (.simple line what)
      = .jump next preds (.simple line what) (target? jumps))
    (hnormal : ending ≠ .normal)
    (hbroke : ending = .broke → ∀ jumps, target? jumps = jumps.loop?.map (·.2)) :
    Simulated edges (.statement n (.simple line what)) [.here n] ending := by
  intro jumps next preds hsub hpreds
  rw [hpiece] at hsub ⊢
  obtain ⟨hhead, htarget⟩ := List.append_subset.mp hsub
  have hnext : Alive edges next := hpreds.alive hhead
  refine ⟨.cons hnext .nil, fun h => absurd h hnormal, fun h head leave hloop => ?_⟩
  refine hnext.step (htarget ?_)
  rw [hbroke h, hloop]
  exact List.mem_singleton.mpr rfl

theorem simulated_simple {line : Nat} {what : Simple}
    (hending : ending = endingOf what ∨ ending = .raised) :
    Simulated edges (.statement n (.simple line what)) [.here n] ending := by
  cases what with
  | ret value =>
      refine simulated_jump (fun jumps => some jumps.finish) (fun _ _ _ => rfl) ?_ ?_
      · rcases hending with rfl | rfl <;> nofun
      · rcases hending with rfl | rfl <;> nofun
  | raise value =>
      refine simulated_jump (fun jumps => some jumps.finish) (fun _ _ _ => rfl) ?_ ?_
      · rcases hending with rfl | rfl <;> nofun
      · rcases hending with rfl | rfl <;> nofun
  | breakLoop =>
      refine simulated_jump (fun jumps => jumps.loop?.map (·.2)) (fun _ _ _ => rfl) ?_ ?_
      · rcases hending with rfl | rfl <;> nofun
      · exact fun _ _ => rfl
  | continueLoop =>
      refine simulated_jump (fun jumps => jumps.loop?.map (·.1)) (fun _ _ _ => rfl) ?_ ?_
      · rcases hending with rfl | rfl <;> nofun
      · rcases hending with rfl | rfl <;> nofun
  | expr value => exact simulated_through (fun _ _ => rfl) (fun _ _ _ => rfl) hending
  | assign targets value => exact simulated_through (fun _ _ => rfl) (fun _ _ _ => rfl) hending
  | update target op value => exact simulated_through (fun _ _ => rfl) (fun _ _ _ => rfl) hending
  | pass => exact simulated_through (fun _ _ => rfl) (fun _ _ _ => rfl) hending
  | imports names => exact simulated_through (fun _ _ => rfl) (fun _ _ _ => rfl) hending
  | outer names => exact simulated_through (fun _ _ => rfl) (fun _ _ _ => rfl) hending
  | other exprs => exact simulated_through (fun _ _ => rfl) (fun _ _ _ => rfl) hending

theorem simulated_define {s : Stmt} (scope : s.isScope = true)
    (hending : ending = .normal ∨ ending = .raised) :
    Simulated edges (.statement n s) [.here n] ending := by
  cases s with
  | function line name params body =>
      exact simulated_through (fun _ _ => rfl) (fun _ _ _ => rfl) hending
  | classDef line name body =>
      exact simulated_through (fun _ _ => rfl) (fun _ _ _ => rfl) hending
  | simple | branch | whileLoop | forLoop | tryBlock | withBlock => cases scope

/-! ## Branches -/

section Branch

variable {line : Nat} {test : Expr} {body orelse : List Stmt}

def branchBody (jumps : Targets) (next : Nat) (test : Expr) (body : List Stmt) : Piece :=
  Piece.block jumps (next + 1)
    (if test.literal?.map Literal.truthy = some false then [] else [next]) body

def branchElse (jumps : Targets) (next : Nat) (test : Expr) (body orelse : List Stmt) : Piece :=
  Piece.block jumps (next + 1 + blockSize body)
    (if test.literal?.map Literal.truthy = some true then [] else [next]) orelse

theorem edges_branch :
    (Piece.statement jumps next preds (.branch line test body orelse)).edges =
      edgesTo preds next ++ (branchBody jumps next test body).edges
        ++ (branchElse jumps next test body orelse).edges
        ++ edgesTo ((branchBody jumps next test body).outs
            ++ (branchElse jumps next test body orelse).outs)
          (next + 1 + blockSize body + blockSize orelse) := by
  unfold Piece.statement branchBody branchElse
  simp only [length_block]

theorem outs_branch :
    (Piece.statement jumps next preds (.branch line test body orelse)).outs =
      [next + 1 + blockSize body + blockSize orelse] := by
  unfold Piece.statement
  simp only [length_block]

theorem simulated_branchBody (maybe : test.literal?.map Literal.truthy ≠ some false)
    (ih : Simulated edges (.block 0 body) reached ending) :
    Simulated edges (.statement n (.branch line test body orelse))
      (.here n :: reached.map (.inside n .body)) ending := by
  intro jumps next preds hsub hpreds
  rw [edges_branch] at hsub
  simp only [List.append_subset] at hsub
  obtain ⟨⟨⟨hhead, hbody⟩, -⟩, hjoin⟩ := hsub
  have hnext : Alive edges next := hpreds.alive hhead
  rw [branchBody, if_neg maybe] at hbody hjoin
  have h := ih jumps (next + 1) [next] hbody (.of_alive hnext)
  refine ⟨.cons hnext ((h.marked.under .body).mono (List.subset_append_left ..)), fun hn => ?_,
    h.broke⟩
  rw [outs_branch]
  exact .of_alive (((h.normal hn).mono (List.subset_append_left ..)).alive hjoin)

theorem simulated_branchElse (maybe : test.literal?.map Literal.truthy ≠ some true)
    (ih : Simulated edges (.block 0 orelse) reached ending) :
    Simulated edges (.statement n (.branch line test body orelse))
      (.here n :: reached.map (.inside n .orelse)) ending := by
  intro jumps next preds hsub hpreds
  rw [edges_branch] at hsub
  simp only [List.append_subset] at hsub
  obtain ⟨⟨⟨hhead, -⟩, helse⟩, hjoin⟩ := hsub
  have hnext : Alive edges next := hpreds.alive hhead
  rw [branchElse, if_neg maybe] at helse hjoin
  have h := ih jumps _ [next] helse (.of_alive hnext)
  refine ⟨.cons hnext ((h.marked.under .orelse).mono (List.subset_append_right ..)), fun hn => ?_,
    h.broke⟩
  rw [outs_branch]
  exact .of_alive (((h.normal hn).mono (List.subset_append_right ..)).alive hjoin)

end Branch

/-! ## Loops -/

section Loop

variable {line : Nat} {test target iter : Expr} {body orelse : List Stmt} {forever : Bool}

theorem edges_whileLoop :
    (Piece.statement jumps next preds (.whileLoop line test body orelse)).edges =
      edgesTo preds next ++ (loopBody jumps next body).edges
        ++ edgesTo (loopBody jumps next body).outs next
        ++ (if test.literal?.any Literal.truthy then []
          else (loopElse jumps next body orelse).edges
            ++ edgesTo (loopElse jumps next body orelse).outs (next + 1)) := by
  unfold Piece.statement loopBody loopElse
  simp only [length_block]

theorem edges_forLoop :
    (Piece.statement jumps next preds (.forLoop line target iter body orelse)).edges =
      edgesTo preds next ++ (loopBody jumps next body).edges
        ++ edgesTo (loopBody jumps next body).outs next
        ++ (loopElse jumps next body orelse).edges
        ++ edgesTo (loopElse jumps next body orelse).outs (next + 1) := by
  unfold Piece.statement loopBody loopElse
  simp only [length_block]

theorem simulated_whileLoop
    (ih : Simulated edges (.loop n (test.literal?.any Literal.truthy) body orelse) reached
      ending) :
    Simulated edges (.statement n (.whileLoop line test body orelse)) (.here n :: reached)
      ending := by
  intro jumps next preds hsub hpreds
  rw [edges_whileLoop] at hsub
  simp only [List.append_subset] at hsub
  obtain ⟨⟨⟨hhead, hbody⟩, -⟩, helse⟩ := hsub
  have hnext : Alive edges next := hpreds.alive hhead
  have h := ih jumps next hnext hbody fun hends => by
    rw [hends, if_neg Bool.false_ne_true] at helse
    exact List.append_subset.mp helse
  unfold Piece.statement
  exact ⟨.cons hnext h.marked, h.normal, h.broke⟩

theorem simulated_forLoop
    (ih : Simulated edges (.loop n false body orelse) reached ending) :
    Simulated edges (.statement n (.forLoop line target iter body orelse)) (.here n :: reached)
      ending := by
  intro jumps next preds hsub hpreds
  rw [edges_forLoop] at hsub
  simp only [List.append_subset] at hsub
  obtain ⟨⟨⟨⟨hhead, hbody⟩, -⟩, helse⟩, hleave⟩ := hsub
  have hnext : Alive edges next := hpreds.alive hhead
  have h := ih jumps next hnext hbody fun _ => ⟨helse, hleave⟩
  unfold Piece.statement
  exact ⟨.cons hnext h.marked, h.normal, h.broke⟩

theorem simulated_loopExhausted (ih : Simulated edges (.block 0 orelse) reached ending) :
    Simulated edges (.loop n false body orelse) (reached.map (.inside n .orelse)) ending := by
  intro jumps next hnext _ helse
  obtain ⟨hsub, hleave⟩ := helse rfl
  have h := ih jumps _ [next] hsub (.of_alive hnext)
  refine ⟨(h.marked.under .orelse).mono (List.subset_append_right ..), fun hn => ?_, h.broke⟩
  exact .of_alive ((h.normal hn).alive hleave)

theorem simulated_loopNext {last : Ending} (ih : Simulated edges (.block 0 body) reached ending)
    (ih' : Simulated edges (.loop n forever body orelse) later last) :
    Simulated edges (.loop n forever body orelse) (reached.map (.inside n .body) ++ later)
      last := by
  intro jumps next hnext hbody helse
  have h := ih _ _ [next] hbody (.of_alive hnext)
  have h' := ih' jumps next hnext hbody helse
  exact ⟨((h.marked.under .body).mono (List.subset_append_left ..)).append h'.marked, h'.normal,
    h'.broke⟩

theorem simulated_loopBroken (ih : Simulated edges (.block 0 body) reached .broke) :
    Simulated edges (.loop n forever body orelse) (reached.map (.inside n .body)) .normal := by
  intro jumps next hnext hbody _
  have h := ih _ _ [next] hbody (.of_alive hnext)
  refine ⟨(h.marked.under .body).mono (List.subset_append_left ..), fun _ => ?_, nofun⟩
  exact .of_alive (h.broke rfl next (next + 1) rfl)

theorem simulated_loopLeft (ih : Simulated edges (.block 0 body) reached ending)
    (outward : ending = .paused ∨ ending = .raised ∨ ending = .returned) :
    Simulated edges (.loop n forever body orelse) (reached.map (.inside n .body)) ending := by
  intro jumps next hnext hbody _
  have h := ih _ _ [next] hbody (.of_alive hnext)
  exact .of_marked ((h.marked.under .body).mono (List.subset_append_left ..)) outward

end Loop

/-! ## `try` statements -/

section Try

variable {line : Nat} {body orelse finalBody : List Stmt} {handlers : List Handler}

theorem triedNormal_eq :
    (tryPieces jumps next body handlers orelse finalBody).normal =
      Piece.block jumps (next + 1 + blockSize body)
        (tryPieces jumps next body handlers orelse finalBody).tried.outs orelse := by
  simp only [tryPieces, length_block]

theorem triedHandled_eq :
    (tryPieces jumps next body handlers orelse finalBody).handled =
      Piece.handlerPieces jumps (next + 1 + blockSize body + blockSize orelse) next handlers := by
  simp only [tryPieces, length_block]

theorem tryLast_eq :
    (tryPieces jumps next body handlers orelse finalBody).last =
      Piece.block jumps
        (next + 1 + blockSize body + blockSize orelse + handlersSize handlers + 1)
        [(tryPieces jumps next body handlers orelse finalBody).join, next] finalBody := by
  simp only [tryPieces, length_block, length_handlers]

theorem subset_tryBlock
    (h : (Piece.statement jumps next preds
      (.tryBlock line body handlers orelse finalBody)).edges ⊆ edges) :
    edgesTo preds next
        ++ (tryPieces jumps next body handlers orelse finalBody).tried.edges
        ++ (tryPieces jumps next body handlers orelse finalBody).normal.edges
        ++ (tryPieces jumps next body handlers orelse finalBody).handled.edges
        ++ edgesTo ((tryPieces jumps next body handlers orelse finalBody).normal.outs
            ++ (tryPieces jumps next body handlers orelse finalBody).handled.outs)
          (tryPieces jumps next body handlers orelse finalBody).join
        ++ (tryPieces jumps next body handlers orelse finalBody).last.edges ⊆ edges := by
  refine List.Subset.trans ?_ h
  unfold Piece.statement tryPieces
  cases finalBody with
  | nil => simp [Piece.block]
  | cons s rest =>
      rw [List.isEmpty_cons, if_neg Bool.false_ne_true]
      dsimp only
      split
      · exact List.subset_append_left ..
      · exact List.Subset.refl _

/-- The `try` statement is left where control can come to, if its parts before `finally` are, and
`finally` is. -/
theorem entered_tryBlock
    (houts : Entered edges ((tryPieces jumps next body handlers orelse finalBody).normal.outs
      ++ (tryPieces jumps next body handlers orelse finalBody).handled.outs))
    (hjoin : Alive edges (tryPieces jumps next body handlers orelse finalBody).join)
    (hlast : Entered edges (tryPieces jumps next body handlers orelse finalBody).last.outs) :
    Entered edges (Piece.statement jumps next preds
      (.tryBlock line body handlers orelse finalBody)).outs := by
  unfold Piece.statement
  cases finalBody with
  | nil => exact .of_alive hjoin
  | cons s rest =>
      obtain ⟨v, hv, -⟩ := houts
      have hne : ¬ ((tryPieces jumps next body handlers orelse (s :: rest)).normal.outs
          ++ (tryPieces jumps next body handlers orelse (s :: rest)).handled.outs).isEmpty = true :=
        fun hempty => List.not_mem_nil (List.isEmpty_iff.mp hempty ▸ hv)
      rw [List.isEmpty_cons, if_neg Bool.false_ne_true]
      split
      · rename_i hempty
        exact absurd hempty hne
      · exact hlast

/-- A handler stands somewhere among the pieces of its `try` statement, entered from it. -/
theorem exists_handlerPiece {handler : Handler} {source k : Nat} (next j : Nat)
    (h : handlers[k]? = some handler) :
    ∃ first, (Piece.block jumps first [source] handler.body).edges
          ⊆ (Piece.handlerPieces jumps next source handlers).edges
      ∧ (Piece.block jumps first [source] handler.body).outs
          ⊆ (Piece.handlerPieces jumps next source handlers).outs
      ∧ under n (.handler (j + k)) (blockSlots 0 first handler.body)
          ⊆ handlerSlots n j next handlers := by
  induction handlers generalizing next j k with
  | nil => cases h
  | cons head handlers ih =>
      obtain ⟨line, name, block⟩ := head
      cases k with
      | zero =>
          obtain rfl := Option.some.inj h
          exact ⟨next, List.subset_append_left .., List.subset_append_left ..,
            List.subset_append_left ..⟩
      | succ k =>
          obtain ⟨first, hedges, houts, hslots⟩ :=
            ih (next + (Piece.block jumps next [source] block).nodes.length) (j + 1) h
          rw [Nat.add_assoc, Nat.add_comm 1 k, length_block] at hslots
          exact ⟨first, List.subset_append_of_subset_right _ hedges,
            List.subset_append_of_subset_right _ houts,
            List.subset_append_of_subset_right _ hslots⟩

theorem simulated_triedNormal (ih : Simulated edges (.block 0 body) reached .normal)
    (ih' : Simulated edges (.block 0 orelse) later ending) :
    Simulated edges (.tried n body handlers orelse)
      (reached.map (.inside n .body) ++ later.map (.inside n .orelse)) ending := by
  intro jumps next finalBody hnext htried hnormal _
  have h := ih jumps (next + 1) [next] htried (.of_alive hnext)
  rw [triedNormal_eq] at hnormal ⊢
  have h' := ih' jumps _ _ hnormal (h.normal rfl)
  refine ⟨?_, fun hn => (h'.normal hn).mono (List.subset_append_left ..), h'.broke⟩
  have hbody := h.marked.under (n := n) .body
  have horelse := h'.marked.under (n := n) .orelse
  refine (Marked.append (hbody.mono ?_) (horelse.mono ?_)).mono (List.subset_append_left ..)
  · exact List.subset_append_left ..
  · exact List.subset_append_right ..

theorem simulated_triedAbrupt (ih : Simulated edges (.block 0 body) reached ending)
    (abrupt : ending ≠ .normal) :
    Simulated edges (.tried n body handlers orelse) (reached.map (.inside n .body)) ending := by
  intro jumps next finalBody hnext htried _ _
  have h := ih jumps (next + 1) [next] htried (.of_alive hnext)
  refine ⟨(h.marked.under .body).mono ?_, fun hn => absurd hn abrupt, h.broke⟩
  exact List.subset_append_of_subset_left _ (List.subset_append_left ..)

theorem simulated_triedInterrupted (ih : Simulated edges (.block 0 body) reached .paused) :
    Simulated edges (.tried n body handlers orelse) (reached.map (.inside n .body)) .raised := by
  intro jumps next finalBody hnext htried _ _
  have h := ih jumps (next + 1) [next] htried (.of_alive hnext)
  refine .of_marked ((h.marked.under .body).mono ?_) (.inr (.inl rfl))
  exact List.subset_append_of_subset_left _ (List.subset_append_left ..)

theorem simulated_triedCaught {k : Nat} {handler : Handler} {last : Ending}
    (ih : Simulated edges (.block 0 body) reached ending) (handles : handlers[k]? = some handler)
    (ih' : Simulated edges (.block 0 handler.body) later last) :
    Simulated edges (.tried n body handlers orelse)
      (reached.map (.inside n .body) ++ later.map (.inside n (.handler k))) last := by
  intro jumps next finalBody hnext htried _ hhandled
  have h := ih jumps (next + 1) [next] htried (.of_alive hnext)
  rw [triedHandled_eq] at hhandled ⊢
  obtain ⟨first, hedges, houts, hslots⟩ := exists_handlerPiece _ 0 handles
  have h' := ih' jumps first [next] (List.Subset.trans hedges hhandled) (.of_alive hnext)
  rw [Nat.zero_add] at hslots
  refine ⟨Marked.append ((h.marked.under .body).mono ?_) ((h'.marked.under _).mono ?_),
    fun hn => ?_, h'.broke⟩
  · exact List.subset_append_of_subset_left _ (List.subset_append_left ..)
  · exact List.subset_append_of_subset_right _ hslots
  · exact (h'.normal hn).mono (List.subset_append_of_subset_right _ houts)

theorem simulated_tryPaused (ih : Simulated edges (.tried n body handlers orelse) reached .paused) :
    Simulated edges (.statement n (.tryBlock line body handlers orelse finalBody))
      (.here n :: reached) .paused := by
  intro jumps next preds hsub hpreds
  have hparts := subset_tryBlock hsub
  simp only [List.append_subset] at hparts
  obtain ⟨⟨⟨⟨⟨hhead, htried⟩, hnormal⟩, hhandled⟩, -⟩, -⟩ := hparts
  have hnext : Alive edges next := hpreds.alive hhead
  have h := ih jumps next finalBody hnext htried hnormal hhandled
  exact .of_marked (.cons hnext (h.marked.mono (List.subset_append_left ..))) (.inl rfl)

/-- A `try` statement ends as its `finally` does, or as was pending. -/
theorem resume_cases (pending last : Ending) :
    (last = .normal ∧ pending.resume last = pending)
      ∨ (last ≠ .normal ∧ pending.resume last = last) := by
  cases last <;> simp [Ending.resume]

theorem simulated_tryFinally {pending last : Ending}
    (ih : Simulated edges (.tried n body handlers orelse) reached pending)
    (ih' : Simulated edges (.block 0 finalBody) later last) :
    Simulated edges (.statement n (.tryBlock line body handlers orelse finalBody))
      (.here n :: (reached ++ later.map (.inside n .final))) (pending.resume last) := by
  intro jumps next preds hsub hpreds
  have hparts := subset_tryBlock hsub
  simp only [List.append_subset] at hparts
  obtain ⟨⟨⟨⟨⟨hhead, htried⟩, hnormal⟩, hhandled⟩, hjoin⟩, hlast⟩ := hparts
  have hnext : Alive edges next := hpreds.alive hhead
  have h := ih jumps next finalBody hnext htried hnormal hhandled
  -- however the parts before it end, `finally` is entered from the `try` node itself
  have hentry : Entered edges
      [(tryPieces jumps next body handlers orelse finalBody).join, next] :=
    ⟨next, List.mem_cons_of_mem _ (List.mem_singleton.mpr rfl), hnext⟩
  rw [tryLast_eq] at hlast
  have h' := ih' jumps _ _ hlast hentry
  refine ⟨.cons hnext ?_, fun hn => ?_, fun hb => ?_⟩
  · exact (h.marked.mono (List.subset_append_left ..)).append
      ((h'.marked.under .final).mono (List.subset_append_right ..))
  · rcases resume_cases pending last with ⟨hlast, heq⟩ | ⟨hne, heq⟩
    · have houts := h.normal (heq ▸ hn)
      refine entered_tryBlock houts (houts.alive hjoin) ?_
      rw [tryLast_eq]
      exact h'.normal hlast
    · exact absurd (heq ▸ hn) hne
  · rcases resume_cases pending last with ⟨-, heq⟩ | ⟨-, heq⟩
    · exact h.broke (heq ▸ hb)
    · exact h'.broke (heq ▸ hb)

end Try

/-! ## Blocks -/

section Block

variable {line : Nat} {items targets : List Expr} {s : Stmt} {body : List Stmt}

theorem simulated_withBlock (ih : Simulated edges (.block 0 body) reached ending) :
    Simulated edges (.statement n (.withBlock line items targets body))
      (.here n :: reached.map (.inside n .body)) ending := by
  intro jumps next preds hsub hpreds
  unfold Piece.statement at hsub ⊢
  obtain ⟨hhead, hbody⟩ := List.append_subset.mp hsub
  have hnext : Alive edges next := hpreds.alive hhead
  have h := ih jumps (next + 1) [next] hbody (.of_alive hnext)
  exact ⟨.cons hnext (h.marked.under .body), h.normal, h.broke⟩

theorem simulated_blockDone : Simulated edges (.block n []) [] .normal :=
  fun _ _ _ _ hpreds => ⟨.nil, fun _ => hpreds, nofun⟩

theorem simulated_blockNext (ih : Simulated edges (.statement n s) reached .normal)
    (ih' : Simulated edges (.block (n + 1) body) later ending) :
    Simulated edges (.block n (s :: body)) (reached ++ later) ending := by
  intro jumps next preds hsub hpreds
  unfold Piece.block at hsub ⊢
  obtain ⟨hfirst, hrest⟩ := List.append_subset.mp hsub
  dsimp only
  rw [length_statement] at hrest ⊢
  have h := ih jumps next preds hfirst hpreds
  have h' := ih' jumps _ _ hrest (h.normal rfl)
  exact ⟨(h.marked.mono (List.subset_append_left ..)).append
    (h'.marked.mono (List.subset_append_right ..)), h'.normal, h'.broke⟩

theorem simulated_blockLeft (ih : Simulated edges (.statement n s) reached ending)
    (abrupt : ending ≠ .normal) : Simulated edges (.block n (s :: body)) reached ending := by
  intro jumps next preds hsub hpreds
  unfold Piece.block at hsub
  have h := ih jumps next preds (List.append_subset.mp hsub).1 hpreds
  exact ⟨h.marked.mono (List.subset_append_left ..), fun hn => absurd hn abrupt, h.broke⟩

end Block

/-! ## Every execution -/

/-- The graph follows every execution of every piece of program. -/
theorem Runs.simulated {code : Code} (run : Runs code reached ending) :
    Simulated edges code reached ending := by
  induction run with
  | paused => exact simulated_paused _
  | simple => exact simulated_simple (.inl rfl)
  | simpleRaises => exact simulated_simple (.inr rfl)
  | define scope => exact simulated_define scope (.inl rfl)
  | defineRaises scope => exact simulated_define scope (.inr rfl)
  | branchBody maybe _ ih => exact simulated_branchBody maybe ih
  | branchElse maybe _ ih => exact simulated_branchElse maybe ih
  | whileLoop _ ih => exact simulated_whileLoop ih
  | forLoop _ ih => exact simulated_forLoop ih
  | loopExhausted _ ih => exact simulated_loopExhausted ih
  | loopNext _ _ _ ih ih' => exact simulated_loopNext ih ih'
  | loopBroken _ ih => exact simulated_loopBroken ih
  | loopLeft _ outward ih => exact simulated_loopLeft ih outward
  | triedNormal _ _ ih ih' => exact simulated_triedNormal ih ih'
  | triedAbrupt _ abrupt ih => exact simulated_triedAbrupt ih abrupt
  | triedInterrupted _ ih => exact simulated_triedInterrupted ih
  | triedCaught _ _ handles _ ih ih' => exact simulated_triedCaught ih handles ih'
  | tryPaused _ ih => exact simulated_tryPaused ih
  | tryFinally _ _ _ ih ih' => exact simulated_tryFinally ih ih'
  | withBlock _ ih => exact simulated_withBlock ih
  | blockDone => exact simulated_blockDone
  | blockNext _ _ ih ih' => exact simulated_blockNext ih ih'
  | blockLeft _ abrupt ih => exact simulated_blockLeft ih abrupt

end Remedy.Flow
