import Remedy.Proofs.Flow.Pieces

/-!
# Statements are regions of the graph

The nodes of a statement are numbered one after the other, its own node first, and control enters
them from outside only at that node and only from before (`Region.enclosed`). Edges ascend, but for
jumps, which go to the node of a loop, to the place where a loop is left, or out of the scope
(`Region.turns`).
-/

namespace Remedy.Flow

open Python

variable {jumps : Targets} {preds : List Nat} {n next line : Nat}

/-! ## Regions -/

/-- Nodes that are numbered from `lo` on have some node at number `v`. -/
def NodeAt (lo : Nat) (nodes : List Node) (v : Nat) (node : Node) : Prop :=
  ∃ i, v = lo + i ∧ nodes[i]? = some node

theorem nodeAt_nil {lo v : Nat} {node : Node} : ¬ NodeAt lo [] v node := by
  rintro ⟨i, -, hi⟩
  cases hi

theorem nodeAt_cons {lo v : Nat} {first node : Node} {nodes : List Node} :
    NodeAt lo (first :: nodes) v node
      ↔ (v = lo ∧ first = node) ∨ NodeAt (lo + 1) nodes v node :=
  exists_index_cons

theorem nodeAt_append {lo v : Nat} {node : Node} {a b : List Node} :
    NodeAt lo (a ++ b) v node ↔ NodeAt lo a v node ∨ NodeAt (lo + a.length) b v node := by
  induction a generalizing lo with
  | nil => simp [nodeAt_nil]
  | cons first a ih =>
      have hnext : lo + (a.length + 1) = lo + 1 + a.length := by omega
      rw [List.cons_append, nodeAt_cons, nodeAt_cons, ih, List.length_cons, hnext, or_assoc]

theorem NodeAt.bounds {lo v : Nat} {node : Node} {nodes : List Node} (h : NodeAt lo nodes v node) :
    lo ≤ v ∧ v < lo + nodes.length := by
  obtain ⟨i, rfl, hi⟩ := h
  have := (List.getElem?_eq_some_iff.mp hi).1
  omega

/-- Nodes from `lo` up to `hi` with edges that come from them or from `preds`, and lead to them or
out of them by `exits`. -/
structure Region (exits : Nat → Prop) (preds : List Nat) (lo hi : Nat) (nodes : List Node)
    (edges : List (Nat × Nat)) : Prop where
  length : lo + nodes.length = hi
  source : ∀ u v, (u, v) ∈ edges → u ∈ preds ∨ lo ≤ u ∧ u < hi
  target : ∀ u v, (u, v) ∈ edges → lo ≤ v ∧ v < hi ∨ exits v
  /-- An edge that does not ascend goes out, to the end of a loop or to a statement. -/
  turns : ∀ u v, (u, v) ∈ edges → u < v ∨ exits v ∨ NodeAt lo nodes v .loopEnd ∧ v < u
    ∨ ∃ s, NodeAt lo nodes v (.statement s)
  size : ∀ h s, NodeAt lo nodes h (.statement s) → h + statementSize s ≤ hi
  /-- A statement is entered at its own node, from before. -/
  enclosed : ∀ h s, NodeAt lo nodes h (.statement s) → ∀ u v, (u, v) ∈ edges →
    h ≤ v → v < h + statementSize s → h ≤ u ∧ u < h + statementSize s ∨ v = h ∧ u < h

namespace Region

variable {exits outside : Nat → Prop} {outs : List Nat} {lo mid hi : Nat} {nodes others : List Node}
  {edges further : List (Nat × Nat)}

theorem empty : Region exits preds lo lo [] [] where
  length := rfl
  source := nofun
  target := nofun
  turns := nofun
  size _ _ h := absurd h nodeAt_nil
  enclosed _ _ h := absurd h nodeAt_nil

theorem mono {entries : List Nat} (h : Region exits preds lo hi nodes edges)
    (hexits : ∀ v, exits v → outside v) (hpreds : ∀ v ∈ preds, v ∈ entries) :
    Region outside entries lo hi nodes edges where
  length := h.length
  source u v he := (h.source u v he).imp_left (hpreds u)
  target u v he := (h.target u v he).imp_right (hexits v)
  turns u v he := (h.turns u v he).imp_right (Or.imp_left (hexits v))
  size := h.size
  enclosed := h.enclosed

/-- Two regions side by side, the second of them entered from the first. -/
theorem append (h : Region exits preds lo mid nodes edges)
    (h' : Region exits outs mid hi others further)
    (hexits : ∀ v, exits v → v < lo) (houts : ∀ v ∈ outs, v ∈ preds ∨ lo ≤ v ∧ v < mid) :
    Region exits preds lo hi (nodes ++ others) (edges ++ further) := by
  have hlo := h.length
  have hhi := h'.length
  have hat {v : Nat} {node : Node} : NodeAt lo (nodes ++ others) v node ↔
      NodeAt lo nodes v node ∨ NodeAt mid others v node := by
    rw [nodeAt_append, hlo]
  constructor
  case length =>
    rw [List.length_append]
    omega
  case source =>
    intro u v he
    rcases List.mem_append.mp he with he | he
    · rcases h.source u v he with hu | hu
      · exact .inl hu
      · exact .inr (by omega)
    · rcases h'.source u v he with hu | hu
      · rcases houts u hu with hu | hu
        · exact .inl hu
        · exact .inr (by omega)
      · exact .inr (by omega)
  case target =>
    intro u v he
    rcases List.mem_append.mp he with he | he
    · exact (h.target u v he).imp_left fun hv => by omega
    · exact (h'.target u v he).imp_left fun hv => by omega
  case turns =>
    intro u v he
    simp only [hat]
    rcases List.mem_append.mp he with he | he
    · rcases h.turns u v he with hv | hv | hv | ⟨s, hv⟩
      · exact .inl hv
      · exact .inr (.inl hv)
      · exact .inr (.inr (.inl ⟨.inl hv.1, hv.2⟩))
      · exact .inr (.inr (.inr ⟨s, .inl hv⟩))
    · rcases h'.turns u v he with hv | hv | hv | ⟨s, hv⟩
      · exact .inl hv
      · exact .inr (.inl hv)
      · exact .inr (.inr (.inl ⟨.inr hv.1, hv.2⟩))
      · exact .inr (.inr (.inr ⟨s, .inr hv⟩))
  case size =>
    intro v s hv
    rcases hat.mp hv with hv | hv
    · have := h.size v s hv
      omega
    · exact h'.size v s hv
  case enclosed =>
    -- an edge of one of them does not enter the other but by `exits`, which are before both
    intro v s hv a b he hle hlt
    rcases hat.mp hv with hv | hv
    · have hbounds := hv.bounds
      have hsize := h.size v s hv
      rcases List.mem_append.mp he with he | he
      · exact h.enclosed v s hv a b he hle hlt
      · rcases h'.target a b he with hb | hb
        · omega
        · have := hexits b hb
          omega
    · have hbounds := hv.bounds
      rcases List.mem_append.mp he with he | he
      · rcases h.target a b he with hb | hb
        · omega
        · have := hexits b hb
          omega
      · exact h'.enclosed v s hv a b he hle hlt

/-- Edges that leave a region. -/
theorem leave (h : Region exits preds lo hi nodes edges) (hexits : ∀ v, exits v → v < lo)
    (hsource : ∀ u v, (u, v) ∈ further → u ∈ preds ∨ lo ≤ u ∧ u < hi)
    (htarget : ∀ u v, (u, v) ∈ further → exits v) :
    Region exits preds lo hi nodes (edges ++ further) where
  length := h.length
  source u v he := (List.mem_append.mp he).elim (h.source u v) (hsource u v)
  target u v he := (List.mem_append.mp he).elim (h.target u v) fun he => .inr (htarget u v he)
  turns u v he :=
    (List.mem_append.mp he).elim (h.turns u v) fun he => .inr (.inl (htarget u v he))
  size := h.size
  enclosed v s hv a b he hle hlt := by
    rcases List.mem_append.mp he with he | he
    · exact h.enclosed v s hv a b he hle hlt
    · have := hexits b (htarget a b he)
      have := hv.bounds
      omega

/-- The node where several ends come together. -/
theorem join (hpreds : ∀ v ∈ preds, v < lo) :
    Region exits preds lo (lo + 1) [.join] (edgesTo preds lo) where
  length := rfl
  source u v he := .inl (mem_edgesTo.mp he).1
  target u v he := by
    obtain ⟨-, rfl⟩ := mem_edgesTo.mp he
    exact .inl ⟨Nat.le_refl _, Nat.lt_succ_self _⟩
  turns u v he := by
    obtain ⟨hu, rfl⟩ := mem_edgesTo.mp he
    exact .inl (hpreds u hu)
  size v s hv := by
    rcases nodeAt_cons.mp hv with ⟨-, hnode⟩ | hv
    · cases hnode
    · exact absurd hv nodeAt_nil
  enclosed v s hv := by
    rcases nodeAt_cons.mp hv with ⟨-, hnode⟩ | hv
    · cases hnode
    · exact absurd hv nodeAt_nil

/-- Where control goes from the blocks of a statement whose own node is `next`: outwards, to that
node, or to the end of a loop, which is among the nodes right after it. -/
def Around (exits : Nat → Prop) (next : Nat) (ends : List Node) (v : Nat) : Prop :=
  exits v ∨ v = next ∨ NodeAt (next + 1) ends v .loopEnd

theorem lt_of_around {ends : List Node} {v : Nat} (h : Around exits next ends v)
    (hexits : ∀ v, exits v → v < next) : v < next + 1 + ends.length := by
  rcases h with hv | rfl | hv
  · have := hexits v hv
    omega
  · omega
  · exact hv.bounds.2

/-- The nodes of a statement: its own, for a loop the place where it is left, and those of its
blocks, which are entered from its own. -/
theorem own {s : Stmt} (ends : List Node) (hends : ∀ node ∈ ends, node = .loopEnd)
    (h : Region (Around exits next ends) [next] (next + 1 + ends.length) hi nodes edges)
    (hexits : ∀ v, exits v → v < next) (hpreds : ∀ v ∈ preds, v < next)
    (hsize : hi = next + statementSize s) :
    Region exits preds next hi (.statement s :: (ends ++ nodes)) (edgesTo preds next ++ edges) := by
  have hlength := h.length
  have hat {v : Nat} {node : Node} : NodeAt next (.statement s :: (ends ++ nodes)) v node ↔
      (v = next ∧ .statement s = node) ∨ NodeAt (next + 1) ends v node
        ∨ NodeAt (next + 1 + ends.length) nodes v node := by
    rw [nodeAt_cons, nodeAt_append]
  have hsource (u v : Nat) (he : (u, v) ∈ edges) : next ≤ u ∧ u < hi := by
    rcases h.source u v he with hu | hu
    · obtain rfl := List.mem_singleton.mp hu
      omega
    · omega
  have hnone {v : Nat} {t : Stmt} : ¬ NodeAt (next + 1) ends v (.statement t) := by
    rintro ⟨i, -, hi⟩
    cases hends _ (List.mem_of_getElem? hi)
  constructor
  case length =>
    rw [List.length_cons, List.length_append]
    omega
  case source =>
    intro u v he
    rcases List.mem_append.mp he with he | he
    · exact .inl (mem_edgesTo.mp he).1
    · exact .inr (hsource u v he)
  case target =>
    intro u v he
    rcases List.mem_append.mp he with he | he
    · obtain ⟨-, rfl⟩ := mem_edgesTo.mp he
      exact .inl (by omega)
    · rcases h.target u v he with hv | hv | rfl | hv
      · exact .inl (by omega)
      · exact .inr hv
      · exact .inl (by omega)
      · have := hv.bounds
        exact .inl (by omega)
  case turns =>
    intro u v he
    simp only [hat]
    rcases List.mem_append.mp he with he | he
    · obtain ⟨hu, rfl⟩ := mem_edgesTo.mp he
      exact .inl (hpreds u hu)
    · rcases h.turns u v he with hv | (hv | rfl | hv) | hv | ⟨t, hv⟩
      · exact .inl hv
      · exact .inr (.inl hv)
      · exact .inr (.inr (.inr ⟨s, .inl ⟨rfl, rfl⟩⟩))
      · -- only the node of the loop is before its end
        have hbounds := hv.bounds
        rcases h.source u v he with hu | hu
        · obtain rfl := List.mem_singleton.mp hu
          exact .inl (by omega)
        · exact .inr (.inr (.inl ⟨.inr (.inl hv), by omega⟩))
      · exact .inr (.inr (.inl ⟨.inr (.inr hv.1), hv.2⟩))
      · exact .inr (.inr (.inr ⟨t, .inr (.inr hv)⟩))
  case size =>
    intro v t hv
    rcases hat.mp hv with ⟨rfl, heq⟩ | hv | hv
    · cases heq
      exact Nat.le_of_eq hsize.symm
    · exact absurd hv hnone
    · exact h.size v t hv
  case enclosed =>
    intro v t hv a b he hle hlt
    rcases hat.mp hv with ⟨rfl, heq⟩ | hv | hv
    · cases heq
      rcases List.mem_append.mp he with he | he
      · obtain ⟨ha, rfl⟩ := mem_edgesTo.mp he
        exact .inr ⟨rfl, hpreds a ha⟩
      · have := hsource a b he
        exact .inl (by omega)
    · exact absurd hv hnone
    · rcases List.mem_append.mp he with he | he
      · obtain ⟨-, rfl⟩ := mem_edgesTo.mp he
        have := hv.bounds
        omega
      · exact h.enclosed v t hv a b he hle hlt

end Region

/-! ## Regions of pieces -/

/-- A statement that makes a single node. -/
theorem region_single (s : Stmt) (outward : List (Nat × Nat)) (hsize : statementSize s = 1)
    (hexits : ∀ v, jumps.JumpTo True v → v < next) (hpreds : ∀ v ∈ preds, v < next)
    (houtward : ∀ u v, (u, v) ∈ outward → u = next ∧ jumps.JumpTo True v) :
    Region (jumps.JumpTo True) preds next (next + statementSize s) [.statement s]
      (edgesTo preds next ++ outward) := by
  refine Region.own [] (List.forall_mem_nil _) ?_ hexits hpreds rfl
  rw [hsize]
  have hempty : Region (Region.Around (jumps.JumpTo True) next []) [next] (next + 1) (next + 1)
      [] [] := .empty
  refine hempty.leave ?_ ?_ ?_
  · exact fun v hv => Region.lt_of_around hv hexits
  · intro u v he
    exact .inl (List.mem_singleton.mpr (houtward u v he).1)
  · intro u v he
    exact .inl (houtward u v he).2

section Loop

variable {s : Stmt} {forever : Bool} {body orelse : List Stmt}

theorem nodeAt_loopEnd : NodeAt (next + 1) [.loopEnd] (next + 1) .loopEnd :=
  nodeAt_cons.mpr (.inl ⟨rfl, rfl⟩)

/-- The body of a loop, from which control goes back to the loop's node. -/
theorem region_loopBody (hexits : ∀ v, jumps.JumpTo True v → v < next)
    (hbody : Region (Targets.JumpTo { jumps with loop? := some (next, next + 1) } True) [next]
      (next + 2) (next + 2 + blockSize body) (loopBody jumps next body).nodes
      (loopBody jumps next body).edges) :
    Region (Region.Around (jumps.JumpTo True) next [.loopEnd]) [next] (next + 2)
      (next + 2 + blockSize body) (loopBody jumps next body).nodes
      ((loopBody jumps next body).edges ++ edgesTo (loopBody jumps next body).outs next) := by
  refine (hbody.mono (fun v hv => ?_) fun _ h => h).leave
    (fun v hv => Region.lt_of_around hv hexits) (fun u v he => ?_) fun u v he => ?_
  · rcases hv.of_loop with rfl | rfl | ⟨rfl, -⟩
    · exact .inl (.inl rfl)
    · exact .inr (.inl rfl)
    · exact .inr (.inr nodeAt_loopEnd)
  · exact mem_outs_block body (mem_edgesTo.mp he).1
  · exact .inr (.inl (mem_edgesTo.mp he).2)

/-- The `else` block of a loop, from which control goes to the loop's end. -/
theorem region_loopAfter (hexits : ∀ v, jumps.JumpTo True v → v < next)
    (horelse : Region (jumps.JumpTo True) [next] (next + 2 + blockSize body)
      (next + 2 + blockSize body + blockSize orelse) (loopElse jumps next body orelse).nodes
      (loopElse jumps next body orelse).edges) :
    Region (Region.Around (jumps.JumpTo True) next [.loopEnd]) [next] (next + 2 + blockSize body)
      (next + 2 + blockSize body + if forever then 0 else blockSize orelse)
      (loopAfter jumps next forever body orelse).nodes
      ((loopAfter jumps next forever body orelse).edges
        ++ edgesTo (loopAfter jumps next forever body orelse).outs (next + 1)) := by
  cases forever with
  | true => exact .empty
  | false =>
      refine (horelse.mono (fun v hv => Or.inl hv) fun _ h => h).leave (fun v hv => ?_)
        (fun u v he => ?_) fun u v he => ?_
      · have := Region.lt_of_around hv hexits
        exact Nat.lt_add_right _ this
      · exact mem_outs_block orelse (mem_edgesTo.mp he).1
      · obtain ⟨-, rfl⟩ := mem_edgesTo.mp he
        exact .inr (.inr nodeAt_loopEnd)

/-- A loop, given its body and its `else` block. -/
theorem region_loop
    (hsize : statementSize s = 2 + blockSize body + if forever then 0 else blockSize orelse)
    (hexits : ∀ v, jumps.JumpTo True v → v < next) (hpreds : ∀ v ∈ preds, v < next)
    (hbody : Region (Targets.JumpTo { jumps with loop? := some (next, next + 1) } True) [next]
      (next + 2) (next + 2 + blockSize body) (loopBody jumps next body).nodes
      (loopBody jumps next body).edges)
    (horelse : Region (jumps.JumpTo True) [next] (next + 2 + blockSize body)
      (next + 2 + blockSize body + blockSize orelse) (loopElse jumps next body orelse).nodes
      (loopElse jumps next body orelse).edges) :
    Region (jumps.JumpTo True) preds next (next + statementSize s)
      (loopPiece jumps next preds s forever body orelse).nodes
      (loopPiece jumps next preds s forever body orelse).edges := by
  refine Region.own [.loopEnd] (List.forall_mem_singleton.mpr rfl) ?_ hexits hpreds rfl
  rw [hsize, ← Nat.add_assoc, ← Nat.add_assoc]
  exact (region_loopBody hexits hbody).append (region_loopAfter hexits horelse)
    (fun v hv => Region.lt_of_around hv hexits) fun v hv => .inl hv

end Loop

theorem lt_of_jumpTo_loop {breaks : Prop} {v : Nat}
    (hexits : ∀ v, jumps.JumpTo True v → v < next)
    (h : Targets.JumpTo { jumps with loop? := some (next, next + 1) } breaks v) : v < next + 2 := by
  rcases h.of_loop with rfl | rfl | ⟨rfl, -⟩
  · exact Nat.lt_add_right 2 (hexits _ (.inl rfl))
  · omega
  · omega

/-- A branch, given its blocks. -/
theorem region_branch {test : Expr} {body orelse : List Stmt}
    (hexits : ∀ v, jumps.JumpTo True v → v < next) (hpreds : ∀ v ∈ preds, v < next)
    (hbody : Region (jumps.JumpTo True)
      (if test.literal?.map Literal.truthy = some false then [] else [next]) (next + 1)
      (next + 1 + blockSize body) (branchBody jumps next test body).nodes
      (branchBody jumps next test body).edges)
    (horelse : Region (jumps.JumpTo True)
      (if test.literal?.map Literal.truthy = some true then [] else [next])
      (next + 1 + blockSize body) (next + 1 + blockSize body + blockSize orelse)
      (branchElse jumps next test body orelse).nodes
      (branchElse jumps next test body orelse).edges) :
    Region (jumps.JumpTo True) preds next (next + statementSize (.branch line test body orelse))
      (Piece.statement jumps next preds (.branch line test body orelse)).nodes
      (Piece.statement jumps next preds (.branch line test body orelse)).edges := by
  have hafter (v : Nat) (hv : jumps.JumpTo True v) : v < next + 1 :=
    Nat.lt_succ_of_lt (hexits v hv)
  have hself {p : Prop} [Decidable p] (v : Nat) (hv : v ∈ if p then [] else [next]) :
      v ∈ [next] := List.mem_singleton.mpr (mem_arm hv)
  have hsize : next + statementSize (.branch line test body orelse)
      = next + 1 + blockSize body + blockSize orelse + 1 := by
    unfold statementSize
    omega
  have hboth := (hbody.mono (fun _ h => h) hself).append (horelse.mono (fun _ h => h) hself) hafter
    fun v hv => .inl hv
  rw [statement_branch, hsize]
  refine Region.own [] (List.forall_mem_nil _) ?_ hexits hpreds hsize.symm
  refine Region.mono ?_ (fun v hv => .inl hv) fun _ h => h
  refine hboth.append (.join fun v hv => (mem_outs_branch hv).2) hafter fun v hv => ?_
  have := mem_outs_branch hv
  rw [List.mem_singleton]
  omega

section Try

variable {body orelse finalBody : List Stmt} {handlers : List Handler}

/-- A `try` statement, given the pieces that it is made of. -/
theorem region_tryBlock {p : TryPieces}
    (hp : p = tryPieces jumps next body handlers orelse finalBody)
    (hexits : ∀ v, jumps.JumpTo True v → v < next) (hpreds : ∀ v ∈ preds, v < next)
    (htried : Region (jumps.JumpTo True) [next] (next + 1) (next + 1 + blockSize body)
      p.tried.nodes p.tried.edges)
    (hnormal : Region (jumps.JumpTo True) p.tried.outs (next + 1 + blockSize body)
      (next + 1 + blockSize body + blockSize orelse) p.normal.nodes p.normal.edges)
    (hhandled : Region (jumps.JumpTo True) [next] (next + 1 + blockSize body + blockSize orelse)
      p.join p.handled.nodes p.handled.edges)
    (hlast : Region (jumps.JumpTo True) [p.join, next] (p.join + 1)
      (p.join + 1 + blockSize finalBody) p.last.nodes p.last.edges) :
    Region (jumps.JumpTo True) preds next
      (next + statementSize (.tryBlock line body handlers orelse finalBody))
      (Piece.statement jumps next preds (.tryBlock line body handlers orelse finalBody)).nodes
      (Piece.statement jumps next preds (.tryBlock line body handlers orelse finalBody)).edges := by
  have hjoin : p.join = next + 1 + blockSize body + blockSize orelse + handlersSize handlers :=
    hp ▸ join_tryPieces ..
  have hopens (v : Nat) (hv : v ∈ p.opens) : next ≤ v ∧ v < p.join := by
    subst hp
    exact mem_opens hv
  have hlasts (v : Nat) (hv : v ∈ p.last.outs) :
      next ≤ v ∧ v < p.join + 1 + blockSize finalBody := by
    subst hp
    exact mem_outs_last hv
  have htrieds (v : Nat) (hv : v ∈ p.tried.outs) :
      v ∈ [next] ∨ next + 1 ≤ v ∧ v < next + 1 + blockSize body := by
    subst hp
    exact mem_outs_tried hv
  have hafter (v : Nat) (hv : jumps.JumpTo True v) : v < next + 1 := Nat.lt_succ_of_lt (hexits v hv)
  have hsize : next + statementSize (.tryBlock line body handlers orelse finalBody)
      = p.join + 1 + blockSize finalBody := by
    unfold statementSize
    omega
  have hfront := (htried.append hnormal hafter htrieds).append hhandled hafter fun v hv => .inl hv
  have hmiddle := hfront.append (.join fun v hv => (hopens v hv).2) hafter fun v hv => by
    have := hopens v hv
    rw [List.mem_singleton]
    omega
  have hwhole := hmiddle.append hlast hafter fun v hv => by
    simp only [List.mem_cons, List.not_mem_nil, or_false] at hv ⊢
    omega
  rw [statement_tryBlock, ← hp, hsize]
  refine Region.own [] (List.forall_mem_nil _) ?_ hexits hpreds hsize.symm
  refine Region.mono ?_ (fun v hv => .inl hv) fun _ h => h
  refine hwhole.leave hafter (fun u v he => ?_) fun u v he => ?_
  · obtain ⟨hu, -⟩ := mem_edgesTo.mp he
    split at hu
    · cases hu
    · have := hlasts u hu
      rw [List.mem_singleton]
      omega
  · exact .inl (mem_edgesTo.mp he).2

end Try

mutual

/-- The nodes of a statement are a region, jumps leaving it. -/
theorem region_statement {jumps : Targets} {next : Nat} {preds : List Nat}
    (hexits : ∀ v, jumps.JumpTo True v → v < next) (hpreds : ∀ v ∈ preds, v < next) :
    (s : Stmt) → Region (jumps.JumpTo True) preds next (next + statementSize s)
      (Piece.statement jumps next preds s).nodes (Piece.statement jumps next preds s).edges
  | .simple line what => by
      rcases statement_simple jumps next preds line what with
        ⟨hpiece, -⟩ | ⟨target?, hpiece, htarget⟩
      · rw [hpiece]
        have h := region_single (.simple line what) [] rfl hexits hpreds nofun
        rwa [List.append_nil] at h
      · rw [hpiece]
        refine region_single _ _ rfl hexits hpreds fun u v he => ?_
        obtain ⟨target, htarget?, heq⟩ := Option.map_eq_some_iff.mp (Option.mem_toList.mp he)
        cases heq
        exact ⟨rfl, (htarget v htarget?).mono fun _ => trivial⟩
  | .function line name params body => by
      have h := region_single (.function line name params body) [] rfl hexits hpreds nofun
      rwa [List.append_nil] at h
  | .classDef line name body => by
      have h := region_single (.classDef line name body) [] rfl hexits hpreds nofun
      rwa [List.append_nil] at h
  | .branch line test body orelse => by
      refine region_branch hexits hpreds (region_block (fun v hv => ?_) (fun v hv => ?_) body)
        (region_block (fun v hv => ?_) (fun v hv => ?_) orelse)
      · exact Nat.lt_succ_of_lt (hexits v hv)
      · rw [mem_arm hv]
        omega
      · have := hexits v hv
        omega
      · rw [mem_arm hv]
        omega
  | .whileLoop line test body orelse => by
      rw [statement_whileLoop]
      refine region_loop rfl hexits hpreds (region_block (fun v hv => ?_) (fun v hv => ?_) body)
        (region_block (fun v hv => ?_) (fun v hv => ?_) orelse)
      · exact lt_of_jumpTo_loop hexits hv
      · exact List.mem_singleton.mp hv ▸ by omega
      · have := hexits v hv
        omega
      · exact List.mem_singleton.mp hv ▸ by omega
  | .forLoop line target iter body orelse => by
      rw [statement_forLoop]
      refine region_loop rfl hexits hpreds (region_block (fun v hv => ?_) (fun v hv => ?_) body)
        (region_block (fun v hv => ?_) (fun v hv => ?_) orelse)
      · exact lt_of_jumpTo_loop hexits hv
      · exact List.mem_singleton.mp hv ▸ by omega
      · have := hexits v hv
        omega
      · exact List.mem_singleton.mp hv ▸ by omega
  | .tryBlock line body handlers orelse finalBody => by
      have hjoin := join_tryPieces jumps next body handlers orelse finalBody
      refine region_tryBlock rfl hexits hpreds
        (region_block (fun v hv => ?_) (fun v hv => ?_) body) ?_ ?_ ?_
      · exact Nat.lt_succ_of_lt (hexits v hv)
      · exact List.mem_singleton.mp hv ▸ by omega
      · rw [triedNormal_eq]
        refine region_block (fun v hv => ?_) (fun v hv => ?_) orelse
        · have := hexits v hv
          omega
        · rcases mem_outs_tried hv with hv | hv
          · exact List.mem_singleton.mp hv ▸ by omega
          · exact hv.2
      · rw [hjoin, triedHandled_eq]
        refine region_handlers (fun v hv => ?_) (by omega) handlers
        have := hexits v hv
        omega
      · rw [tryLast_eq, hjoin]
        refine region_block (fun v hv => ?_) (fun v hv => ?_) finalBody
        · have := hexits v hv
          omega
        · simp only [List.mem_cons, List.not_mem_nil, or_false] at hv
          omega
  | .withBlock line items targets body => by
      have hsize : next + statementSize (.withBlock line items targets body)
          = next + 1 + blockSize body := (Nat.add_assoc ..).symm
      rw [statement_withBlock, hsize]
      refine Region.own [] (List.forall_mem_nil _) ?_ hexits hpreds hsize.symm
      refine (region_block (fun v hv => ?_) (fun v hv => ?_) body).mono (fun v hv => .inl hv)
        fun _ h => h
      · exact Nat.lt_succ_of_lt (hexits v hv)
      · exact List.mem_singleton.mp hv ▸ by omega

theorem region_block {jumps : Targets} {next : Nat} {preds : List Nat}
    (hexits : ∀ v, jumps.JumpTo True v → v < next) (hpreds : ∀ v ∈ preds, v < next) :
    (body : List Stmt) → Region (jumps.JumpTo True) preds next (next + blockSize body)
      (Piece.block jumps next preds body).nodes (Piece.block jumps next preds body).edges
  | [] => .empty
  | s :: body => by
      unfold Piece.block blockSize
      dsimp only
      rw [length_statement, ← Nat.add_assoc]
      refine (region_statement hexits hpreds s).append
        (region_block (fun v hv => ?_) (fun v hv => ?_) body) hexits fun v hv => ?_
      · exact Nat.lt_add_right _ (hexits v hv)
      · exact (mem_outs_statement s hv).2
      · exact .inr (mem_outs_statement s hv)

theorem region_handlers {jumps : Targets} {next source : Nat}
    (hexits : ∀ v, jumps.JumpTo True v → v < next) (hsource : source < next) :
    (handlers : List Handler) → Region (jumps.JumpTo True) [source] next
      (next + handlersSize handlers) (Piece.handlerPieces jumps next source handlers).nodes
      (Piece.handlerPieces jumps next source handlers).edges
  | [] => .empty
  | .mk line name body :: handlers => by
      unfold Piece.handlerPieces handlersSize
      dsimp only
      rw [length_block, ← Nat.add_assoc]
      refine (region_block hexits (fun v hv => ?_) body).append
        (region_handlers (fun v hv => ?_) ?_ handlers) hexits fun v hv => .inl hv
      · exact List.mem_singleton.mp hv ▸ hsource
      · exact Nat.lt_add_right _ (hexits v hv)
      · exact Nat.lt_add_right _ hsource

end

/-! ## The graph of a scope -/

section Scope

variable {body : List Stmt} {s : Stmt} {h u v : Nat}

theorem region_ofBody (body : List Stmt) :
    Region (· = Graph.finishId) [Graph.startId] 2 (2 + blockSize body)
      (Piece.block ⟨Graph.finishId, none⟩ 2 [Graph.startId] body).nodes
      (Graph.ofBody body).edges := by
  have hexits (v : Nat) (hv : Targets.JumpTo ⟨Graph.finishId, none⟩ True v) : v < 2 :=
    hv.of_scope ▸ Nat.lt_succ_self _
  refine ((region_block hexits (fun v hv => ?_) body).mono (fun v hv => hv.of_scope)
    fun _ h => h).leave (fun v hv => ?_) (fun u v he => ?_) fun u v he => ?_
  · exact List.mem_singleton.mp hv ▸ Nat.zero_lt_two
  · exact hv ▸ Nat.lt_succ_self _
  · exact mem_outs_block body (mem_edgesTo.mp he).1
  · exact (mem_edgesTo.mp he).2

theorem getElem?_ofBody {node : Node}
    (hnode : NodeAt 2 (Piece.block ⟨Graph.finishId, none⟩ 2 [Graph.startId] body).nodes v node) :
    (Graph.ofBody body).nodes[v]? = some node := by
  obtain ⟨i, rfl, hi⟩ := hnode
  rw [Nat.add_comm]
  exact hi

theorem nodeAt_ofBody (hs : (Graph.ofBody body).nodes[h]? = some (.statement s)) :
    NodeAt 2 (Piece.block ⟨Graph.finishId, none⟩ 2 [Graph.startId] body).nodes h
      (.statement s) := by
  match h, hs with
  | i + 2, hs => exact ⟨i, Nat.add_comm i 2, hs⟩

/-- An edge that does not ascend goes to the end of the scope, to that of a loop, or to a
statement. -/
theorem edges_turn (he : (u, v) ∈ (Graph.ofBody body).edges) :
    u < v ∨ v = Graph.finishId ∨ ((Graph.ofBody body).nodes[v]? = some .loopEnd ∧ v < u)
      ∨ ∃ s, (Graph.ofBody body).nodes[v]? = some (.statement s) := by
  rcases (region_ofBody body).turns u v he with h | h | ⟨h, hlt⟩ | ⟨s, h⟩
  · exact .inl h
  · exact .inr (.inl h)
  · exact .inr (.inr (.inl ⟨getElem?_ofBody h, hlt⟩))
  · exact .inr (.inr (.inr ⟨s, getElem?_ofBody h⟩))

/-- An edge into the nodes of a statement comes from one of them, or it comes from before and goes
to the statement's own. -/
theorem edges_enclosed (hs : (Graph.ofBody body).nodes[h]? = some (.statement s))
    (he : (u, v) ∈ (Graph.ofBody body).edges) (hle : h ≤ v) (hlt : v < h + statementSize s) :
    h ≤ u ∧ u < h + statementSize s ∨ v = h ∧ u < h :=
  (region_ofBody body).enclosed h s (nodeAt_ofBody hs) u v he hle hlt

theorem source_ne_finish (he : (u, v) ∈ (Graph.ofBody body).edges) : u ≠ Graph.finishId := by
  rintro rfl
  rcases (region_ofBody body).source _ v he with hu | ⟨hu, -⟩
  · cases List.mem_singleton.mp hu
  · exact absurd hu (by decide)

end Scope

end Remedy.Flow
