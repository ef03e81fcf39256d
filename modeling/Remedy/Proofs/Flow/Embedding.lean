import Mathlib.Data.List.Pairwise
import Remedy.Proofs.Flow.Region

/-!
# Pieces as they stand in a graph

A piece is embedded in a graph if it is all that the graph has at the piece's nodes (`Embeds`). The
statements of a block stand where the block does (`Placed.first`, `Placed.rest`), and so do blocks
that a piece is made of, if they are apart from each other and joined only where they are left
(`Made.placed`).
-/

namespace Remedy.Flow

open Python

variable {g : Graph} {jumps : Targets} {preds : List Nat} {next : Nat}

/-! ## Embedded pieces -/

/-- A piece is all that a graph has at the numbers from `lo` up to `hi`: edges that begin there are
the piece's or begin where it is left, and edges that end there are the piece's. -/
structure Embeds (g : Graph) (p : Piece) (lo hi : Nat) : Prop where
  nodes : ∀ v node, NodeAt lo p.nodes v node → g.nodes[v]? = some node
  sub : p.edges ⊆ g.edges
  source : ∀ u v, (u, v) ∈ g.edges → lo ≤ u → u < hi → (u, v) ∈ p.edges ∨ u ∈ p.outs
  target : ∀ u v, (u, v) ∈ g.edges → lo ≤ v → v < hi → (u, v) ∈ p.edges

/-- A statement stands in a graph as its piece is made from `next` on. -/
structure PlacedOne (g : Graph) (jumps : Targets) (next : Nat) (preds : List Nat) (s : Stmt) :
    Prop where
  exits : ∀ v, jumps.JumpTo True v → v < next
  before : ∀ v ∈ preds, v < next
  embeds : Embeds g (Piece.statement jumps next preds s) next (next + statementSize s)

/-- A block stands in a graph as its piece is made from `next` on. -/
structure Placed (g : Graph) (jumps : Targets) (next : Nat) (preds : List Nat)
    (body : List Stmt) : Prop where
  exits : ∀ v, jumps.JumpTo True v → v < next
  before : ∀ v ∈ preds, v < next
  embeds : Embeds g (Piece.block jumps next preds body) next (next + blockSize body)

theorem placed_ofBody (body : List Stmt) :
    Placed (Graph.ofBody body) ⟨Graph.finishId, none⟩ 2 [Graph.startId] body where
  exits v hv := hv.of_scope ▸ Nat.lt_succ_self _
  before v hv := List.mem_singleton.mp hv ▸ Nat.zero_lt_two
  embeds := by
    refine ⟨fun v node hv => getElem?_ofBody hv, List.subset_append_left .., ?_, ?_⟩
    · intro u v he _ _
      rcases List.mem_append.mp he with he | he
      · exact .inl he
      · exact .inr (mem_edgesTo.mp he).1
    · intro u v he hv _
      rcases List.mem_append.mp he with he | he
      · exact he
      · rw [(mem_edgesTo.mp he).2] at hv
        exact absurd hv (by decide)

/-! ## Statements of a block -/

section Block

variable {s : Stmt} {body : List Stmt}

/-- A block's first statement, and the rest, which is entered where the first one is left. -/
theorem block_cons :
    Piece.block jumps next preds (s :: body) =
      ⟨(Piece.statement jumps next preds s).nodes
          ++ (Piece.block jumps (next + statementSize s)
            (Piece.statement jumps next preds s).outs body).nodes,
        (Piece.statement jumps next preds s).edges
          ++ (Piece.block jumps (next + statementSize s)
            (Piece.statement jumps next preds s).outs body).edges,
        (Piece.block jumps (next + statementSize s)
          (Piece.statement jumps next preds s).outs body).outs⟩ := by
  rw [Piece.block, length_statement]

theorem Placed.first (h : Placed g jumps next preds (s :: body)) :
    PlacedOne g jumps next preds s := by
  have hrest : Region (jumps.JumpTo True) (Piece.statement jumps next preds s).outs
      (next + statementSize s) (next + statementSize s + blockSize body)
      (Piece.block jumps (next + statementSize s) (Piece.statement jumps next preds s).outs
        body).nodes
      (Piece.block jumps (next + statementSize s) (Piece.statement jumps next preds s).outs
        body).edges :=
    region_block (fun v hv => Nat.lt_add_right _ (h.exits v hv))
      (fun v hv => (mem_outs_statement s hv).2) body
  have hsize : blockSize (s :: body) = statementSize s + blockSize body := rfl
  obtain ⟨hnodes, hsub, hsource, htarget⟩ := block_cons ▸ h.embeds
  refine ⟨h.exits, h.before, fun v node hv => hnodes v node (nodeAt_append.mpr (.inl hv)),
    (List.append_subset.mp hsub).1, fun u v he hle hlt => ?_, fun u v he hle hlt => ?_⟩
  · rcases hsource u v he hle (by omega) with he | hu
    · rcases List.mem_append.mp he with he | he
      · exact .inl he
      · exact .inr ((hrest.source u v he).resolve_right (by omega))
    · exact .inr ((mem_outs_block body hu).resolve_right (by omega))
  · rcases List.mem_append.mp (htarget u v he hle (by omega)) with he | he
    · exact he
    · rcases hrest.target u v he with hv | hv
      · omega
      · exact absurd (h.exits v hv) (Nat.not_lt_of_le hle)

theorem Placed.rest (h : Placed g jumps next preds (s :: body)) :
    Placed g jumps (next + statementSize s) (Piece.statement jumps next preds s).outs body := by
  have hfirst := region_statement h.exits h.before s
  have hsize : blockSize (s :: body) = statementSize s + blockSize body := rfl
  obtain ⟨hnodes, hsub, hsource, htarget⟩ := block_cons ▸ h.embeds
  refine ⟨fun v hv => Nat.lt_add_right _ (h.exits v hv), fun v hv => (mem_outs_statement s hv).2,
    fun v node hv => hnodes v node (nodeAt_append.mpr (.inr ?_)), (List.append_subset.mp hsub).2,
    fun u v he hle hlt => ?_, fun u v he hle hlt => ?_⟩
  · rwa [length_statement]
  · rcases hsource u v he (by omega) (by omega) with he | hu
    · rcases List.mem_append.mp he with he | he
      · rcases hfirst.source u v he with hu | hu
        · have := h.before u hu
          omega
        · omega
      · exact .inl he
    · exact .inr hu
  · rcases List.mem_append.mp (htarget u v he (by omega) (by omega)) with he | he
    · rcases hfirst.target u v he with hv | hv
      · omega
      · have := h.exits v hv
        omega
    · exact he

end Block

/-! ## Blocks of a statement -/

/-- A block of a statement as its piece is made: where its jumps go, the number of its first node,
and the nodes that it is entered from. -/
structure Room where
  part : Part
  jumps : Targets
  first : Nat
  entry : List Nat
  block : List Stmt

namespace Room

def piece (r : Room) : Piece := .block r.jumps r.first r.entry r.block

/-- The number after those of a block's nodes. -/
def last (r : Room) : Nat := r.first + blockSize r.block

/-- A number is that of a node of a block. -/
def Holds (r : Room) (v : Nat) : Prop := r.first ≤ v ∧ v < r.last

/-- The slots of a block, as slots of the block around its statement. -/
def slots (n : Nat) (r : Room) : List Slot := under n r.part (blockSlots 0 r.first r.block)

/-- Two blocks have no number in common. -/
def Apart (r r' : Room) : Prop := r.last ≤ r'.first ∨ r'.last ≤ r.first

instance : Std.Symm Apart := ⟨fun _ _ h => h.symm⟩

theorem not_holds_of_lt {r : Room} {v : Nat} (h : v < r.first) : ¬ r.Holds v :=
  fun hholds => Nat.not_le_of_lt h hholds.1

theorem not_holds_of_ge {r : Room} {v : Nat} (h : r.last ≤ v) : ¬ r.Holds v :=
  fun hholds => Nat.not_lt_of_le h hholds.2

theorem mem_outs {r : Room} {v : Nat} (h : v ∈ r.piece.outs) : v ∈ r.entry ∨ r.Holds v :=
  mem_outs_block r.block h

end Room

/-- A number is that of no node of some blocks, unless the block is left there. -/
def Clear (rooms : List Room) (v : Nat) : Prop := ∀ r ∈ rooms, r.Holds v → v ∈ r.piece.outs

/-- Blocks with nodes from `floor` up to `hi`, apart from each other, that jump to numbers before
`floor` and are entered from numbers before them, at which no block goes on inside. -/
structure Arranged (floor hi : Nat) (rooms : List Room) : Prop where
  bounds : ∀ r ∈ rooms, floor ≤ r.first ∧ r.last ≤ hi
  apart : rooms.Pairwise Room.Apart
  exits : ∀ r ∈ rooms, ∀ v, r.jumps.JumpTo True v → v < floor
  entry : ∀ r ∈ rooms, ∀ v ∈ r.entry, v < r.first ∧ Clear rooms v

/-- A piece with nodes from `lo` on is made of blocks and of edges that join them where they are
left. -/
structure Made (p : Piece) (lo : Nat) (rooms : List Room) : Prop where
  outs : ∀ v ∈ p.outs, Clear rooms v
  nodes : ∀ r ∈ rooms, ∀ v node, NodeAt r.first r.piece.nodes v node → NodeAt lo p.nodes v node
  sub : ∀ r ∈ rooms, r.piece.edges ⊆ p.edges
  edges : ∀ u v, (u, v) ∈ p.edges →
    (∃ r ∈ rooms, (u, v) ∈ r.piece.edges) ∨ Clear rooms u ∧ ∀ r ∈ rooms, ¬ r.Holds v

section Arranged

variable {p : Piece} {lo floor hi : Nat} {rooms : List Room} {r r' : Room} {u v : Nat}

namespace Arranged

theorem eq_of_holds (h : Arranged floor hi rooms) (hr : r ∈ rooms) (hr' : r' ∈ rooms)
    (hv : r.Holds v) (hv' : r'.Holds v) : r = r' := by
  by_contra hne
  have := h.apart.forall hr hr' hne
  unfold Room.Holds at hv hv'
  unfold Room.Apart at this
  omega

theorem not_holds_of_lt (h : Arranged floor hi rooms) (hv : v < floor) : ∀ r ∈ rooms, ¬ r.Holds v :=
  fun r hr => Room.not_holds_of_lt (Nat.lt_of_lt_of_le hv (h.bounds r hr).1)

theorem not_holds_of_ge (h : Arranged floor hi rooms) (hv : hi ≤ v) : ∀ r ∈ rooms, ¬ r.Holds v :=
  fun r hr => Room.not_holds_of_ge (Nat.le_trans (h.bounds r hr).2 hv)

theorem clear_of_lt (h : Arranged floor hi rooms) (hv : v < floor) : Clear rooms v :=
  fun r hr hholds => absurd hholds (h.not_holds_of_lt hv r hr)

theorem clear_of_ge (h : Arranged floor hi rooms) (hv : hi ≤ v) : Clear rooms v :=
  fun r hr hholds => absurd hholds (h.not_holds_of_ge hv r hr)

theorem clear_of_outs (h : Arranged floor hi rooms) (hr : r ∈ rooms) (hv : v ∈ r.piece.outs) :
    Clear rooms v := by
  intro r' hr' hv'
  rcases Room.mem_outs hv with hmem | hholds
  · exact (h.entry r hr v hmem).2 r' hr' hv'
  · exact h.eq_of_holds hr hr' hholds hv' ▸ hv

theorem of_entry_lt (bounds : ∀ r ∈ rooms, floor ≤ r.first ∧ r.last ≤ hi)
    (apart : rooms.Pairwise Room.Apart)
    (exits : ∀ r ∈ rooms, ∀ v, r.jumps.JumpTo True v → v < floor)
    (hentry : ∀ r ∈ rooms, ∀ v ∈ r.entry, v < floor) : Arranged floor hi rooms := by
  refine ⟨bounds, apart, exits, fun r hr v hv => ⟨?_, fun r' hr' hholds => ?_⟩⟩
  · exact Nat.lt_of_lt_of_le (hentry r hr v hv) (bounds r hr).1
  · exact absurd hholds (Room.not_holds_of_lt
      (Nat.lt_of_lt_of_le (hentry r hr v hv) (bounds r' hr').1))

end Arranged

theorem joins_of_edgesTo {sources : List Nat} {target : Nat}
    (hsources : ∀ u ∈ sources, Clear rooms u) (htarget : ∀ r ∈ rooms, ¬ r.Holds target)
    (he : (u, v) ∈ edgesTo sources target) : Clear rooms u ∧ ∀ r ∈ rooms, ¬ r.Holds v := by
  obtain ⟨hu, rfl⟩ := mem_edgesTo.mp he
  exact ⟨hsources u hu, htarget⟩

/-- Edges that lead from before a statement to its own node. -/
theorem Arranged.joins_own (h : Arranged floor hi rooms) {sources : List Nat} {target : Nat}
    (hsources : ∀ u ∈ sources, u < target) (htarget : target < floor)
    (he : (u, v) ∈ edgesTo sources target) : Clear rooms u ∧ ∀ r ∈ rooms, ¬ r.Holds v :=
  joins_of_edgesTo (fun u hu => h.clear_of_lt (Nat.lt_trans (hsources u hu) htarget))
    (h.not_holds_of_lt htarget) he

/-- The blocks of a piece stand in a graph where the piece does. -/
theorem Made.placed (h : Made p lo rooms) (ha : Arranged floor hi rooms) (hp : Embeds g p lo hi)
    (hlow : lo ≤ floor) (hr : r ∈ rooms) : Placed g r.jumps r.first r.entry r.block := by
  -- an edge of another block keeps away from this one, but for the nodes where that is entered
  have hregion (r' : Room) (hr' : r' ∈ rooms) :
      Region (r'.jumps.JumpTo True) r'.entry r'.first r'.last r'.piece.nodes r'.piece.edges :=
    region_block (fun v hv => Nat.lt_of_lt_of_le (ha.exits r' hr' v hv) (ha.bounds r' hr').1)
      (fun v hv => (ha.entry r' hr' v hv).1) r'.block
  obtain ⟨hfloor, hlast⟩ := ha.bounds r hr
  have hend : r.first + blockSize r.block = r.last := rfl
  refine ⟨fun v hv => Nat.lt_of_lt_of_le (ha.exits r hr v hv) hfloor,
    fun v hv => (ha.entry r hr v hv).1, fun v node hv => hp.nodes v node (h.nodes r hr v node hv),
    List.Subset.trans (h.sub r hr) hp.sub, fun u v he hle hlt => ?_, fun u v he hle hlt => ?_⟩
  · rcases hp.source u v he (by omega) (by omega) with he | hu
    · rcases h.edges u v he with ⟨r', hr', he⟩ | ⟨hu, -⟩
      · rcases (hregion r' hr').source u v he with hu | hu
        · exact .inr ((ha.entry r' hr' u hu).2 r hr ⟨hle, hlt⟩)
        · exact .inl (ha.eq_of_holds hr' hr hu ⟨hle, hlt⟩ ▸ he)
      · exact .inr (hu r hr ⟨hle, hlt⟩)
    · exact .inr (h.outs u hu r hr ⟨hle, hlt⟩)
  · rcases h.edges u v (hp.target u v he (by omega) (by omega)) with ⟨r', hr', he⟩ | ⟨-, hv⟩
    · rcases (hregion r' hr').target u v he with hv | hv
      · exact ha.eq_of_holds hr' hr hv ⟨hle, hlt⟩ ▸ he
      · have := ha.exits r' hr' v hv
        omega
    · exact absurd ⟨hle, hlt⟩ (hv r hr)

end Arranged

end Remedy.Flow
