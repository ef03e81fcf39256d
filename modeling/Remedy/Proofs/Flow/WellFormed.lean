import Mathlib.Data.List.Perm.Basic
import Remedy.Proofs.Flow.Heads
import Remedy.Proofs.Flow.Located
import Remedy.Proofs.Flow.Worklist

/-!
# Graphs of scopes are well formed

The graph of every scope has its edges between its nodes, `break` and `continue` lead where the
innermost loop says, and the search through it ends without leaving it
(`ofBody_wellFormed_aims_searched`).
-/

namespace Remedy.Flow

open Python
open Relation (ReflTransGen)

variable {g : Graph} {jumps : Targets} {preds : List Nat} {next : Nat} {s : Stmt} {body : List Stmt}

/-! ## Edges -/

/-- Edges join nodes of the graph, each once. Nothing leads to the start, nothing from the end. -/
structure Graph.WellFormed (g : Graph) : Prop where
  bounds : ∀ v w, w ∈ g.successors v → v < g.nodes.length ∧ w < g.nodes.length
  nodup : ∀ v, (g.successors v).Nodup
  start : ∀ v, Graph.startId ∉ g.successors v
  finish : g.successors Graph.finishId = []

theorem length_ofBody (body : List Stmt) :
    (Graph.ofBody body).nodes.length = 2 + blockSize body := by
  rw [Nat.add_comm, ← length_block ⟨Graph.finishId, none⟩ 2 [Graph.startId] body]
  rfl

theorem wellFormed_ofBody (body : List Stmt) : (Graph.ofBody body).WellFormed := by
  have hregion := region_ofBody body
  have hlength := length_ofBody body
  constructor
  case bounds =>
    intro v w hw
    have he := Graph.mem_successors.mp hw
    rw [hlength]
    constructor
    · rcases hregion.source v w he with hv | hv
      · rw [List.mem_singleton.mp hv, Graph.startId]
        omega
      · exact hv.2
    · rcases hregion.target v w he with hw | rfl
      · exact hw.2
      · rw [Graph.finishId]
        omega
  case nodup => exact fun v => nodup_eraseDups _
  case start =>
    intro v hv
    rcases hregion.target v _ (Graph.mem_successors.mp hv) with ⟨hlow, -⟩ | hfinish
    · cases hlow
    · cases hfinish
  case finish =>
    refine List.eq_nil_iff_forall_not_mem.mpr fun w hw => ?_
    exact source_ne_finish (Graph.mem_successors.mp hw) rfl

/-! ## Jumps -/

theorem PlacedOne.successors_jump {target? : Option Nat} (h : PlacedOne g jumps next preds s)
    (hpiece : Piece.statement jumps next preds s = .jump next preds s target?) :
    g.successors next = target?.toList := by
  have hembeds := h.embeds
  rw [hpiece] at hembeds
  have hmem (w : Nat) : w ∈ g.successors next ↔ w ∈ target?.toList := by
    rw [Graph.mem_successors]
    constructor
    · intro he
      have hsize := statementSize_pos s
      rcases hembeds.source next w he (Nat.le_refl _) (by omega) with he | hout
      · rcases List.mem_append.mp he with he | he
        · exact absurd (h.before next (mem_edgesTo.mp he).1) (Nat.lt_irrefl _)
        · simpa using he
      · cases hout
    · intro hw
      refine hembeds.sub (List.mem_append_right _ ?_)
      simpa using hw
  cases target? with
  | none => exact List.eq_nil_iff_forall_not_mem.mpr fun w hw => List.not_mem_nil ((hmem w).mp hw)
  | some target =>
      refine List.perm_singleton.mp ?_
      exact (List.perm_ext_iff_of_nodup (nodup_eraseDups _) (List.nodup_singleton _)).mpr hmem

/-- Where jumps of one kind lead in the graph of a scope: to the node that `target` names for the
innermost loop that has the jump in its body, by the number of that loop's node, or nowhere if there
is no such loop. -/
def Aims (body : List Stmt) (jump : Simple) (target : Nat → Nat) : Prop :=
  ∀ place line v, place.find? body = some (.simple line jump) → nodeOf? body place = some v →
    match (place.loops body).getLast? with
    | none => (Graph.ofBody body).successors v = []
    | some loop => ∃ head s, nodeOf? body loop = some head
        ∧ (Graph.ofBody body).nodes[head]? = some (.statement s) ∧ s.isLoop = true
        ∧ (Graph.ofBody body).nodes[head + 1]? = some .loopEnd
        ∧ (Graph.ofBody body).successors v = [target head]

theorem aims_ofBody {jump : Simple} {target : Nat → Nat} (aim : Nat × Nat → Nat)
    (haim : ∀ head, aim (head, head + 1) = target head)
    (hpiece : ∀ jumps next preds line, Piece.statement jumps next preds (.simple line jump)
      = .jump next preds (.simple line jump) (jumps.loop?.map aim)) : Aims body jump target := by
  intro place line v hfind hnode
  have hbody := placed_ofBody body
  obtain ⟨x, hx, rfl, rfl⟩ := nodeOf?_eq_some.mp hnode
  obtain ⟨inner, entry, rest, hlocated⟩ := hbody.locate hx
  have hwhat : x.what = .simple line jump :=
    Option.some.inj ((find_scopeSlots body x hx).symm.trans hfind)
  have hplaced := hlocated.placed.first
  rw [hwhat] at hplaced
  have hsuccessors := hplaced.successors_jump (hpiece ..)
  have haimed := hlocated.aimed
  cases hloop : (x.place.loops body).getLast? with
  | none =>
      rw [hloop] at haimed
      rw [hsuccessors, haimed]
      rfl
  | some place =>
      rw [hloop] at haimed
      obtain ⟨y, hy, rfl, hy', hinner⟩ := haimed
      obtain ⟨inner', entry', rest', hlocated'⟩ := hbody.locate hy
      refine ⟨y.node, y.what, nodeOf?_eq_some.mpr ⟨y, hy, rfl, rfl⟩,
        nodes_ofBody_iff.mpr ⟨y, hy, rfl, rfl⟩, hy', hlocated'.placed.first.loopEnd hy', ?_⟩
      rw [hsuccessors, hinner, Option.map_some, haim]
      rfl

/-! ## The search -/

/-- The search from the start ends, whichever node it looks at first, does not leave the graph, and
marks the nodes that a path from the start leads to. -/
structure Graph.Searched (g : Graph) : Prop where
  ends : Acc (fun t s => Search.Looks g.successors s t) (.init [Graph.startId])
  inside : ∀ s, ReflTransGen (Search.Looks g.successors) (.init [Graph.startId]) s →
    ∀ v, s.Knows v → v < g.nodes.length
  seen : ∀ s, ReflTransGen (Search.Looks g.successors) (.init [Graph.startId]) s →
    (∀ t, ¬ Search.Looks g.successors s t) →
    s.waiting = [] ∧ ∀ v, v ∈ s.seen ↔ ReflTransGen (fun a b => b ∈ g.successors a) Graph.startId v
  runs : ReflTransGen (Search.Looks g.successors) (.init [Graph.startId]) ⟨g.reachable, []⟩
  marks : ∀ v, v ∈ g.reachable ↔ ReflTransGen (fun a b => b ∈ g.successors a) Graph.startId v

theorem Graph.WellFormed.searched (h : g.WellFormed) (hstart : Graph.startId < g.nodes.length) :
    g.Searched := by
  have hwithin := Graph.within_successors (g := g)
  have hseen (s : Search Nat)
      (hs : ReflTransGen (Search.Looks g.successors) (.init [Graph.startId]) s)
      (hend : s.waiting = []) (v : Nat) :
      v ∈ s.seen ↔ ReflTransGen (fun a b => b ∈ g.successors a) Graph.startId v := by
    rw [(Search.sound_of_looks hs).mem_seen_iff hend]
    simp only [List.mem_singleton, exists_eq_left]
  constructor
  case ends => exact Search.acc_looks hwithin _
  case inside =>
    intro s hs v hv
    obtain ⟨u, hu, hpath⟩ := (Search.sound_of_looks hs).path v hv
    rw [List.mem_singleton] at hu
    subst hu
    cases hpath with
    | refl => exact hstart
    | tail _ hstep => exact (h.bounds _ _ hstep).2
  case seen =>
    intro s hs hend
    exact ⟨Search.waiting_eq_nil hend, hseen s hs (Search.waiting_eq_nil hend)⟩
  case runs => exact Search.looks_reach hwithin _
  case marks => exact hseen _ (Search.looks_reach hwithin _) rfl

/-- The graph of a scope is well formed. A `break` leads to where its innermost loop is left, a
`continue` to that loop's node, and the search through the graph ends and is exact. -/
theorem ofBody_wellFormed_aims_searched (body : List Stmt) :
    (Graph.ofBody body).WellFormed
      ∧ Aims body .breakLoop (· + 1) ∧ Aims body .continueLoop id
      ∧ (Graph.ofBody body).Searched := by
  refine ⟨wellFormed_ofBody body, aims_ofBody Prod.snd (fun _ => rfl) fun _ _ _ _ => rfl,
    aims_ofBody Prod.fst (fun _ => rfl) fun _ _ _ _ => rfl, (wellFormed_ofBody body).searched ?_⟩
  rw [length_ofBody, Graph.startId]
  omega

end Remedy.Flow
