import Mathlib.Logic.Relation
import Mathlib.Tactic.Tauto
import Remedy.Flow.Reach

/-!
# The search is exact

The search as steps between states, without fuel. A step takes any node that waits, so that what
holds of all runs holds of a search that looks first at the node that came last, and of one that
looks first at that which came first. No run goes on for ever (`Search.acc_looks`), and a run that
can go no further has seen the nodes at the end of paths and no others (`Search.Sound.mem_seen_iff`).
The search with its fuel is such a run (`Search.looks_reach`), so it finds these nodes
(`mem_reach_iff`). That its fuel is enough is a matter of counting: the nodes that wait, and the edges
of the nodes that were not seen, lose one in every step.
-/

namespace Remedy.Flow

open Relation (ReflTransGen)

variable {α : Type} {next : α → List α} {starts : List α} {v : α}

/-- A search under way: the nodes that were seen, and those that it still has to look at. -/
structure Search (α : Type) where
  seen : List α
  waiting : List α

namespace Search

variable {s t : Search α}

def init (starts : List α) : Search α := ⟨[], starts⟩

/-- The nodes that a search has come upon. -/
def Knows (s : Search α) (v : α) : Prop := v ∈ s.seen ∨ v ∈ s.waiting

/-- A step takes a node from those that wait. If it is new, what it leads to waits in its place. -/
inductive Looks (next : α → List α) : Search α → Search α → Prop
  | known {seen before after : List α} {v : α} (old : v ∈ seen) :
      Looks next ⟨seen, before ++ v :: after⟩ ⟨seen, before ++ after⟩
  | new {seen before after : List α} {v : α} (new : v ∉ seen) :
      Looks next ⟨seen, before ++ v :: after⟩ ⟨v :: seen, before ++ next v ++ after⟩

theorem Looks.first_known {seen after : List α} (old : v ∈ seen) :
    Looks next ⟨seen, v :: after⟩ ⟨seen, after⟩ := by
  have h : Looks next ⟨seen, [] ++ v :: after⟩ ⟨seen, [] ++ after⟩ := .known old
  exact h

theorem Looks.first_new {seen after : List α} (new : v ∉ seen) :
    Looks next ⟨seen, v :: after⟩ ⟨v :: seen, next v ++ after⟩ := by
  have h : Looks next ⟨seen, [] ++ v :: after⟩ ⟨v :: seen, [] ++ next v ++ after⟩ := .new new
  exact h

/-! ## What a search has seen when it ends -/

/-- What holds of every search on its way: what it knows is at the end of paths, it knows the
starts, and it knows what a node that was seen leads to. -/
structure Sound (next : α → List α) (starts : List α) (s : Search α) : Prop where
  path : ∀ v, s.Knows v → ∃ u ∈ starts, ReflTransGen (fun a b => b ∈ next a) u v
  starts : ∀ v ∈ starts, s.Knows v
  closed : ∀ v ∈ s.seen, ∀ w ∈ next v, s.Knows w

theorem sound_init (next : α → List α) (starts : List α) : (init starts).Sound next starts where
  path v hv := ⟨v, hv.resolve_left List.not_mem_nil, .refl⟩
  starts _ hv := .inr hv
  closed _ hv := absurd hv List.not_mem_nil

/-- A step comes upon what the node leads to that it takes, if that is new. -/
theorem Looks.knows_iff (h : Looks next s t) :
    (t.seen = s.seen ∧ ∀ w, t.Knows w ↔ s.Knows w)
      ∨ ∃ v, s.Knows v ∧ t.seen = v :: s.seen ∧ ∀ w, t.Knows w ↔ s.Knows w ∨ w ∈ next v := by
  cases h with
  | @known seen before after v old =>
      refine .inl ⟨rfl, fun w => ?_⟩
      have hv : w = v → w ∈ seen := fun heq => heq ▸ old
      simp only [Knows, List.mem_append, List.mem_cons]
      tauto
  | @new seen before after v new =>
      refine .inr ⟨v, .inr (List.mem_append_right _ List.mem_cons_self), rfl, fun w => ?_⟩
      simp only [Knows, List.mem_append, List.mem_cons]
      tauto

theorem Sound.step (h : s.Sound next starts) (hstep : Looks next s t) : t.Sound next starts := by
  rcases hstep.knows_iff with ⟨hseen, hknows⟩ | ⟨u, hu, hseen, hknows⟩
  · refine ⟨fun v hv => h.path v ((hknows v).mp hv), fun v hv => (hknows v).mpr (h.starts v hv),
      fun v hv w hw => ?_⟩
    exact (hknows w).mpr (h.closed v (hseen ▸ hv) w hw)
  · refine ⟨fun v hv => ?_, fun v hv => (hknows v).mpr (.inl (h.starts v hv)),
      fun v hv w hw => (hknows w).mpr ?_⟩
    · rcases (hknows v).mp hv with hv | hv
      · exact h.path v hv
      · obtain ⟨start, hstart, hpath⟩ := h.path u hu
        exact ⟨start, hstart, hpath.tail hv⟩
    · rw [hseen] at hv
      rcases List.mem_cons.mp hv with rfl | hv
      · exact .inr hw
      · exact .inl (h.closed v hv w hw)

/-- What holds of a search on its way holds after any number of steps. -/
theorem sound_of_looks (h : ReflTransGen (Looks next) (init starts) s) :
    s.Sound next starts := by
  induction h with
  | refl => exact sound_init next starts
  | tail _ hstep ih => exact ih.step hstep

theorem waiting_eq_nil (h : ∀ t, ¬ Looks next s t) : s.waiting = [] := by
  obtain ⟨seen, waiting⟩ := s
  cases waiting with
  | nil => rfl
  | cons v after =>
      by_cases hv : v ∈ seen
      · exact absurd (Looks.first_known hv) (h _)
      · exact absurd (Looks.first_new hv) (h _)

/-- A search that has ended has seen the nodes at the end of paths and no others. -/
theorem Sound.mem_seen_iff (h : s.Sound next starts) (hend : s.waiting = []) :
    v ∈ s.seen ↔ ∃ u ∈ starts, ReflTransGen (fun a b => b ∈ next a) u v := by
  have hknows (w : α) (hw : s.Knows w) : w ∈ s.seen := by
    rw [Knows, hend] at hw
    exact hw.resolve_right List.not_mem_nil
  constructor
  · exact fun hv => h.path v (.inl hv)
  · rintro ⟨u, hu, hpath⟩
    induction hpath with
    | refl => exact hknows u (h.starts u hu)
    | tail _ hstep ih => exact hknows _ (h.closed _ ih _ hstep)

end Search

/-! ## Every search ends -/

variable [DecidableEq α] {pairs : List (α × α)}

/-- The number of edges that begin at nodes that were not seen. -/
def untouched (pairs : List (α × α)) (seen : List α) : Nat := pairs.countP fun e => e.1 ∉ seen

theorem untouched_nil : untouched pairs [] = pairs.length := by
  simp [untouched]

theorem untouched_cons (pairs : List (α × α)) {v : α} {seen : List α} (hv : v ∉ seen) :
    pairs.countP (·.1 = v) + untouched pairs (v :: seen) = untouched pairs seen := by
  unfold untouched
  induction pairs with
  | nil => rfl
  | cons e pairs ih =>
      rw [List.countP_cons, List.countP_cons, List.countP_cons, ← ih]
      by_cases he : e.1 = v
      · simp [he, hv]
        omega
      · simp [he]
        omega

/-- A step function has at most the edges of a list. -/
def Within (next : α → List α) (pairs : List (α × α)) : Prop :=
  ∀ v, (next v).length ≤ pairs.countP (·.1 = v)

namespace Search

variable {s t : Search α}

/-- How many steps a search can still take: one for each node that waits, and one for each edge of a
node that it has not seen. -/
def cost (pairs : List (α × α)) (s : Search α) : Nat := s.waiting.length + untouched pairs s.seen

theorem Looks.cost_lt (hnext : Within next pairs) (h : Looks next s t) :
    t.cost pairs < s.cost pairs := by
  cases h with
  | known old =>
      simp only [cost, List.length_append, List.length_cons]
      omega
  | @new seen before after v new =>
      have hedges := untouched_cons pairs new
      have hlength := hnext v
      simp only [cost, List.length_append, List.length_cons]
      omega

/-- No search goes on for ever. -/
theorem acc_looks (hnext : Within next pairs) (s : Search α) :
    Acc (fun t s => Looks next s t) s :=
  Subrelation.accessible (fun h => h.cost_lt hnext) ((measure (cost pairs)).wf.apply s)

/-- With enough fuel, the search that looks first at what came first runs to its end. -/
theorem looks_explore (hnext : Within next pairs) {fuel : Nat} (s : Search α)
    (hfuel : s.cost pairs < fuel) :
    ReflTransGen (Looks next) s ⟨explore next fuel s.seen s.waiting, []⟩ := by
  induction fuel generalizing s with
  | zero => omega
  | succ fuel ih =>
      obtain ⟨seen, waiting⟩ := s
      cases waiting with
      | nil => exact .refl
      | cons v rest =>
          rw [explore]
          split
          · rename_i hv
            have hstep : Looks next ⟨seen, v :: rest⟩ ⟨seen, rest⟩ := .first_known hv
            have := hstep.cost_lt hnext
            exact .head hstep (ih ⟨seen, rest⟩ (by omega))
          · rename_i hv
            have hstep : Looks next ⟨seen, v :: rest⟩ ⟨v :: seen, next v ++ rest⟩ :=
              .first_new hv
            have := hstep.cost_lt hnext
            exact .head hstep (ih ⟨v :: seen, next v ++ rest⟩ (by omega))

theorem looks_reach (hnext : Within next pairs) (starts : List α) :
    ReflTransGen (Looks next) (init starts) ⟨reach next pairs.length starts, []⟩ := by
  refine looks_explore hnext (init starts) ?_
  have hpairs : untouched pairs (init starts).seen = pairs.length := untouched_nil
  rw [cost, hpairs]
  exact Nat.lt_succ_self _

end Search

/-- The nodes that are found are those at the end of paths. -/
theorem mem_reach_iff (hnext : Within next pairs) :
    v ∈ reach next pairs.length starts ↔
      ∃ u ∈ starts, ReflTransGen (fun a b => b ∈ next a) u v :=
  (Search.sound_of_looks (Search.looks_reach hnext starts)).mem_seen_iff rfl

end Remedy.Flow
