import Remedy.Proofs.Flow.Region
import Remedy.Proofs.Flow.Soundness
import Remedy.Proofs.Flow.Tracing

/-!
# Every statement that cannot run is dead

Where each `finally` lets through what the graph takes for granted (`Settled`), the statements that
the graph marks reachable are those that some execution reaches, and no others. Where a `finally`
stops a `break`, or follows only open ends that nothing comes to, the graph marks what follows
although no execution gets there.
-/

namespace Remedy.Flow

open Python

variable {body rest : List Stmt} {s : Stmt} {place : Place} {n v : Nat}

/-- The live nodes of a scope are those that control can come to. -/
theorem live_of_alive {live : Nat → Prop} {code : Code} {slots : List Slot} {hi : Nat}
    (h : Traced (· = Graph.startId) [Graph.startId]
      (Targets.JumpTo ⟨Graph.finishId, none⟩ (CanEnd code .broke)) code 2 hi slots
      (Piece.block ⟨Graph.finishId, none⟩ 2 [Graph.startId] body).edges
      (Piece.block ⟨Graph.finishId, none⟩ 2 [Graph.startId] body).outs live)
    (halive : Alive (Graph.ofBody body).edges v) :
    v = Graph.startId ∨ v = Graph.finishId ∨ live v := by
  induction halive with
  | refl => exact .inl rfl
  | @tail u v _ he ih =>
      rcases List.mem_append.mp he with hedge | hedge
      · rcases ih with hu | hu | hu
        · exact .inr (.inr (h.entry u v hedge hu))
        · exact absurd hu (source_ne_finish he)
        · rcases h.step u v hedge hu with hv | hv
          · exact .inr (.inr hv)
          · exact .inr (.inl hv.of_scope)
      · exact .inr (.inl (mem_edgesTo.mp hedge).2)

/-- The graph of a scope marks exactly the statements that some execution reaches, if each `try`
statement of it is settled. -/
theorem mem_reachable_iff_reached (body : List Stmt) (place : Place) (v : Nat)
    (hsettled : ∀ s ∈ Stmt.walkScope body, Settled s) (hnode : nodeOf? body place = some v) :
    v ∈ (Graph.ofBody body).reachable ↔ Reached body place := by
  obtain ⟨x, hx, rfl, rfl⟩ := nodeOf?_eq_some.mp hnode
  constructor
  · intro hreach
    obtain ⟨live, hlive⟩ := tracedBlock body hsettled ⟨Graph.finishId, none⟩ 0 2
      (· = Graph.startId) [Graph.startId] (fun u hu => hu ▸ Nat.zero_lt_two)
      (List.forall_mem_singleton.mpr Nat.zero_lt_two)
    have hnumber := hlive.numbered x hx
    rcases live_of_alive hlive (Graph.mem_reachable_iff.mp hreach) with hstart | hfinish | hlive'
    · rw [hstart] at hnumber
      exact absurd hnumber.1 (by decide)
    · rw [hfinish] at hnumber
      exact absurd hnumber.1 (by decide)
    · exact hlive.slot x hx hlive'
  · intro hreached
    obtain ⟨y, hy, hplace, hreach⟩ := hreached.exists_slot
    rwa [List.inj_on_of_nodup_map (nodup_blockSlots 0 2 body) hy hx hplace] at hreach

/-- The statement after a `try` whose body falls through in one of its branches. -/
theorem mem_reachable_iff_reached_after_try :
    let inner : Stmt := .branch 2 (.name 2 "x") [.simple 3 (.ret none)] [.simple 5 .pass]
    let body : List Stmt := [.tryBlock 1 [inner] [] [] [.simple 7 .pass], .simple 8 .pass]
    (∀ s ∈ Stmt.walkScope body, Settled s) ∧ nodeOf? body (.here 1) = some 9
      ∧ (9 ∈ (Graph.ofBody body).reachable ↔ Reached body (.here 1)) := by
  intro inner body
  have hpass (n line : Nat) : CanEnd (.block n [.simple line .pass]) .normal :=
    .blockTail ⟨_, .simple⟩ ⟨_, .blockDone⟩
  have hinner (n : Nat) : CanEnd (.tried n [inner] [] []) .normal := by
    have hfalls : CanEnd (.statement 0 inner) .normal := (hpass 0 5).branchElse nofun
    exact .triedElse (hfalls.blockTail ⟨_, .blockDone⟩) ⟨_, .blockDone⟩
  have hsettled : ∀ s ∈ Stmt.walkScope body, Settled s := by
    have htry : Settled (.tryBlock 1 [inner] [] [] [.simple 7 .pass]) := fun _ =>
      ⟨fun n _ _ _ _ => hinner n, fun _ _ => .inl (hpass 0 7)⟩
    intro s hs
    simp only [body, inner, Stmt.walkScope, Stmt.walkOne, Stmt.walkHandlers, List.nil_append,
      List.append_nil, List.cons_append, List.mem_cons, List.not_mem_nil, or_false] at hs
    rcases hs with rfl | rfl | rfl | rfl | rfl | rfl
    · exact htry
    all_goals trivial
  have hnode : nodeOf? body (.here 1) = some 9 := by decide
  exact ⟨hsettled, hnode, mem_reachable_iff_reached body (.here 1) 9 hsettled hnode⟩

/-! ## Statements that cannot run but are marked -/

/-- Executions of a statement reach only places in it. -/
theorem Runs.number_eq {reached : List Place} {ending : Ending}
    (run : Runs (.statement n s) reached ending) (hplace : place ∈ reached) :
    place.number = n := by
  have hfollows := run.simulated ⟨Graph.finishId, none⟩ 2 [Graph.startId] (List.Subset.refl _)
    (.of_alive Relation.ReflTransGen.refl)
  obtain ⟨x, hx, rfl, -⟩ := hfollows.marked place hplace
  exact number_statementSlots x hx

/-- No execution gets past a statement that cannot end normally. -/
theorem not_reached_past (h : ¬ CanEnd (.statement 0 s) .normal) (hplace : place.number ≠ 0) :
    ¬ Reached (s :: rest) place := by
  rintro ⟨reached, ending, run, hmem⟩
  cases run with
  | paused => cases hmem
  | blockNext first => exact h ⟨_, first⟩
  | blockLeft first => exact hplace (first.number_eq hmem)

/-- A `try` statement whose body returns in either branch, with a `finally`, and a statement after
it. -/
def returnsBefore : List Stmt :=
  [.tryBlock 2 [.branch 3 (.name 3 "x") [.simple 4 (.ret (some (.const 4 (.int 1))))]
      [.simple 6 (.ret (some (.const 6 (.int 2))))]] [] []
      [.simple 8 (.expr (.call 8 (.name 8 "log") []))],
    .simple 9 (.expr (.call 9 (.name 9 "print") [.const 9 (.str "never")]))]

/-- A loop that is only left by a `break` that a `finally` overrides, and a statement after it. -/
def returnsAfter : List Stmt :=
  [.whileLoop 2 (.const 2 (.bool true))
      [.tryBlock 3 [.simple 4 .breakLoop] [] [] [.simple 6 (.ret (some (.const 6 (.int 1))))]] [],
    .simple 7 (.expr (.call 7 (.name 7 "print") [.const 7 (.str "never")]))]

/-- A block that only returns ends neither normally nor by `break`. -/
theorem not_canEnd_ret {value : Option Expr} {line : Nat} {ending : Ending}
    (ended : ending = .normal ∨ ending = .broke) :
    ¬ CanEnd (.block n [.simple line (.ret value)]) ending := by
  have hret (e : Ending) (he : e = .normal ∨ e = .broke) :
      ¬ CanEnd (.statement n (.simple line (.ret value))) e := by
    intro h
    rcases he with rfl | rfl <;> rcases h.of_simple with h | h | h <;> cases h
  intro h
  rcases h.of_block (by rcases ended with rfl | rfl <;> nofun) with h | ⟨h, -⟩
  · exact hret ending ended h
  · exact hret .normal (.inl rfl) h

/-- What follows a `try` statement is marked, though the branch in its body returns either way; what
follows a loop is marked, though `finally` returns before a `break` leaves the loop. -/
theorem marked_after_finally :
    (nodeOf? returnsBefore (.here 1) = some 9 ∧ 9 ∈ (Graph.ofBody returnsBefore).reachable
        ∧ ¬ Reached returnsBefore (.here 1))
      ∧ nodeOf? returnsAfter (.here 1) = some 8 ∧ 8 ∈ (Graph.ofBody returnsAfter).reachable
        ∧ ¬ Reached returnsAfter (.here 1) := by
  refine ⟨⟨by decide, by decide +kernel, not_reached_past (fun h => ?_) (by decide)⟩,
    by decide, by decide +kernel, not_reached_past (fun h => ?_) (by decide)⟩
  · rcases h.of_tryBlock nofun with ⟨-, hne⟩ | ⟨htried, -⟩
    · exact hne rfl
    have hbranch : CanEnd (.statement 0 _) .normal :=
      (htried.of_tried.of_block nofun).elim id And.left
    rcases hbranch.of_branch nofun with h | h
    · exact not_canEnd_ret (.inl rfl) h
    · exact not_canEnd_ret (.inl rfl) h
  · have hbroke := (h.of_whileLoop nofun).of_loop
    rcases hbroke.of_block nofun with htry | ⟨-, hrest⟩
    · rcases htry.of_tryBlock nofun with ⟨hlast, -⟩ | ⟨-, hlast⟩
      · exact not_canEnd_ret (.inr rfl) hlast
      · exact not_canEnd_ret (.inl rfl) hlast
    · cases hrest.of_nil nofun

end Remedy.Flow
