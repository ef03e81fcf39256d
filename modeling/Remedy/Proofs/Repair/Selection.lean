import Remedy.Proofs.Candidate.Dominance
import Remedy.Proofs.Repair.Log

/-!
# The law of a selection

Whatever the executor answers, a selection runs each candidate's own text once, scores each run against
the baseline, and ranks all of them (`selectAgainst_ranks`). It selects no candidate that another one
outdoes (`selectAgainst_not_outdone`). A clean run is preferred unless a failed one outweighs it
(`selectAgainst_prefers_iff`), which a failed run can do (`clean_run_outweighed`).
-/

namespace Remedy

namespace Repairer

open Selection (Ranks Prevails Dominates Outdoes)

/-- Selection is a stable ranking of the candidates by the runs of their texts, the best first; only
without candidates is nothing selected. -/
theorem selectAgainst_ranks (executor : Executor) (language : Language) (limits : Limits)
    (cs : List Candidate) (baseline : RunResult) (s : Session) :
    ∃ runs calls, runs.map Prod.fst = cs
      ∧ Grows executor language limits s
        (selectAgainst executor language limits cs baseline s).2 calls
      ∧ List.Forall₂ (RunOf language) runs calls
      ∧ (cs = [] ∧ (selectAgainst executor language limits cs baseline s).1 = none
        ∨ cs ≠ [] ∧ ∃ selection,
          (selectAgainst executor language limits cs baseline s).1 = some selection
            ∧ Ranks baseline (runs.map fun run => .of baseline run.1 run.2) selection
            ∧ (selection.ranked.map Scored.candidate).Perm cs) := by
  obtain ⟨runs, calls, hmap, hg, hruns, hfound⟩ :=
    selectAgainst_runs (Prod.eta (selectAgainst executor language limits cs baseline s)).symm
  refine ⟨runs, calls, hmap, hg, hruns, ?_⟩
  rw [hfound]
  cases hsel : Selection.of? baseline (runs.map fun run => .of baseline run.1 run.2) with
  | none =>
      have hnil := List.map_eq_nil_iff.mp (Selection.of?_eq_none.mp hsel)
      exact .inl ⟨by rw [← hmap, hnil, List.map_nil], rfl⟩
  | some selection =>
      have hranks := Selection.ranks_of? hsel
      refine .inr ⟨fun hnil => ?_, selection, rfl, hranks, ?_⟩
      · rw [← hmap, List.map_eq_nil_iff] at hnil
        subst hnil
        cases (Selection.of?_eq_none.mpr rfl).symm.trans hsel
      · have hperm := hranks.perm.map Scored.candidate
        rw [List.map_map] at hperm
        rwa [← hmap]

/-- Scores are monotone: a run that is at least as good as another in every respect has at least its
score, and a higher one if it is better in its end, in being a first choice or in its error lines. So
no candidate outdoes the selected one. -/
theorem selectAgainst_not_outdone (executor : Executor) (language : Language) (limits : Limits)
    (cs : List Candidate) (baseline : RunResult) (s : Session) :
    (∀ run other, Dominates baseline run other →
        (other.1.score other.2 baseline).total ≤ (run.1.score run.2 baseline).total)
      ∧ (∀ run other, Outdoes baseline run other →
        (other.1.score other.2 baseline).total < (run.1.score run.2 baseline).total)
      ∧ ∃ runs calls, runs.map Prod.fst = cs
        ∧ Grows executor language limits s
          (selectAgainst executor language limits cs baseline s).2 calls
        ∧ List.Forall₂ (RunOf language) runs calls
        ∧ (cs = [] ∧ (selectAgainst executor language limits cs baseline s).1 = none
          ∨ ∃ selection, ∃ best ∈ runs,
            (selectAgainst executor language limits cs baseline s).1 = some selection
              ∧ selection.best = .of baseline best.1 best.2
              ∧ ∀ run ∈ runs, ¬ Outdoes baseline run best) := by
  refine ⟨fun run other h => h.score_le, fun run other h => h.score_lt, ?_⟩
  obtain ⟨runs, calls, hmap, hg, hruns, hfound⟩ :=
    selectAgainst_runs (Prod.eta (selectAgainst executor language limits cs baseline s)).symm
  refine ⟨runs, calls, hmap, hg, hruns, ?_⟩
  rw [hfound]
  cases hsel : Selection.of? baseline (runs.map fun run => .of baseline run.1 run.2) with
  | none =>
      have hnil := List.map_eq_nil_iff.mp (Selection.of?_eq_none.mp hsel)
      exact .inl ⟨by rw [← hmap, hnil, List.map_nil], rfl⟩
  | some selection =>
      obtain ⟨best, hmem, hbest, hnone⟩ := (Selection.ranks_of? hsel).not_outdone
      exact .inr ⟨selection, best, hmem, rfl, hbest, hnone⟩

/-- The selected candidate ran clean exactly if some candidate did that no failed one outweighs. -/
theorem selectAgainst_prefers_iff (executor : Executor) (language : Language) (limits : Limits)
    (cs : List Candidate) (baseline : RunResult) (s : Session) :
    ∃ runs calls, runs.map Prod.fst = cs
      ∧ Grows executor language limits s
        (selectAgainst executor language limits cs baseline s).2 calls
      ∧ List.Forall₂ (RunOf language) runs calls
      ∧ ((∃ selection,
          (selectAgainst executor language limits cs baseline s).1 = some selection
            ∧ selection.best.result.succeeded = true) ↔ Prevails baseline runs) := by
  obtain ⟨runs, calls, hmap, hg, hruns, hfound⟩ :=
    selectAgainst_runs (Prod.eta (selectAgainst executor language limits cs baseline s)).symm
  refine ⟨runs, calls, hmap, hg, hruns, ?_⟩
  rw [hfound]
  constructor
  · rintro ⟨selection, hsel, clean⟩
    exact (Selection.ranks_of? hsel).best_succeeded_iff.mp clean
  · intro hprevails
    cases hsel : Selection.of? baseline (runs.map fun run => .of baseline run.1 run.2) with
    | none =>
        obtain ⟨before, run, after, rfl, -⟩ := hprevails
        simp [Selection.of?_eq_none] at hsel
    | some selection =>
        exact ⟨selection, rfl, (Selection.ranks_of? hsel).best_succeeded_iff.mpr hprevails⟩

/-! ## A clean run that is not preferred -/

/-- A program that prints something and then fails; the program that it patches only fails. -/
def noisy : Candidate := .of "noise" "" "false\n" "pwd\nfalse\n" .correctness true

/-- A program that ends well and prints nothing; its patch changes eight lines. -/
def silent : Candidate :=
  .of "loop" "" "false\n" "for i in 1 2\ndo\nif false\nthen\nexit 1\nfi\ndone\n" .correctness false

/-- The end of a program that reports no error. -/
def ended (exitCode : Int) (stdout : String) : RunResult where
  language := .shell
  status := .completed
  exitCode := exitCode
  stdout := stdout
  stderr := ""
  command := ["bash", "script.sh"]

/-- An executor for which only the silent program ends well. -/
def shell : Executor := fun _ _ _ source =>
  .ok (if source = silent.patched then ended 0 "" else ended 1 "/tmp\n")

/-- A clean run of a patch of eight lines is outweighed by a failed run of a patch of one. -/
theorem clean_run_outweighed :
    ∃ selection, (selectAgainst shell .shell {} [noisy, silent] (ended 1 "") {}).1 = some selection
      ∧ (∃ s ∈ selection.ranked, s.result.succeeded = true)
      ∧ selection.best.result.succeeded = false := by
  have hnoisy : (Scored.of (ended 1 "") noisy (ended 1 "/tmp\n")).score = 55 := by decide +kernel
  have hsilent : (Scored.of (ended 1 "") silent (ended 0 "")).score = 50 := by decide +kernel
  have hscores : [Scored.of (ended 1 "") noisy (ended 1 "/tmp\n"),
      Scored.of (ended 1 "") silent (ended 0 "")].Pairwise fun a b => b.score ≤ a.score := by
    rw [List.pairwise_pair, hnoisy, hsilent]
    decide
  have hselect : (selectAgainst shell .shell {} [noisy, silent] (ended 1 "") {}).1
      = Selection.of? (ended 1 "") [.of (ended 1 "") noisy (ended 1 "/tmp\n"),
        .of (ended 1 "") silent (ended 0 "")] := rfl
  refine ⟨_, hselect.trans (Selection.of?_of_pairwise hscores),
    ⟨.of (ended 1 "") silent (ended 0 ""), ?_, rfl⟩, rfl⟩
  exact List.mem_cons_of_mem _ (List.mem_cons_self ..)

end Repairer

end Remedy
