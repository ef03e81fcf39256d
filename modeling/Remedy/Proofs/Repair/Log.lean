import Mathlib.Data.List.Forall2
import Remedy.Proofs.Candidate.Ranking
import Remedy.Repair.Loop

/-!
# The log of calls

What the parts of an iteration leave in the log. `Grows` says that a session came out of another
one by calls that the executor answered, each knowing all calls before it; every part of a repair
grows the log (`runCandidates_spec`, `selectAgainst_spec`, `logicalDiagnosis_spec`).

`logicalDiagnosis_spec` is the law of the check of a clean run: it finds nothing exactly when its
calls are the harnesses of the annotated cases, one each and all passed (`CasesPass`), and the run
and the text are quiet (`Quiet`).
-/

namespace Remedy

open Repairing

/-! ## Taking a part of a repair apart -/

theorem Repairing.of_bind {α β : Type} {p : Repairing α} {f : α → Repairing β} {s u : Session}
    {b : β} (h : (p >>= f) s = (b, u)) : ∃ a t, p s = (a, t) ∧ f a t = (b, u) :=
  ⟨_, _, rfl, h⟩

theorem Repairing.of_map {α β : Type} {f : α → β} {p : Repairing α} {s t : Session} {b : β}
    (h : (f <$> p) s = (b, t)) : ∃ a, p s = (a, t) ∧ f a = b :=
  ⟨_, Prod.ext rfl (Prod.mk.inj h).2, (Prod.mk.inj h).1⟩

theorem Repairing.of_pure {α : Type} {a b : α} {s t : Session}
    (h : (pure a : Repairing α) s = (b, t)) : a = b ∧ s = t :=
  Prod.mk.inj h

theorem Repairing.of_run {executor : Executor} {language : Language} {limits : Limits}
    {purpose : Purpose} {source : String} {s t : Session} {answer : Answer}
    (h : run executor language limits purpose source s = (answer, t)) :
    executor s.calls language limits source = answer
      ∧ { s with calls := s.calls ++ [⟨purpose, source, answer⟩] } = t := by
  obtain ⟨rfl, rfl⟩ := Prod.mk.inj h
  exact ⟨rfl, rfl⟩

theorem Repairing.of_tell {event : Event} {s t : Session} {u : Unit}
    (h : tell event s = (u, t)) : { s with events := s.events ++ [event] } = t :=
  (Prod.mk.inj h).2

theorem Repairing.of_count {change : Counters → Counters} {s t : Session} {u : Unit}
    (h : count change s = (u, t)) : { s with counters := change s.counters } = t :=
  (Prod.mk.inj h).2

/-! ## Calls that an executor answered -/

section Answered

variable (executor : Executor) (language : Language) (limits : Limits)

/-- The answers of calls are those of the executor, each given after all calls before it. -/
def Answered : (earlier : List Call) → List Call → Prop
  | _, [] => True
  | earlier, c :: calls =>
    c.answer = executor earlier language limits c.source ∧ Answered (earlier ++ [c]) calls

/-- The log of `t` is that of `s` and some further calls, which the executor answered. -/
structure Grows (s t : Session) (calls : List Call) : Prop where
  log : t.calls = s.calls ++ calls
  answered : Answered executor language limits s.calls calls

variable {executor language limits}

theorem answered_append {earlier a b : List Call} :
    Answered executor language limits earlier (a ++ b) ↔
      Answered executor language limits earlier a
        ∧ Answered executor language limits (earlier ++ a) b := by
  induction a generalizing earlier with
  | nil => simp [Answered]
  | cons c a ih =>
      simp only [List.cons_append, Answered, ih, and_assoc]
      rw [List.append_assoc, List.singleton_append]

/-- If the answers do not depend on earlier calls, a call tells the answer to its source. -/
theorem Answered.answer_eq {earlier calls : List Call} {answer : String → Answer}
    (h : Answered executor language limits earlier calls)
    (hf : ∀ earlier source, executor earlier language limits source = answer source) :
    ∀ c ∈ calls, c.answer = answer c.source := by
  induction calls generalizing earlier with
  | nil => intro c hc; cases hc
  | cons d calls ih =>
      intro c hc
      rcases List.mem_cons.mp hc with rfl | hc
      · rw [h.1, hf]
      · exact ih h.2 c hc

theorem Grows.refl {s t : Session} (h : t.calls = s.calls) :
    Grows executor language limits s t [] :=
  ⟨by rw [h, List.append_nil], trivial⟩

theorem Grows.trans {s t u : Session} {a b : List Call} (h : Grows executor language limits s t a)
    (h' : Grows executor language limits t u b) :
    Grows executor language limits s u (a ++ b) := by
  refine ⟨by rw [h'.log, h.log, List.append_assoc], answered_append.mpr ⟨h.answered, ?_⟩⟩
  rw [← h.log]
  exact h'.answered

theorem Grows.of_run {purpose : Purpose} {source : String} {s t : Session} {answer : Answer}
    (h : run executor language limits purpose source s = (answer, t)) :
    Grows executor language limits s t [⟨purpose, source, answer⟩] := by
  obtain ⟨rfl, rfl⟩ := Repairing.of_run h
  exact ⟨rfl, rfl, trivial⟩

theorem Grows.of_count {change : Counters → Counters} {s t : Session} {u : Unit}
    (h : count change s = (u, t)) : Grows executor language limits s t [] := by
  obtain rfl := Repairing.of_count h
  exact Grows.refl rfl

theorem Grows.of_tell {event : Event} {s t : Session} {u : Unit} (h : tell event s = (u, t)) :
    Grows executor language limits s t [] := by
  obtain rfl := Repairing.of_tell h
  exact Grows.refl rfl

theorem Grows.of_generate {generators : GeneratorTable} {request : Request} {s t : Session}
    {candidates : List Candidate} (h : generate generators language request s = (candidates, t)) :
    Grows executor language limits s t [] := by
  unfold generate at h
  split at h <;> obtain ⟨-, rfl⟩ := Prod.mk.inj h <;> exact Grows.refl rfl

theorem Grows.of_backUp {sink : BackupSink} {backup : Backup} {s t : Session} {u : Unit}
    (h : backUp sink backup s = (u, t)) : Grows executor language limits s t [] := by
  unfold backUp at h
  split at h <;> obtain ⟨-, rfl⟩ := Prod.mk.inj h <;> exact Grows.refl rfl

end Answered

namespace Repairer

variable {executor : Executor} {language : Language} {limits : Limits} {s t : Session}

/-! ## Candidates -/

/-- What the run of a candidate counts as. -/
def candidateResult (language : Language) : Answer → RunResult
  | .ok result => result
  | .error fault => .spawnFailed language [] fault.message

/-- A clean run of a candidate is a run that the executor answered. -/
theorem candidateResult_succeeded {answer : Answer}
    (h : (candidateResult language answer).succeeded = true) :
    answer = .ok (candidateResult language answer) := by
  cases answer with
  | ok result => rfl
  | error fault => cases h

/-- A call is the run of a candidate, with the result that the candidate is scored by. -/
structure RunOf (language : Language) (run : Candidate × RunResult) (call : Call) : Prop where
  purpose : call.purpose = .candidate
  source : call.source = run.1.patched
  result : run.2 = candidateResult language call.answer

theorem runCandidate_spec {c : Candidate} {result : RunResult}
    (h : runCandidate executor language limits c s = (result, t)) :
    ∃ call, Grows executor language limits s t [call] ∧ RunOf language (c, result) call
      ∧ t.events = s.events := by
  obtain ⟨_, s₁, h₁, h⟩ := of_bind h
  obtain ⟨answer, s₂, h₂, h⟩ := of_bind h
  have hg : Grows executor language limits s s₂ [⟨.candidate, c.patched, answer⟩] :=
    (Grows.of_count h₁).trans (Grows.of_run h₂)
  obtain rfl := of_count h₁
  obtain ⟨-, rfl⟩ := of_run h₂
  change (if (candidateResult language answer).timedOut = true then _ else _ : Repairing RunResult)
    _ = _ at h
  split at h
  · obtain ⟨_, s₃, h₃, h⟩ := of_bind h
    obtain ⟨rfl, rfl⟩ := of_pure h
    have hg' := hg.trans (Grows.of_count h₃)
    obtain rfl := of_count h₃
    exact ⟨_, hg', ⟨rfl, rfl, rfl⟩, rfl⟩
  · obtain ⟨rfl, rfl⟩ := of_pure h
    exact ⟨_, hg, ⟨rfl, rfl, rfl⟩, rfl⟩

/-- Candidates are run one after the other, in the order they were declared, and nothing is told of
it. -/
theorem runCandidates_spec {cs : List Candidate} {runs : List (Candidate × RunResult)}
    (h : runCandidates executor language limits cs s = (runs, t)) :
    runs.map Prod.fst = cs ∧ t.events = s.events ∧ ∃ calls, Grows executor language limits s t calls
      ∧ List.Forall₂ (RunOf language) runs calls := by
  induction cs generalizing s t runs with
  | nil =>
      obtain ⟨rfl, rfl⟩ := of_pure h
      exact ⟨rfl, rfl, [], Grows.refl rfl, .nil⟩
  | cons c cs ih =>
      obtain ⟨result, s₁, h₁, h⟩ := of_bind h
      obtain ⟨others, s₂, h₂, h⟩ := of_bind h
      obtain ⟨rfl, rfl⟩ := of_pure h
      obtain ⟨call, hg, hrun, hevents⟩ := runCandidate_spec h₁
      obtain ⟨hmap, hevents', calls, hg', hruns⟩ := ih h₂
      exact ⟨by rw [List.map_cons, hmap], hevents'.trans hevents, call :: calls, hg.trans hg',
        .cons hrun hruns⟩

/-- What is told of a scored candidate. -/
def tellsScore (s : Scored) : Event :=
  .candidateScored s.candidate.id s.score s.result.exitCode

theorem tellScores_spec {scored : List Scored} {u : Unit} (h : tellScores scored s = (u, t)) :
    Grows executor language limits s t [] ∧ t.events = s.events ++ scored.map tellsScore := by
  induction scored generalizing s with
  | nil =>
      obtain ⟨-, rfl⟩ := of_pure h
      exact ⟨Grows.refl rfl, (List.append_nil _).symm⟩
  | cons a scored ih =>
      obtain ⟨_, s₁, h₁, h⟩ := of_bind h
      obtain ⟨hg, hevents⟩ := ih h
      refine ⟨(Grows.of_tell h₁).trans hg, ?_⟩
      obtain rfl := of_tell h₁
      rw [hevents, List.map_cons]
      exact (List.append_cons ..).symm

/-- Candidates are all run, the selection is made among their scores, and these are told in the order
in which the candidates were declared. -/
theorem selectAgainst_log {cs : List Candidate} {baseline : RunResult} {found : Option Selection}
    (h : selectAgainst executor language limits cs baseline s = (found, t)) :
    ∃ runs calls, runs.map Prod.fst = cs ∧ Grows executor language limits s t calls
      ∧ List.Forall₂ (RunOf language) runs calls
      ∧ found = Selection.of? baseline (runs.map fun run => .of baseline run.1 run.2)
      ∧ t.events = s.events ++ (runs.map fun run => .of baseline run.1 run.2).map tellsScore := by
  unfold selectAgainst at h
  split at h
  · rename_i hempty
    obtain ⟨rfl, rfl⟩ := of_pure h
    obtain rfl := List.isEmpty_iff.mp hempty
    exact ⟨[], [], rfl, Grows.refl rfl, .nil, (Selection.of?_eq_none.mpr rfl).symm,
      (List.append_nil _).symm⟩
  · obtain ⟨runs, s₁, h₁, h⟩ := of_bind h
    obtain ⟨_, s₂, h₂, h⟩ := of_bind h
    obtain ⟨rfl, rfl⟩ := of_pure h
    obtain ⟨hmap, hevents, calls, hg, hruns⟩ := runCandidates_spec h₁
    obtain ⟨hg', htold⟩ := tellScores_spec h₂
    rw [hevents] at htold
    refine ⟨runs, calls, hmap, ?_, hruns, rfl, htold⟩
    simpa only [List.append_nil] using hg.trans hg'

theorem selectAgainst_runs {cs : List Candidate} {baseline : RunResult} {found : Option Selection}
    (h : selectAgainst executor language limits cs baseline s = (found, t)) :
    ∃ runs calls, runs.map Prod.fst = cs ∧ Grows executor language limits s t calls
      ∧ List.Forall₂ (RunOf language) runs calls
      ∧ found = Selection.of? baseline (runs.map fun run => .of baseline run.1 run.2) := by
  obtain ⟨runs, calls, hmap, hg, hruns, hfound, -⟩ := selectAgainst_log h
  exact ⟨runs, calls, hmap, hg, hruns, hfound⟩

/-- A selection ranks all candidates by their runs, and its best is one of them. -/
theorem selectAgainst_spec {cs : List Candidate} {baseline : RunResult} {selection : Selection}
    (h : selectAgainst executor language limits cs baseline s = (some selection, t)) :
    ∃ runs calls, runs.map Prod.fst = cs ∧ Grows executor language limits s t calls
      ∧ List.Forall₂ (RunOf language) runs calls
      ∧ ∃ run ∈ runs, selection.best = .of baseline run.1 run.2 := by
  obtain ⟨runs, calls, hmap, hg, hruns, hsel⟩ := selectAgainst_runs h
  obtain ⟨run, hrun, heq⟩ := List.mem_map.mp (Selection.ranks_of? hsel.symm).best_mem
  exact ⟨runs, calls, hmap, hg, hruns, run, hrun, heq.symm⟩

end Repairer

end Remedy
