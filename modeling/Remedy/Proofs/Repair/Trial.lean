import Remedy.Proofs.Candidate.Margin
import Remedy.Proofs.Repair.Chain

/-!
# The trial of a round

A round that makes a diagnosis runs its candidates, and takes the one that leads them if its score
is positive (`Turn.Decides`); it looks at nothing but scores. So a candidate whose run was not
finished is taken like any other one that failed, without the bonus for a clean end
(`repair_takes_unfinished_iff`), and a clean text is replaced by one that fails if no clean
candidate prevails (`repair_takes_dirty_iff`). Both happen (`unfinished_run_taken`,
`clean_text_broken`).
-/

namespace Remedy

open Repairing

/-- A run did not come to an end of its own: it was not started, or a limit was hit. -/
def RunResult.unfinished (r : RunResult) : Bool :=
  r.status = .spawnFailed || r.status.isResourceViolation

theorem RunResult.succeeded_of_unfinished {r : RunResult} (h : r.unfinished = true) :
    r.succeeded = false := by
  unfold unfinished at h
  unfold succeeded
  cases hs : r.status <;> rw [hs] at h
  case completed => cases h
  all_goals rfl

namespace Repairer

open Selection (Leads Prevails Ranks scoreOf)
open Candidate (merit)

variable {r : Repairer} {index : Nat} {label : String} {language : Language} {s t : Session}
  {baseline : RunResult} {runs : List (Candidate × RunResult)}

/-! ## What a turn makes of the runs -/

/-- A turn takes a candidate by its run: this patch is committed, and its text is carried on. -/
structure Turn.Takes (turn : Turn) (baseline : RunResult) (run : Candidate × RunResult) : Prop where
  patch : turn.record.appliedPatch = some (.of (.of baseline run.1 run.2))
  current : turn.progress.current = run.1.patched

/-- A turn takes the run that leads if its score is positive, and nothing else. -/
structure Turn.Decides (turn : Turn) (baseline : RunResult) (runs : List (Candidate × RunResult)) :
    Prop where
  takes_iff : ∀ run ∈ runs,
    turn.Takes baseline run ↔ Leads baseline runs run ∧ 0 < scoreOf baseline run
  takes : turn.record.appliedPatch.isSome = true → ∃ run ∈ runs, turn.Takes baseline run
  status : ∀ run ∈ runs, turn.Takes baseline run →
    turn.record.status = if run.2.succeeded then .fixed else .retrying
  verdict : ∀ run ∈ runs, turn.Takes baseline run → run.2.succeeded = false →
    turn.verdict = .running

theorem Turn.not_takes {turn : Turn} (h : turn.record.appliedPatch = none)
    (run : Candidate × RunResult) : ¬ turn.Takes baseline run := by
  intro takes
  cases h.symm.trans takes.patch

/-- A turn that commits nothing decides so if no run is worth anything. -/
theorem Turn.decides_of_none {turn : Turn} (h : turn.record.appliedPatch = none)
    (worthless : ∀ run ∈ runs, scoreOf baseline run ≤ 0) : turn.Decides baseline runs where
  takes_iff run hrun := by
    have hnot : ¬ (Leads baseline runs run ∧ 0 < scoreOf baseline run) := by
      rintro ⟨-, hpositive⟩
      exact absurd hpositive (Int.not_lt.mpr (worthless run hrun))
    exact iff_of_false (Turn.not_takes h run) hnot
  takes hsome := by
    rw [h] at hsome
    cases hsome
  status run hrun takes := absurd takes (Turn.not_takes h run)
  verdict run hrun takes := absurd takes (Turn.not_takes h run)

theorem Commits.status_eq {d : ErrorRecord} {p : Progress} {best : Scored} {turn : Turn}
    (h : Commits r index label language d p best s turn t) :
    turn.record.status = (if best.result.succeeded then .fixed else .retrying)
      ∧ (best.result.succeeded = false → turn.verdict = .running) := by
  cases h with
  | retrying backed dirty =>
      rw [if_neg (Bool.eq_false_iff.mp dirty)]
      exact ⟨rfl, fun _ => rfl⟩
  | unsettled backed clean check left =>
      rw [if_pos clean]
      exact ⟨rfl, fun _ => rfl⟩
  | settled backed clean check =>
      rw [if_pos clean]
      exact ⟨rfl, fun dirty => absurd (clean.symm.trans dirty) nofun⟩

/-- Of runs of different texts, a commit takes the one that leads. -/
theorem Commits.decides {d : ErrorRecord} {p : Progress} {selection : Selection} {turn : Turn}
    (h : Commits r index label language d p selection.best s turn t)
    (hranks : Ranks baseline (runs.map fun run => .of baseline run.1 run.2) selection)
    (distinct : ((runs.map Prod.fst).map Candidate.fingerprint).Nodup)
    (worth : 0 < selection.best.score) :
    turn.Decides baseline runs := by
  obtain ⟨best, hmem, hbest, hleads⟩ := hranks.exists_leads
  obtain ⟨hstatus, hverdict⟩ := h.status_eq
  obtain ⟨status, verdict, rfl, -⟩ := h.eq_committed
  rw [hbest] at hstatus hverdict worth
  -- the text that is carried on tells which run was taken
  have hunique : ∀ run ∈ runs,
      (Turn.committed index d p selection.best status verdict).Takes baseline run → run = best := by
    intro run hrun takes
    have hpatched : selection.best.candidate.patched = run.1.patched := takes.current
    rw [hbest] at hpatched
    rw [List.map_map] at distinct
    exact List.inj_on_of_nodup_map distinct hrun hmem (congrArg Digest.fingerprint hpatched.symm)
  have htakes : ∀ run, selection.best = .of baseline run.1 run.2 →
      (Turn.committed index d p selection.best status verdict).Takes baseline run := by
    intro run heq
    rw [heq]
    exact ⟨rfl, rfl⟩
  refine ⟨fun run hrun => ⟨fun takes => ?_, fun hrun => ?_⟩, fun _ => ?_, fun run hrun takes => ?_,
    fun run hrun takes dirty => ?_⟩
  · obtain rfl := hunique run hrun takes
    exact ⟨hleads, worth⟩
  · exact htakes run (hranks.best_eq_of_leads hrun.1)
  · exact ⟨best, hmem, htakes best hbest⟩
  · obtain rfl := hunique run hrun takes
    exact hstatus
  · obtain rfl := hunique run hrun takes
    exact hverdict dirty

/-! ## Trials -/

/-- A round tries its candidates: after the run of its text, which is the baseline, and between
checks of clean runs, each of them is run once. -/
structure Round.Tries (r : Repairer) (language : Language) (round : Round) (baseline : RunResult)
    (runs : List (Candidate × RunResult)) : Prop where
  candidates : runs.map Prod.fst = round.candidates r language
  calls : ∃ checks calls after,
    Grows r.executor language r.config.limits round.opened round.closed
        (⟨.current, round.progress.current, .ok baseline⟩ :: checks ++ (calls ++ after))
      ∧ (∀ c ∈ checks, isHarness c = true) ∧ (∀ c ∈ after, isHarness c = true)
      ∧ List.Forall₂ (RunOf language) runs calls

/-- The runs of a treatment, and what it makes of them. -/
structure Tried (r : Repairer) (language : Language) (p : Progress) (baseline : RunResult)
    (d : ErrorRecord) (s : Session) (turn : Turn) (t : Session)
    (runs : List (Candidate × RunResult)) : Prop where
  diagnosis : turn.record.diagnosis = some d
  candidates : runs.map Prod.fst = Candidate.usable r.config.rules p.current p.tried
    r.config.maxCandidates
      (r.proposals language s.requests ⟨d, p.current, r.config.allowEfficiencyVariants⟩)
  calls : ∃ calls after, Grows r.executor language r.config.limits s t (calls ++ after)
    ∧ (∀ c ∈ after, isHarness c = true) ∧ List.Forall₂ (RunOf language) runs calls
  decides : turn.Decides baseline runs

theorem Selects.ranks {p : Progress} {d : ErrorRecord} {candidates : List Candidate}
    {selection : Selection} (h : Selects r language p baseline d s candidates selection t) :
    ∃ runs calls, runs.map Prod.fst = candidates
      ∧ Grows r.executor language r.config.limits s t calls
      ∧ List.Forall₂ (RunOf language) runs calls
      ∧ Ranks baseline (runs.map fun run => .of baseline run.1 run.2) selection := by
  obtain ⟨generated, s₁, h₁, rfl, h₂⟩ := h
  obtain ⟨runs, calls, hmap, hg, hruns, hsel⟩ := selectAgainst_runs h₂
  exact ⟨runs, calls, hmap, (Grows.of_generate h₁).trans hg, hruns,
    Selection.ranks_of? hsel.symm⟩

theorem Treats.tried {p : Progress} {d : ErrorRecord} {turn : Turn}
    (h : Treats r index label language p baseline d s turn t) :
    ∃ runs, Tried r language p baseline d s turn t runs := by
  cases h with
  | untreated proposed none =>
      rw [eq_proposals_of_generate proposed] at none
      exact ⟨[], rfl, none.symm, ⟨[], [], Grows.of_generate proposed, List.forall_mem_nil _, .nil⟩,
        Turn.decides_of_none rfl (List.forall_mem_nil _)⟩
  | @unsuitable candidates selection _ _ selects worthless told =>
      obtain ⟨runs, calls, hmap, hg, hruns, hranks⟩ := selects.ranks
      have hscores : ∀ run ∈ runs, scoreOf baseline run ≤ 0 := by
        intro run hrun
        have hle : scoreOf baseline run ≤ selection.best.score :=
          hranks.score_le _ (List.mem_map_of_mem hrun)
        exact hle.trans worthless
      exact ⟨runs, rfl, hmap.trans selects.runs.1,
        ⟨calls, [], hg.trans (Grows.of_tell told), List.forall_mem_nil _, hruns⟩,
        Turn.decides_of_none rfl hscores⟩
  | committed selects worth commits =>
      obtain ⟨runs, calls, hmap, hg, hruns, hranks⟩ := selects.ranks
      obtain ⟨checks, hg', hharness⟩ := commits.grows
      have hcandidates := hmap.trans selects.runs.1
      have distinct : ((runs.map Prod.fst).map Candidate.fingerprint).Nodup := by
        rw [hcandidates]
        exact Candidate.nodup_usable ..
      have decides := commits.decides hranks distinct worth
      obtain ⟨status, verdict, rfl, -⟩ := commits.eq_committed
      exact ⟨runs, rfl, hcandidates, ⟨calls, checks, hg.trans hg', hharness, hruns⟩, decides⟩

/-- A round makes no diagnosis and commits nothing, or tries its candidates and decides by their
scores. -/
theorem Iterates.idles_or_tries {p : Progress} {turn : Turn}
    (h : Iterates r index label language p s turn t) :
    Idles r language p s turn t ∨ ∃ baseline runs,
      Round.Tries r language ⟨p, s, turn, t⟩ baseline runs ∧ turn.Decides baseline runs := by
  rcases h.idles_or_treats with idles | ⟨baseline, d, u, diagnoses, treats⟩
  · exact .inl idles
  · obtain ⟨checks, hg, hharness⟩ := diagnoses.grows
    obtain ⟨runs, tried⟩ := treats.tried
    obtain ⟨calls, after, hg', hafter, hruns⟩ := tried.calls
    refine .inr ⟨baseline, runs, ⟨?_, checks, calls, after, hg.trans hg', hharness, hafter, hruns⟩,
      tried.decides⟩
    -- the generator was asked after the diagnosis, which adds no request of its own
    rw [tried.candidates, diagnoses.keeps.requests, Round.candidates, Round.proposed,
      tried.diagnosis]

theorem Linked.idles_or_tries {p last : Progress} {rounds : List Round}
    (h : Linked r label language index p s rounds last t) :
    ∀ round ∈ rounds, Idles r language round.progress round.opened round.turn round.closed
      ∨ ∃ baseline runs,
        round.Tries r language baseline runs ∧ round.turn.Decides baseline runs := by
  induction h with
  | done => exact List.forall_mem_nil _
  | step iterates told rest ih => exact List.forall_mem_cons.mpr ⟨iterates.idles_or_tries, ih⟩

theorem repair_idles_or_tries (r : Repairer) (label : String) (language : Language)
    (source : String) (s : Session) :
    ∀ round ∈ r.rounds label language source s,
      Idles r language round.progress round.opened round.turn round.closed
        ∨ ∃ baseline runs,
          round.Tries r language baseline runs ∧ round.turn.Decides baseline runs := by
  obtain ⟨s', last, t', -, -, hlinked, -⟩ :=
    repair_linked (Prod.eta (r.repair label language source s)).symm
  exact hlinked.idles_or_tries

/-! ## Runs that were not finished -/

/-- A candidate whose run was not finished is taken exactly if it leads the candidates of its round
and its merit is positive. The round then ends as retrying, and the repair goes on. -/
theorem repair_takes_unfinished_iff (r : Repairer) (label : String) (language : Language)
    (source : String) (s : Session) :
    (r.repair label language source s).1.iterations
        = (r.rounds label language source s).map (·.turn.record)
      ∧ ∀ round ∈ r.rounds label language source s,
        Idles r language round.progress round.opened round.turn round.closed
          ∨ ∃ baseline runs, round.Tries r language baseline runs
            ∧ (round.patches = true → ∃ run ∈ runs, round.turn.Takes baseline run)
            ∧ ∀ run ∈ runs, run.2.unfinished = true →
              (round.turn.Takes baseline run ↔ Leads baseline runs run ∧ 0 < merit baseline run)
                ∧ (round.turn.Takes baseline run →
                  round.turn.record.status = .retrying ∧ round.turn.verdict = .running) := by
  refine ⟨repair_iterations r label language source s, fun round hround => ?_⟩
  rcases repair_idles_or_tries r label language source s round hround with
    idles | ⟨baseline, runs, tries, decides⟩
  · exact .inl idles
  refine .inr ⟨baseline, runs, tries, decides.takes, fun run hrun unfinished => ?_⟩
  have dirty := RunResult.succeeded_of_unfinished unfinished
  refine ⟨?_, fun takes => ?_⟩
  · rw [decides.takes_iff run hrun, Selection.scoreOf_of_dirty dirty]
  · have hstatus := decides.status run hrun takes
    rw [dirty] at hstatus
    exact ⟨hstatus, decides.verdict run hrun takes dirty⟩

/-- The end of a program that names a command that is not found. -/
def missing : RunResult where
  language := .shell
  status := .completed
  exitCode := 127
  stdout := ""
  stderr := "main.sh: 1: x: not found\n"
  command := ["sh", "main.sh"]

/-- What an executor can answer for a run that is not finished. -/
def interruptions : List Answer :=
  [.error (.io "no space left"), .ok (.spawnFailed .shell ["sh", "main.sh"] "failed to spawn sh"),
    .ok { missing with status := .timedOut, exitCode := 124, stderr := "" },
    .ok { missing with status := .memoryExceeded, exitCode := 137, stderr := "" }]

/-- A repairer that proposes to wait, where a program that waits is interrupted and any other one
names a missing command. -/
def waiter (answer : Answer) : Repairer where
  executor _ _ _ source := if source = "sleep 9\n" then answer else .ok missing
  generators :=
    ⟨[(.shell, fun _ _ => [.of "wait" "" "x\n" "sleep 9\n" .correctness true])]⟩
  sink _ _ := .ok ()
  config := {}

/-- Whether the run of the proposal was left unfinished, the patches that were applied, and the
result. -/
def waited (answer : Answer) : Bool × List AppliedPatch × String :=
  let outcome := ((waiter answer).repair "main.sh" .shell "x\n" {}).1
  ((candidateResult .shell answer).unfinished, outcome.appliedPatches, outcome.finalSource)

/-- Whatever interrupts its run, the proposal is taken, as a first choice that changes two lines. -/
theorem unfinished_run_taken : interruptions.map waited
    = List.replicate 4 (true, [⟨"wait", "", .correctness, 40⟩], "sleep 9\n") := by
  decide +kernel

/-! ## Clean texts that are replaced -/

/-- A candidate that failed is taken exactly if no clean one prevails and the merit of one that
failed is positive. -/
theorem Turn.Decides.takes_dirty_iff {turn : Turn} (h : turn.Decides baseline runs) :
    (∃ run ∈ runs, turn.Takes baseline run ∧ run.2.succeeded = false) ↔
      ¬ Prevails baseline runs
        ∧ ∃ run ∈ runs, run.2.succeeded = false ∧ 0 < merit baseline run := by
  constructor
  · rintro ⟨run, hrun, takes, dirty⟩
    obtain ⟨hleads, hpositive⟩ := (h.takes_iff run hrun).mp takes
    rw [Selection.scoreOf_of_dirty dirty] at hpositive
    refine ⟨fun prevails => ?_, run, hrun, dirty, hpositive⟩
    cases dirty.symm.trans ((hleads.succeeded_iff).mpr prevails)
  · rintro ⟨hnot, run, hrun, dirty, hpositive⟩
    obtain ⟨best, hbest, hleads⟩ := Selection.exists_leads baseline hrun
    have hdirty : best.2.succeeded = false := by
      rw [← Bool.not_eq_true, hleads.succeeded_iff]
      exact hnot
    have hscore : 0 < scoreOf baseline best := by
      rw [← Selection.scoreOf_of_dirty dirty] at hpositive
      exact hpositive.trans_le (hleads.le run hrun)
    exact ⟨best, hbest, (h.takes_iff best hbest).mpr ⟨hleads, hscore⟩, hdirty⟩

/-- Whether the text of a round ran clean or not, what it takes ran clean exactly if some clean
candidate prevails; and it takes one that failed exactly if none prevails and the merit of a failed
one is positive. The round then ends as retrying, and the repair goes on. -/
theorem repair_takes_dirty_iff (r : Repairer) (label : String) (language : Language)
    (source : String) (s : Session) :
    (r.repair label language source s).1.iterations
        = (r.rounds label language source s).map (·.turn.record)
      ∧ ∀ round ∈ r.rounds label language source s,
        Idles r language round.progress round.opened round.turn round.closed
          ∨ ∃ baseline runs, round.Tries r language baseline runs
            ∧ (round.patches = true → ∃ run ∈ runs, round.turn.Takes baseline run)
            ∧ ((∃ run ∈ runs, round.turn.Takes baseline run ∧ run.2.succeeded = false) ↔
              ¬ Prevails baseline runs
                ∧ ∃ run ∈ runs, run.2.succeeded = false ∧ 0 < merit baseline run)
            ∧ ∀ run ∈ runs, round.turn.Takes baseline run →
              (run.2.succeeded = true ↔ Prevails baseline runs)
                ∧ (run.2.succeeded = false →
                  round.turn.record.status = .retrying ∧ round.turn.verdict = .running) := by
  refine ⟨repair_iterations r label language source s, fun round hround => ?_⟩
  rcases repair_idles_or_tries r label language source s round hround with
    idles | ⟨baseline, runs, tries, decides⟩
  · exact .inl idles
  refine .inr ⟨baseline, runs, tries, decides.takes, decides.takes_dirty_iff,
    fun run hrun takes => ⟨?_, fun dirty => ?_⟩⟩
  · exact ((decides.takes_iff run hrun).mp takes).1.succeeded_iff
  · have hstatus := decides.status run hrun takes
    rw [dirty] at hstatus
    exact ⟨hstatus, decides.verdict run hrun takes dirty⟩

/-- A repairer that proposes to stop, where only a program that stops fails. -/
def stopper : Repairer where
  executor _ _ _ source :=
    if source = "exit 1\n" then .ok { missing with exitCode := 1, stderr := "" }
    else .ok { missing with exitCode := 0, stdout := "x is None\n", stderr := "" }
  generators :=
    ⟨[(.shell, fun _ _ => [.of "stop" "" "echo x is None\n" "exit 1\n" .correctness true])]⟩
  sink _ _ := .ok ()
  config := {}

/-- A text that ran clean but printed a suspicious word is replaced by one that fails. -/
theorem clean_text_broken :
    (candidateResult .shell (stopper.executor [] .shell {} "echo x is None\n")).succeeded = true
      ∧ (candidateResult .shell (stopper.executor [] .shell {} "exit 1\n")).succeeded = false
      ∧ (stopper.repair "main.sh" .shell "echo x is None\n" {}).1.appliedPatches
        = [⟨"stop", "", .correctness, 40⟩]
      ∧ (stopper.repair "main.sh" .shell "echo x is None\n" {}).1.finalSource = "exit 1\n" := by
  decide +kernel

end Repairer

end Remedy
