import Remedy.Proofs.Repair.Check

/-!
# The ways an iteration can go

One constructor for each way that an iteration ends (`Iterates`), from the inside out: what a commit
does (`Commits`), how a diagnosis is treated (`Treats`), and how the text under repair is diagnosed
(`Diagnosed`). Each constructor keeps the steps that were taken, as equations between sessions, so
that a law of the log is read off it step by step. `iterate_iterates` is the inversion that all laws
of the loop start from.
-/

namespace Remedy

open Repairing

namespace Repairer

variable {r : Repairer} {index : Nat} {label : String} {language : Language} {s t : Session}

/-! ## Commits -/

def Turn.committed (index : Nat) (d : ErrorRecord) (p : Progress) (best : Scored)
    (status : IterationStatus) (verdict : Verdict) : Turn :=
  ⟨⟨index, some d, some (.of best), status⟩, verdict,
    { p with current := best.candidate.patched }⟩

/-- What a commit does before its check: the backup is taken and the patch counted. -/
def Backed (r : Repairer) (label : String) (p : Progress) (s t : Session) : Prop :=
  ∃ s₁, backUp r.sink ⟨label, p.current⟩ s = ((), s₁)
    ∧ count (fun k => { k with patchesCommitted := k.patchesCommitted + 1 }) s₁ = ((), t)

/-- How a candidate is committed, by what becomes of the text that it gives. -/
inductive Commits (r : Repairer) (index : Nat) (label : String) (language : Language)
    (d : ErrorRecord) (p : Progress) (best : Scored) (s : Session) : Turn → Session → Prop
  | retrying {t : Session} (backed : Backed r label p s t)
      (dirty : best.result.succeeded = false) :
      Commits r index label language d p best s
        (.committed index d p best .retrying .running) t
  | unsettled {t u : Session} {found : Except RepairFault (Option ErrorRecord)}
      (backed : Backed r label p s t) (clean : best.result.succeeded = true)
      (check : r.logicalDiagnosis language best.candidate.patched best.result t = (found, u))
      (left : found ≠ .ok none) :
      Commits r index label language d p best s
        (.committed index d p best .fixed .running) u
  | settled {t u : Session} (backed : Backed r label p s t)
      (clean : best.result.succeeded = true)
      (check : r.logicalDiagnosis language best.candidate.patched best.result t
        = (.ok none, u)) :
      Commits r index label language d p best s
        (.committed index d p best .fixed .succeeded) u

theorem commit_commits {d : ErrorRecord} {p : Progress} {best : Scored} {turn : Turn}
    (h : r.commit index label language d p best s = (turn, t)) :
    Commits r index label language d p best s turn t := by
  unfold commit at h
  obtain ⟨_, s₁, h₁, h⟩ := of_bind h
  obtain ⟨_, s₂, h₂, h⟩ := of_bind h
  have backed : Backed r label p s s₂ := ⟨s₁, h₁, h₂⟩
  dsimp only at h
  split at h
  · rename_i clean
    obtain ⟨found, s₃, h₃, h⟩ := of_bind h
    rcases found with fault | _ | d'
    · obtain ⟨rfl, rfl⟩ := of_pure h
      exact .unsettled backed clean h₃ nofun
    · obtain ⟨rfl, rfl⟩ := of_pure h
      exact .settled backed clean h₃
    · obtain ⟨rfl, rfl⟩ := of_pure h
      exact .unsettled backed clean h₃ nofun
  · rename_i dirty
    obtain ⟨rfl, rfl⟩ := of_pure h
    exact .retrying backed (Bool.eq_false_iff.mpr dirty)

theorem Commits.eq_committed {d : ErrorRecord} {p : Progress} {best : Scored} {turn : Turn}
    (h : Commits r index label language d p best s turn t) :
    ∃ status verdict, turn = .committed index d p best status verdict ∧ status ≠ .failed := by
  cases h with
  | retrying backed dirty => exact ⟨_, _, rfl, nofun⟩
  | unsettled backed clean check left => exact ⟨_, _, rfl, nofun⟩
  | settled backed clean check => exact ⟨_, _, rfl, nofun⟩

/-! ## Treatments -/

/-- Candidates were proposed for a diagnosis and run. -/
def Selects (r : Repairer) (language : Language) (p : Progress) (baseline : RunResult)
    (d : ErrorRecord) (s : Session) (candidates : List Candidate) (selection : Selection)
    (t : Session) : Prop :=
  ∃ generated s₁,
    generate r.generators language ⟨d, p.current, r.config.allowEfficiencyVariants⟩ s
        = (generated, s₁)
      ∧ candidates = Candidate.usable r.config.rules p.current p.tried r.config.maxCandidates
          generated
      ∧ selectAgainst r.executor language r.config.limits candidates baseline s₁
        = (some selection, t)

/-- What the loop carries on after candidates were run. -/
def Progress.after (p : Progress) (candidates : List Candidate) : Progress :=
  { p with tried := p.tried ++ candidates.map Candidate.fingerprint }

/-- How a diagnosis is treated: nothing is proposed, nothing that is proposed helps, or the best
candidate is committed. -/
inductive Treats (r : Repairer) (index : Nat) (label : String) (language : Language)
    (p : Progress) (baseline : RunResult) (d : ErrorRecord) (s : Session) : Turn → Session → Prop
  | untreated {generated : List Candidate} {t : Session}
      (proposed : generate r.generators language
        ⟨d, p.current, r.config.allowEfficiencyVariants⟩ s = (generated, t))
      (none : Candidate.usable r.config.rules p.current p.tried r.config.maxCandidates generated
        = []) :
      Treats r index label language p baseline d s
        (.failed index (some d) (.noCandidates d.kind) p) t
  | unsuitable {candidates : List Candidate} {selection : Selection} {t u : Session}
      (selects : Selects r language p baseline d s candidates selection t)
      (worthless : selection.best.score ≤ 0)
      (told : tell (.selectionFailed selection.scores) t = ((), u)) :
      Treats r index label language p baseline d s
        (.failed index (some d) (.noSuitablePatch selection.scores) (p.after candidates)) u
  | committed {candidates : List Candidate} {selection : Selection} {t u : Session} {turn : Turn}
      (selects : Selects r language p baseline d s candidates selection t)
      (worth : 0 < selection.best.score)
      (commits : Commits r index label language d (p.after candidates) selection.best t turn u) :
      Treats r index label language p baseline d s turn u

theorem selectAgainst_eq_none {executor : Executor} {limits : Limits} {cs : List Candidate}
    {baseline : RunResult}
    (h : selectAgainst executor language limits cs baseline s = (none, t)) : cs = [] := by
  obtain ⟨runs, calls, rfl, -, -, hnone⟩ := selectAgainst_runs h
  rw [List.map_eq_nil_iff.mp (Selection.of?_eq_none.mp hnone.symm), List.map_nil]

theorem treat_treats {p : Progress} {baseline : RunResult} {d : ErrorRecord} {turn : Turn}
    (h : r.treat index label language p baseline d s = (turn, t)) :
    Treats r index label language p baseline d s turn t := by
  unfold treat at h
  obtain ⟨generated, s₁, h₁, h⟩ := of_bind h
  dsimp only at h
  split at h
  · rename_i hempty
    obtain ⟨rfl, rfl⟩ := of_pure h
    exact .untreated h₁ (List.isEmpty_iff.mp hempty)
  · rename_i hne
    obtain ⟨found, s₂, h₂, h⟩ := of_bind h
    cases found with
    | none => exact absurd (List.isEmpty_iff.mpr (selectAgainst_eq_none h₂)) hne
    | some selection =>
        have selects : Selects r language p baseline d s _ selection s₂ :=
          ⟨generated, s₁, h₁, rfl, h₂⟩
        dsimp only at h
        split at h
        · rename_i worth
          exact .committed selects worth (commit_commits h)
        · rename_i worthless
          obtain ⟨_, s₃, h₃, h⟩ := of_bind h
          obtain ⟨rfl, rfl⟩ := of_pure h
          exact .unsuitable selects (Int.not_lt.mp worthless) h₃

/-! ## Iterations -/

/-- The text under repair was run. -/
def Examines (r : Repairer) (language : Language) (text : String) (s : Session) (answer : Answer)
    (t : Session) : Prop :=
  ∃ s₁, count (fun k => { k with sandboxRuns := k.sandboxRuns + 1 }) s = ((), s₁)
    ∧ run r.executor language r.config.limits .current text s₁ = (answer, t)

/-- Counts a run that was killed at a deadline. -/
def noteTimeout (result : RunResult) : Repairing Unit :=
  if result.timedOut then count fun k => { k with timeouts := k.timeouts + 1 } else pure ()

/-- The program was started, and the iteration goes on with its result. -/
structure Starts (r : Repairer) (language : Language) (text : String) (s : Session)
    (result : RunResult) (u : Session) : Prop where
  ran : ∃ t, Examines r language text s (.ok result) t ∧ noteTimeout result t = ((), u)
  started : result.status ≠ .spawnFailed

/-- How the text under repair is diagnosed: by its report if its run failed, else by its check. -/
inductive Diagnoses (r : Repairer) (language : Language) (text : String) (s : Session) :
    RunResult → ErrorRecord → Session → Prop
  | crash {result : RunResult} {t : Session} (starts : Starts r language text s result t)
      (dirty : result.succeeded = false)
      (known : (ErrorRecord.ofRun result text).isError = true) :
      Diagnoses r language text s result (.ofRun result text) t
  | defect {result : RunResult} {d : ErrorRecord} {t u : Session}
      (starts : Starts r language text s result t) (clean : result.succeeded = true)
      (check : r.logicalDiagnosis language text result t = (.ok (some d), u)) :
      Diagnoses r language text s result d u

/-- How an iteration goes, by the way it ends. -/
inductive Iterates (r : Repairer) (index : Nat) (label : String) (language : Language)
    (p : Progress) (s : Session) : Turn → Session → Prop
  | faulted {fault : SandboxFault} {t : Session}
      (examines : Examines r language p.current s (.error fault) t) :
      Iterates r index label language p s
        (.failed index none (.environment fault.message) p) t
  | notStarted {result : RunResult} {t : Session}
      (examines : Examines r language p.current s (.ok result) t)
      (spawnFailed : result.status = .spawnFailed) :
      Iterates r index label language p s (.failed index none (.environment result.stderr) p) t
  | checkFaulted {result : RunResult} {fault : RepairFault} {t u : Session}
      (starts : Starts r language p.current s result t) (clean : result.succeeded = true)
      (check : r.logicalDiagnosis language p.current result t = (.error fault, u)) :
      Iterates r index label language p s
        (.failed index none (.environment fault.message) p) u
  | clean {result : RunResult} {t u : Session} (starts : Starts r language p.current s result t)
      (clean : result.succeeded = true)
      (check : r.logicalDiagnosis language p.current result t = (.ok none, u)) :
      Iterates r index label language p s ⟨⟨index, none, none, .fixed⟩, .succeeded, p⟩ u
  | undiagnosed {result : RunResult} {t : Session}
      (starts : Starts r language p.current s result t) (dirty : result.succeeded = false)
      (unknown : (ErrorRecord.ofRun result p.current).isError = false) :
      Iterates r index label language p s
        (.failed index none (.undiagnosable result.exitCode) p) t
  | treated {result : RunResult} {d : ErrorRecord} {t u : Session} {turn : Turn}
      (diagnoses : Diagnoses r language p.current s result d t)
      (treats : Treats r index label language p result d t turn u) :
      Iterates r index label language p s turn u

theorem Diagnoses.isError {text : String} {result : RunResult} {d : ErrorRecord}
    (h : Diagnoses r language text s result d t) : d.isError = true := by
  cases h with
  | crash starts dirty known => exact known
  | defect starts clean check => exact logicalDiagnosis_isError check

/-- What follows once the program was started. -/
theorem iterate_rest {p : Progress} {result : RunResult} {turn : Turn} {s₁ : Session}
    (starts : Starts r language p.current s result s₁)
    (h : (if result.succeeded then do
        match ← r.logicalDiagnosis language p.current result with
        | .error fault => pure (.failed index none (.environment fault.message) p)
        | .ok none => pure ⟨⟨index, none, none, .fixed⟩, .succeeded, p⟩
        | .ok (some diagnosis) => r.treat index label language p result diagnosis
      else
        let diagnosis := ErrorRecord.ofRun result p.current
        if diagnosis.isError then r.treat index label language p result diagnosis
        else pure (.failed index none (.undiagnosable result.exitCode) p) : Repairing Turn) s₁
      = (turn, t)) :
    Iterates r index label language p s turn t := by
  split at h
  · rename_i clean
    obtain ⟨found, s₂, h₂, h⟩ := of_bind h
    rcases found with fault | _ | d
    · obtain ⟨rfl, rfl⟩ := of_pure h
      exact .checkFaulted starts clean h₂
    · obtain ⟨rfl, rfl⟩ := of_pure h
      exact .clean starts clean h₂
    · exact .treated (.defect starts clean h₂) (treat_treats h)
  · rename_i dirty
    dsimp only at h
    split at h
    · rename_i known
      exact .treated (.crash starts (Bool.eq_false_iff.mpr dirty) known) (treat_treats h)
    · rename_i unknown
      obtain ⟨rfl, rfl⟩ := of_pure h
      exact .undiagnosed starts (Bool.eq_false_iff.mpr dirty) (Bool.eq_false_iff.mpr unknown)

theorem iterate_iterates {p : Progress} {turn : Turn}
    (h : r.iterate index label language p s = (turn, t)) :
    Iterates r index label language p s turn t := by
  unfold iterate at h
  obtain ⟨_, s₁, h₁, h⟩ := of_bind h
  obtain ⟨answer, s₂, h₂, h⟩ := of_bind h
  have examines : Examines r language p.current s answer s₂ := ⟨s₁, h₁, h₂⟩
  cases answer with
  | error fault =>
      obtain ⟨rfl, rfl⟩ := of_pure h
      exact .faulted examines
  | ok result =>
      dsimp only at h
      split at h
      · rename_i spawnFailed
        obtain ⟨rfl, rfl⟩ := of_pure h
        exact .notStarted examines spawnFailed
      · rename_i started
        split at h
        · rename_i late
          obtain ⟨_, s₃, h₃, h⟩ := of_bind h
          refine iterate_rest ⟨⟨s₂, examines, ?_⟩, started⟩ h
          rw [noteTimeout, if_pos late]
          exact h₃
        · rename_i inTime
          refine iterate_rest ⟨⟨s₂, examines, ?_⟩, started⟩ h
          rw [noteTimeout, if_neg inTime]
          rfl

end Repairer

end Remedy
