import Remedy.Cases.Harness
import Remedy.Diagnosis.Analysis
import Remedy.Diagnosis.Printed
import Remedy.Repair.Config
import Remedy.Repair.Session

/-!
# The repair loop

An iteration runs the current text and diagnoses it: a failed run by its report, a clean one by its
test cases, its output and the checks of its language. Then it asks for candidates, runs them all,
and commits the best if its score is positive. The repair ends when a text is clean, when an
iteration cannot go on, or when there is no iteration left.
-/

namespace Remedy

/-- The partners and the settings of a repair. -/
structure Repairer where
  executor : Executor
  generators : GeneratorTable
  sink : BackupSink
  config : RepairConfig

namespace Repairer

open Repairing

/-! ## Selection -/

/-- Runs a candidate; a fault of the sandbox counts as a run that could not be started. -/
def runCandidate (executor : Executor) (language : Language) (limits : Limits) (c : Candidate) :
    Repairing RunResult := do
  count fun k =>
    { k with sandboxRuns := k.sandboxRuns + 1, candidatesEvaluated := k.candidatesEvaluated + 1 }
  let result := match ← run executor language limits .candidate c.patched with
    | .ok result => result
    | .error fault => .spawnFailed language [] fault.message
  if result.timedOut then count fun k => { k with timeouts := k.timeouts + 1 }
  pure result

def runCandidates (executor : Executor) (language : Language) (limits : Limits) :
    List Candidate → Repairing (List (Candidate × RunResult))
  | [] => pure []
  | c :: rest => do
    let result ← runCandidate executor language limits c
    let others ← runCandidates executor language limits rest
    pure ((c, result) :: others)

def tellScores : List Scored → Repairing Unit
  | [] => pure ()
  | s :: rest => do
    tell (.candidateScored s.candidate.id s.score s.result.exitCode)
    tellScores rest

/-- Runs and ranks candidates against a baseline; without candidates there is nothing to select. -/
def selectAgainst (executor : Executor) (language : Language) (limits : Limits)
    (candidates : List Candidate) (baseline : RunResult) : Repairing (Option Selection) := do
  if candidates.isEmpty then pure none
  else
    let runs ← runCandidates executor language limits candidates
    let scored := runs.map fun (c, result) => Scored.of baseline c result
    tellScores scored
    pure (Selection.of? baseline scored)

/-- Runs a text as the baseline, then selects among candidates. A baseline that cannot be run is a
fault. -/
def select (executor : Executor) (language : Language) (limits : Limits)
    (candidates : List Candidate) (original : String) :
    Repairing (Except RepairFault (Option Selection)) := do
  if candidates.isEmpty then pure (.ok none)
  else
    count fun k => { k with sandboxRuns := k.sandboxRuns + 1 }
    match ← run executor language limits .current original with
    | .error fault => pure (.error (.sandbox fault))
    | .ok baseline => .ok <$> selectAgainst executor language limits candidates baseline

/-! ## Diagnosis -/

/-- Runs test cases around a text; a fault of the sandbox ends it. -/
def runCases (executor : Executor) (language : Language) (limits : Limits) (source : String) :
    List Cases.TestCase → Repairing (Except SandboxFault (List Cases.CaseResult))
  | [] => pure (.ok [])
  | case :: rest =>
    match Cases.harness? language source case.input with
    | none => runCases executor language limits source rest
    | some program => do
      match ← run executor language limits .harness program with
      | .error fault => pure (.error fault)
      | .ok result =>
        match ← runCases executor language limits source rest with
        | .error fault => pure (.error fault)
        | .ok others => pure (.ok (Cases.judge case result :: others))

def caseFindings (executor : Executor) (language : Language) (limits : Limits) (source : String) :
    Repairing (Except SandboxFault (List Finding)) := do
  if Cases.supports language then
    match ← runCases executor language limits source (Cases.read source) with
    | .error fault => pure (.error fault)
    | .ok results => pure (.ok (Cases.findings results))
  else pure (.ok [])

/-- The findings in a clean run of a text, its test cases left out. -/
def quietFindings (config : RepairConfig) (language : Language) (source : String)
    (result : RunResult) : List Finding :=
  Printed.inspect result.stdout
    ++ if config.enableStaticAnalysis then analyzeSource language source else []

/-- The defect to repair in a text whose run was clean. Failing test cases come first. -/
def logicalDiagnosis (r : Repairer) (language : Language) (source : String) (result : RunResult) :
    Repairing (Except RepairFault (Option ErrorRecord)) := do
  let cases ←
    if r.config.enableTestCases then
      caseFindings r.executor language r.config.limits source
    else pure (.ok [])
  match cases with
  | .error fault => pure (.error (.sandbox fault))
  | .ok failed =>
    let findings :=
      if failed.isEmpty then quietFindings r.config language source result else failed
    pure (.ok ((Finding.topPriority? findings).map fun f => .ofFinding f source))

/-! ## Iterations -/

/-- What the loop carries on: the current text and the fingerprints that were tried. -/
structure Progress where
  current : String
  tried : List String := []

/-- Whether and how the loop ends after an iteration. -/
inductive Verdict where
  | running
  | succeeded
  | failed (reason : FailureReason)
deriving Repr, DecidableEq

/-- What an iteration gives: its record, whether the loop goes on, and what it carries on. -/
structure Turn where
  record : IterationRecord
  verdict : Verdict
  progress : Progress

/-- An iteration that ends the repair. -/
def Turn.failed (index : Nat) (diagnosis : Option ErrorRecord) (reason : FailureReason)
    (progress : Progress) : Turn :=
  ⟨⟨index, diagnosis, none, .failed⟩, .failed reason, progress⟩

/-- Commits a candidate; if its own run was clean, looks whether anything is left to do. -/
def commit (r : Repairer) (index : Nat) (label : String) (language : Language)
    (diagnosis : ErrorRecord) (progress : Progress) (best : Scored) : Repairing Turn := do
  backUp r.sink ⟨label, progress.current⟩
  count fun k => { k with patchesCommitted := k.patchesCommitted + 1 }
  let next : Progress := { progress with current := best.candidate.patched }
  let clean := best.result.succeeded
  let record : IterationRecord :=
    ⟨index, some diagnosis, some (.of best), if clean then .fixed else .retrying⟩
  if clean then
    match ← r.logicalDiagnosis language next.current best.result with
    | .ok none => pure ⟨record, .succeeded, next⟩
    | .ok (some _) | .error _ => pure ⟨record, .running, next⟩
  else pure ⟨record, .running, next⟩

/-- Looks for a patch for a diagnosis of the current text, whose run is the baseline. -/
def treat (r : Repairer) (index : Nat) (label : String) (language : Language)
    (progress : Progress) (result : RunResult) (diagnosis : ErrorRecord) : Repairing Turn := do
  let generated ← generate r.generators language
    ⟨diagnosis, progress.current, r.config.allowEfficiencyVariants⟩
  let candidates := Candidate.usable r.config.rules progress.current progress.tried
    r.config.maxCandidates generated
  let nothing := Turn.failed index (some diagnosis) (.noCandidates diagnosis.kind) progress
  if candidates.isEmpty then pure nothing
  else
    let progress := { progress with
      tried := progress.tried ++ candidates.map Candidate.fingerprint }
    match ← selectAgainst r.executor language r.config.limits candidates result with
    | none => pure { nothing with progress }
    | some selection =>
      if 0 < selection.best.score then
        r.commit index label language diagnosis progress selection.best
      else
        tell (.selectionFailed selection.scores)
        pure (.failed index (some diagnosis) (.noSuitablePatch selection.scores) progress)

def iterate (r : Repairer) (index : Nat) (label : String) (language : Language)
    (progress : Progress) : Repairing Turn := do
  count fun k => { k with sandboxRuns := k.sandboxRuns + 1 }
  match ← run r.executor language r.config.limits .current progress.current with
  | .error fault => pure (.failed index none (.environment fault.message) progress)
  | .ok result =>
    if result.status = .spawnFailed then
      pure (.failed index none (.environment result.stderr) progress)
    else
      if result.timedOut then count fun k => { k with timeouts := k.timeouts + 1 }
      if result.succeeded then
        match ← r.logicalDiagnosis language progress.current result with
        | .error fault => pure (.failed index none (.environment fault.message) progress)
        | .ok none => pure ⟨⟨index, none, none, .fixed⟩, .succeeded, progress⟩
        | .ok (some diagnosis) => r.treat index label language progress result diagnosis
      else
        let diagnosis := ErrorRecord.ofRun result progress.current
        if diagnosis.isError then r.treat index label language progress result diagnosis
        else pure (.failed index none (.undiagnosable result.exitCode) progress)

/-! ## The loop -/

/-- Up to `left` further iterations, the first of them numbered `index`; gives their records, how
the loop ended and what it carried on. -/
def iterations (r : Repairer) (label : String) (language : Language) :
    (left index : Nat) → Progress → Repairing (List IterationRecord × Verdict × Progress)
  | 0, _, progress => pure ([], .running, progress)
  | left + 1, index, progress => do
    let turn ← r.iterate index label language progress
    tell (.iterationFinished index turn.record.status (turn.record.appliedPatch.map (·.id)))
    match turn.verdict with
    | .running => do
      let (records, verdict, last) ← iterations r label language left (index + 1) turn.progress
      pure (turn.record :: records, verdict, last)
    | verdict => pure ([turn.record], verdict, turn.progress)

def Verdict.outcome (maxIterations : Nat) : Verdict → RepairStatus × Option FailureReason
  | .succeeded => (.success, none)
  | .failed reason => (.failed, some reason)
  | .running => (.maxIterationsReached, some (.budgetExhausted maxIterations))

def flush : Repairing Unit := do
  let k := (← get).counters
  tell (.counted k.sandboxRuns k.timeouts k.candidatesEvaluated k.patchesCommitted)

/-- Repairs a program text; the label names it in events and backups. -/
def repair (r : Repairer) (label : String) (language : Language) (source : String) :
    Repairing RepairOutcome := do
  tell (.span label)
  tell (.repairStarted label language r.config.maxIterations)
  let (records, verdict, last) ←
    r.iterations label language r.config.maxIterations 1 { current := source }
  let (status, reason) := verdict.outcome r.config.maxIterations
  tell (.repairFinished label status records.length)
  flush
  pure
    { success := status = .success, finalSource := last.current, iterations := records, status,
      reason }

/-- The label of a text that comes from no file. -/
def defaultLabel : String := "source"

/-- Repairs the text of a file, if there is one; its path tells the language and is the label. -/
def repairFile (r : Repairer) (path : String) (content : Option String) :
    Repairing (Except RepairFault RepairOutcome) :=
  match Language.detect path with
  | .error fault => pure (.error (.sandbox fault))
  | .ok language =>
    match content with
    | none => pure (.error (.io "No such file or directory (os error 2)"))
    | some source => .ok <$> r.repair path language source

end Repairer

end Remedy
