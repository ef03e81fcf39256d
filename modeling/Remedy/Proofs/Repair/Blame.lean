import Remedy.Proofs.Report.Coherence
import Remedy.Proofs.Repair.Narration

/-!
# What a diagnosis is made of

What a round makes of the runs of its text and of the harnesses around it (`Attributed`): it ends for
the environment exactly if its own run could not be started or the sandbox had a fault
(`environmentFailure?`), and else its diagnosis is a function of these runs (`diagnosisOf?`). Of its
own run the status is looked at first, so that a limit that was hit is diagnosed as such. Of a
harness only the output is looked at: whatever its status, a run that does not print the expected
result is a failed case, and the defect of the case may be the diagnosis (`blamed?`). So limits and
failed starts are kept apart from defects exactly in the rounds that `repair_attributes` describes,
and not in all of them (`interrupted_case_diagnosed`).
-/

namespace Remedy

open Repairing

def Call.fault? (call : Call) : Option SandboxFault :=
  match call.answer with
  | .ok _ => none
  | .error fault => some fault

def Call.result? (call : Call) : Option RunResult := call.answer.toOption

namespace Repairer

variable {r : Repairer} {index : Nat} {label : String} {language : Language} {s t u : Session}
  {text : String} {config : RepairConfig}

/-! ## Runs of cases -/

/-- A case with the result of the run of its harness. -/
structure CaseRun where
  case : Cases.TestCase
  result : RunResult

namespace CaseRun

/-- What the run says of the case. -/
def judged (run : CaseRun) : Cases.CaseResult := Cases.judge run.case run.result

def failed (run : CaseRun) : Bool := !run.judged.passed

def finding (run : CaseRun) : Finding := Cases.findingOf run.judged

end CaseRun

/-- The runs of cases that were answered with a result. -/
def caseRuns (programs : List (Cases.TestCase × String)) (calls : List Call) : List CaseRun :=
  (programs.zip calls).filterMap fun p => p.2.result?.map fun result => ⟨p.1.1, result⟩

/-- The runs of the cases in a text. -/
def runsOf (language : Language) (text : String) (calls : List Call) : List CaseRun :=
  caseRuns (casePrograms language text (Cases.read text)) calls

/-- The run of a failed case that is repaired first: the earliest one of the best rank. -/
def blamed? (runs : List CaseRun) : Option CaseRun :=
  firstLeast? (·.finding.category.rank) (runs.filter CaseRun.failed)

theorem findings_judged (runs : List CaseRun) :
    Cases.findings (runs.map CaseRun.judged) = (runs.filter CaseRun.failed).map CaseRun.finding := by
  rw [Cases.findings, List.filter_map, List.map_map]
  rfl

theorem topPriority?_failed (runs : List CaseRun) :
    Finding.topPriority? ((runs.filter CaseRun.failed).map CaseRun.finding)
      = (blamed? runs).map CaseRun.finding :=
  firstLeast?_map CaseRun.finding (·.category.rank) _

/-- Cases end with the fault that one of them was answered with, or with the results of all. -/
theorem CasesRun.found_eq {programs : List (Cases.TestCase × String)} {calls : List Call}
    {found : Except SandboxFault (List Cases.CaseResult)} (h : CasesRun programs calls found) :
    found = match calls.findSome? Call.fault? with
      | some fault => .error fault
      | none => .ok ((caseRuns programs calls).map CaseRun.judged) := by
  induction h with
  | done => rfl
  | faulted => rfl
  | @ran case program rest result calls found others ih =>
      have hnone : Call.fault? ⟨.harness, program, .ok result⟩ = none := rfl
      rw [ih, List.findSome?_cons, hnone]
      dsimp only
      cases calls.findSome? Call.fault? <;> rfl

theorem CasesRun.results_eq {programs : List (Cases.TestCase × String)} {calls : List Call}
    {found : Except SandboxFault (List Cases.CaseResult)} (h : CasesRun programs calls found) :
    (caseRuns programs calls).map CaseRun.result = calls.filterMap Call.result? := by
  induction h with
  | done => rfl
  | faulted => rw [caseRuns, List.zip_cons_cons, List.zip_nil_right]; rfl
  | ran others ih => exact congrArg _ ih

theorem caseRuns_nil (programs : List (Cases.TestCase × String)) : caseRuns programs [] = [] := by
  rw [caseRuns, List.zip_nil_right]
  rfl

theorem Checked.found_eq {calls : List Call} {found : Except SandboxFault (List Finding)}
    (h : Checked config language text calls found) :
    found = match calls.findSome? Call.fault? with
      | some fault => .error fault
      | none => .ok (((runsOf language text calls).filter CaseRun.failed).map CaseRun.finding) := by
  cases h with
  | run enabled runs =>
      rw [runs.found_eq]
      cases List.findSome? Call.fault? calls with
      | some fault => rfl
      | none => exact congrArg Except.ok (findings_judged _)
  | skipped disabled =>
      rw [runsOf, caseRuns_nil]
      rfl

theorem Checked.results_eq {calls : List Call} {found : Except SandboxFault (List Finding)}
    (h : Checked config language text calls found) :
    (runsOf language text calls).map CaseRun.result = calls.filterMap Call.result? := by
  cases h with
  | run enabled runs => exact runs.results_eq
  | skipped disabled =>
      rw [runsOf, caseRuns_nil]
      rfl

/-! ## Diagnoses -/

/-- The defect that the check of a clean run finds, by the runs of its cases. -/
def defect? (config : RepairConfig) (language : Language) (text : String) (result : RunResult)
    (checks : List Call) : Option ErrorRecord :=
  match blamed? (runsOf language text checks) with
  | some run => some (.ofFinding run.finding text)
  | none => (Finding.topPriority? (quietFindings config language text result)).map
      fun f => .ofFinding f text

/-- What the environment failed with when a text was run and checked. -/
def environmentFailure? (answer : Answer) (checks : List Call) : Option String :=
  match answer with
  | .error fault => some fault.message
  | .ok result =>
    if result.status = .spawnFailed then some result.stderr
    else (checks.findSome? Call.fault?).map fun fault => (RepairFault.sandbox fault).message

/-- The diagnosis of a text by its run and its check. -/
def diagnosisOf? (config : RepairConfig) (language : Language) (text : String) (answer : Answer)
    (checks : List Call) : Option ErrorRecord :=
  match answer with
  | .error _ => none
  | .ok result =>
    if (environmentFailure? (.ok result) checks).isSome then none
    else if result.succeeded then defect? config language text result checks
    else (some (ErrorRecord.ofRun result text)).filter ErrorRecord.isError

/-- A turn is what the run of its text and the check of this run come to. -/
structure Attributed (config : RepairConfig) (language : Language) (text : String)
    (answer : Answer) (checks : List Call) (turn : Turn) : Prop where
  environment : ∀ message, turn.verdict = .failed (.environment message) ↔
    environmentFailure? answer checks = some message
  diagnosis : turn.record.diagnosis = diagnosisOf? config language text answer checks
  /-- Only a clean run is checked. -/
  checked : (∃ result, answer = .ok result ∧ result.succeeded = true) ∨ checks = []
  /-- The check is a run of each case, until the sandbox has a fault. -/
  cases : (runsOf language text checks).map CaseRun.result = checks.filterMap Call.result?

theorem settle_checked {calls : List Call} {found : Except SandboxFault (List Finding)}
    (h : Checked config language text calls found) (result : RunResult) :
    settle config language text result found = match calls.findSome? Call.fault? with
      | some fault => .error (.sandbox fault)
      | none => .ok (defect? config language text result calls) := by
  rw [h.found_eq]
  cases calls.findSome? Call.fault? with
  | some fault => rfl
  | none =>
      have htop := topPriority?_failed (runsOf language text calls)
      dsimp only [settle]
      rw [defect?]
      cases hblamed : blamed? (runsOf language text calls) with
      | none =>
          rw [hblamed] at htop
          rw [topPriority?_eq_none.mp htop]
          rfl
      | some run =>
          rw [hblamed] at htop
          have hne : ¬ (((runsOf language text calls).filter CaseRun.failed).map
              CaseRun.finding).isEmpty = true := fun hempty => by
            rw [List.isEmpty_iff.mp hempty] at htop
            cases htop
          rw [if_neg hne, htop]
          rfl

/-! ## Ways to attribute a turn -/

theorem attributed_of_unstarted {answer : Answer} {message : String} {p : Progress}
    (h : environmentFailure? answer [] = some message) :
    Attributed config language text answer []
      (.failed index none (.environment message) p) where
  environment m := by
    rw [h]
    simp [Turn.failed]
  diagnosis := by
    cases answer with
    | error fault => rfl
    | ok result =>
        rw [diagnosisOf?, h]
        rfl
  checked := .inr rfl
  cases := by
    rw [runsOf, caseRuns_nil]
    rfl

/-- A turn after a run that was started and failed. -/
theorem attributed_of_dirty {result : RunResult} {turn : Turn} (started : result.status ≠ .spawnFailed)
    (dirty : result.succeeded = false)
    (diagnosis : turn.record.diagnosis
      = (some (ErrorRecord.ofRun result text)).filter ErrorRecord.isError)
    (hverdict : ∀ message, turn.verdict ≠ .failed (.environment message)) :
    Attributed config language text (.ok result) [] turn := by
  have hnone : environmentFailure? (.ok result) [] = none := by
    rw [environmentFailure?, if_neg started]
    rfl
  refine ⟨fun message => ?_, ?_, .inr rfl, ?_⟩
  · rw [hnone]
    exact iff_of_false (hverdict message) nofun
  · rw [diagnosis, diagnosisOf?, hnone, dirty]
    rfl
  · rw [runsOf, caseRuns_nil]
    rfl

/-- A turn after a clean run, by what its check found. -/
theorem attributed_of_clean {result : RunResult} {turn : Turn} {checks : List Call}
    {found : Except SandboxFault (List Finding)} (clean : result.succeeded = true)
    (checked : Checked config language text checks found)
    (faulted : ∀ fault, settle config language text result found = .error fault →
      turn.verdict = .failed (.environment fault.message) ∧ turn.record.diagnosis = none)
    (settled : ∀ d, settle config language text result found = .ok d →
      turn.record.diagnosis = d ∧ ∀ message, turn.verdict ≠ .failed (.environment message)) :
    Attributed config language text (.ok result) checks turn := by
  have started : result.status ≠ .spawnFailed := by
    rw [(RunResult.succeeded_iff.mp clean).1]
    exact nofun
  have henvironment : environmentFailure? (.ok result) checks
      = (checks.findSome? Call.fault?).map fun fault => (RepairFault.sandbox fault).message := by
    rw [environmentFailure?, if_neg started]
  have hsettle := settle_checked checked result
  cases hfault : checks.findSome? Call.fault? with
  | some fault =>
      rw [hfault] at henvironment hsettle
      obtain ⟨hverdict, hdiagnosis⟩ := faulted _ hsettle
      refine ⟨fun message => ?_, ?_, .inl ⟨result, rfl, clean⟩, checked.results_eq⟩
      · rw [henvironment, hverdict]
        simp
      · rw [hdiagnosis, diagnosisOf?, henvironment]
        rfl
  | none =>
      rw [hfault] at henvironment hsettle
      obtain ⟨hdiagnosis, hverdict⟩ := settled _ hsettle
      refine ⟨fun message => ?_, ?_, .inl ⟨result, rfl, clean⟩, checked.results_eq⟩
      · rw [henvironment]
        exact iff_of_false (hverdict message) nofun
      · rw [hdiagnosis, diagnosisOf?, henvironment, if_pos clean]
        rfl

/-! ## Iterations -/

/-- A treatment begins with the runs of candidates, if it runs anything, and does not end for the
environment. -/
theorem Treats.after_diagnosis {p : Progress} {baseline : RunResult} {d : ErrorRecord} {turn : Turn}
    (h : Treats r index label language p baseline d s turn t) :
    (∃ calls, Grows r.executor language r.config.limits s t calls
        ∧ calls.takeWhile isHarness = [])
      ∧ turn.record.diagnosis = some d
      ∧ ∀ message, turn.verdict ≠ .failed (.environment message) := by
  have hfirst {runs : List (Candidate × RunResult)} {calls : List Call} (after : List Call)
      (hruns : List.Forall₂ (RunOf language) runs calls) (hne : runs ≠ []) :
      (calls ++ after).takeWhile isHarness = [] := by
    cases hruns with
    | nil => exact absurd rfl hne
    | cons hrun hrest => simp [isHarness, hrun.purpose]
  have hne {runs : List (Candidate × RunResult)} {selection : Selection}
      (hsel : Selection.of? baseline (runs.map fun run => .of baseline run.1 run.2)
        = some selection) : runs ≠ [] := by
    rintro rfl
    cases (Selection.of?_eq_none.mpr rfl).symm.trans hsel
  cases h with
  | untreated proposed none =>
      refine ⟨⟨[], Grows.of_generate proposed, rfl⟩, rfl, fun message heq => ?_⟩
      cases heq
  | unsuitable selects worthless told =>
      obtain ⟨runs, calls, -, hg, hruns, hsel, -⟩ := selects.log
      refine ⟨⟨_, hg.trans (Grows.of_tell told), hfirst [] hruns (hne hsel)⟩, rfl,
        fun message heq => ?_⟩
      cases heq
  | committed selects worth commits =>
      obtain ⟨runs, calls, -, hg, hruns, hsel, -⟩ := selects.log
      obtain ⟨checks, hg', -⟩ := commits.grows
      obtain ⟨-, hquiet⟩ := commits.events
      refine ⟨⟨_, hg.trans hg', hfirst checks hruns (hne hsel)⟩, ?_, ?_⟩
      · obtain ⟨status, verdict, rfl, -⟩ := commits.eq_committed
        rfl
      · intro message heq
        cases commits <;> cases heq

/-- A round runs its text and checks it, by which its turn is attributed, before anything else. -/
theorem Iterates.attributed {p : Progress} {turn : Turn}
    (h : Iterates r index label language p s turn t) :
    ∃ answer checks rest,
      Grows r.executor language r.config.limits s t
          (⟨.current, p.current, answer⟩ :: (checks ++ rest))
        ∧ (∀ c ∈ checks, isHarness c = true) ∧ rest.takeWhile isHarness = []
        ∧ Attributed r.config language p.current answer checks turn := by
  cases h with
  | faulted examines =>
      exact ⟨_, [], [], examines.grows, List.forall_mem_nil _, rfl,
        attributed_of_unstarted rfl⟩
  | notStarted examines spawnFailed =>
      exact ⟨_, [], [], examines.grows, List.forall_mem_nil _, rfl,
        attributed_of_unstarted (if_pos spawnFailed)⟩
  | checkFaulted starts clean check =>
      obtain ⟨checks, found, hg, checked, hfound⟩ := logicalDiagnosis_checked check
      refine ⟨_, checks, [], ?_, checked.isHarness, rfl,
        attributed_of_clean clean checked (fun fault hfault => ?_) fun d hd => ?_⟩
      · rw [List.append_nil]
        exact starts.grows.trans hg
      · cases hfound.trans hfault
        exact ⟨rfl, rfl⟩
      · cases hfound.trans hd
  | clean starts clean check =>
      obtain ⟨checks, found, hg, checked, hfound⟩ := logicalDiagnosis_checked check
      refine ⟨_, checks, [], ?_, checked.isHarness, rfl,
        attributed_of_clean clean checked (fun fault hfault => ?_) fun d hd => ?_⟩
      · rw [List.append_nil]
        exact starts.grows.trans hg
      · cases hfound.trans hfault
      · cases hfound.trans hd
        exact ⟨rfl, nofun⟩
  | undiagnosed starts dirty unknown =>
      refine ⟨_, [], [], starts.grows, List.forall_mem_nil _, rfl,
        attributed_of_dirty starts.started dirty ?_ nofun⟩
      rw [Option.filter_some, unknown]
      rfl
  | treated diagnoses treats =>
      obtain ⟨⟨calls, hg', hcalls⟩, hdiagnosis, hverdict⟩ := treats.after_diagnosis
      cases diagnoses with
      | crash starts dirty known =>
          refine ⟨_, [], calls, starts.grows.trans hg', List.forall_mem_nil _, hcalls,
            attributed_of_dirty starts.started dirty ?_ hverdict⟩
          rw [hdiagnosis, Option.filter_some, known]
          rfl
      | defect starts clean check =>
          obtain ⟨checks, found, hg, checked, hfound⟩ := logicalDiagnosis_checked check
          refine ⟨_, checks, calls, (starts.grows.trans hg).trans hg', checked.isHarness, hcalls,
            attributed_of_clean clean checked (fun fault hfault => ?_) fun d hd => ?_⟩
          · cases hfound.trans hfault
          · cases hfound.trans hd
            exact ⟨hdiagnosis, hverdict⟩

/-! ## Rounds -/

/-- The calls by which a round checked the text that it began with. -/
def Round.checks (round : Round) : List Call := round.calls.tail.takeWhile isHarness

/-- A round first runs the text that it began with, and is attributed by this run and its check. -/
structure Round.Attributed (r : Repairer) (language : Language) (round : Round) (answer : Answer) :
    Prop where
  ran : round.calls.head? = some ⟨.current, round.progress.current, answer⟩
  turn : Repairer.Attributed r.config language round.progress.current answer round.checks
    round.turn

theorem Iterates.round_attributed {p : Progress} {turn : Turn}
    (h : Iterates r index label language p s turn t) :
    ∃ answer, Round.Attributed r language ⟨p, s, turn, t⟩ answer := by
  obtain ⟨answer, checks, rest, hg, hharness, hrest, attributed⟩ := h.attributed
  have hcalls : Round.calls ⟨p, s, turn, t⟩
      = ⟨.current, p.current, answer⟩ :: (checks ++ rest) := by
    rw [Round.calls, hg.log, List.drop_left]
  have hchecks : Round.checks ⟨p, s, turn, t⟩ = checks := by
    rw [Round.checks, hcalls, List.tail_cons, List.takeWhile_append_of_pos hharness, hrest,
      List.append_nil]
  refine ⟨answer, ?_, ?_⟩
  · rw [hcalls]
    rfl
  · rw [hchecks]
    exact attributed

theorem Linked.attributed {p last : Progress} {rounds : List Round}
    (h : Linked r label language index p s rounds last t) :
    ∀ round ∈ rounds, ∃ answer, round.Attributed r language answer := by
  induction h with
  | done => exact List.forall_mem_nil _
  | step iterates told rest ih => exact List.forall_mem_cons.mpr ⟨iterates.round_attributed, ih⟩

/-! ## Limits, failed starts and defects -/

/-- The diagnosis of a round is the defect that the run of a case tells. -/
def Round.Accuses (language : Language) (round : Round) (run : CaseRun) : Prop :=
  blamed? (runsOf language round.progress.current round.checks) = some run
    ∧ round.turn.record.diagnosis = some (.ofFinding run.finding round.progress.current)

/-- A round keeps the runs that it is diagnosed by apart from defects, if they hit a limit, and ends
for the environment if one of them could not be started. -/
structure Round.KeepsApart (language : Language) (round : Round) (answer : Answer) : Prop where
  own : ∀ result, answer = .ok result → result.status.isResourceViolation = true →
    ∀ category, round.turn.record.diagnosis.bind (·.kind) ≠ some (.logical category)
  harnesses : ∀ run, round.Accuses language run → run.result.status.isResourceViolation = false
  environment : ∀ result, answer = .ok result ∨ (∃ c ∈ round.checks, c.answer = .ok result) →
    result.status = .spawnFailed → ∃ message, round.turn.verdict = .failed (.environment message)

section Apart

variable {answer : Answer} {checks : List Call} {turn : Turn} {result : RunResult}

theorem Attributed.of_failure (h : Attributed config language text answer checks turn)
    {message : String} (hfailure : environmentFailure? answer checks = some message) :
    turn.verdict = .failed (.environment message) ∧ turn.record.diagnosis = none := by
  refine ⟨(h.environment message).mpr hfailure, h.diagnosis.trans ?_⟩
  cases answer with
  | error fault => rfl
  | ok result =>
      rw [diagnosisOf?, hfailure]
      rfl

/-- A limit that the run of the text hit is diagnosed as what it is. -/
theorem Attributed.limit (h : Attributed config language text (.ok result) checks turn) :
    (result.status = .timedOut → turn.record.diagnosis.bind (·.kind) = some .timedOut)
      ∧ (result.status = .memoryExceeded →
        turn.record.diagnosis.bind (·.kind) = some .memoryExceeded) := by
  have hdiagnosis (kind : ErrorKind) (started : result.status ≠ .spawnFailed)
      (dirty : result.succeeded = false) (hkind : (ErrorRecord.ofRun result text).kind = some kind) :
      turn.record.diagnosis.bind (·.kind) = some kind := by
    obtain rfl : checks = [] := by
      rcases h.checked with ⟨other, heq, clean⟩ | hnil
      · cases heq
        cases clean.symm.trans dirty
      · exact hnil
    have hnone : environmentFailure? (.ok result) [] = none := by
      rw [environmentFailure?, if_neg started]
      rfl
    have herror : (ErrorRecord.ofRun result text).isError = true := by
      rw [ErrorRecord.isError, hkind]
      rfl
    rw [h.diagnosis, diagnosisOf?, hnone, dirty]
    simp [Option.filter_some, herror, hkind]
  refine ⟨fun hstatus => ?_, fun hstatus => ?_⟩
  · exact hdiagnosis _ (by rw [hstatus]; decide) (by rw [RunResult.succeeded, hstatus]; rfl)
      (ErrorRecord.kind_ofRun_of_timedOut text hstatus)
  · exact hdiagnosis _ (by rw [hstatus]; decide) (by rw [RunResult.succeeded, hstatus]; rfl)
      (ErrorRecord.kind_ofRun_of_memoryExceeded text hstatus)

theorem Attributed.not_logical (h : Attributed config language text (.ok result) checks turn)
    (violated : result.status.isResourceViolation = true) (category : FindingCategory) :
    turn.record.diagnosis.bind (·.kind) ≠ some (.logical category) := by
  cases hstatus : result.status with
  | timedOut =>
      rw [h.limit.1 hstatus]
      exact nofun
  | memoryExceeded =>
      rw [h.limit.2 hstatus]
      exact nofun
  | _ =>
      rw [hstatus] at violated
      cases violated

end Apart

namespace Round.Attributed

variable {round : Round} {answer : Answer}

/-- A round that ends for the environment has no diagnosis, of a defect or else. -/
theorem keepsApart_of_failure (h : round.Attributed r language answer) {message : String}
    (hfailure : environmentFailure? answer round.checks = some message) :
    round.KeepsApart language answer := by
  obtain ⟨hverdict, hdiagnosis⟩ := h.turn.of_failure hfailure
  refine ⟨fun _ _ _ _ => ?_, fun run accuses => ?_, fun _ _ _ => ⟨message, hverdict⟩⟩
  · rw [hdiagnosis]
    exact nofun
  · cases hdiagnosis.symm.trans accuses.2

/-- A round that checks nothing is diagnosed by its own run alone, and so keeps it apart. -/
theorem keepsApart_of_unchecked (h : round.Attributed r language answer)
    (hnil : round.checks = []) : round.KeepsApart language answer := by
  refine ⟨fun result heq violated => ?_, fun run accuses => ?_, fun result hran hspawn => ?_⟩
  · subst heq
    exact h.turn.not_logical violated
  · have hblamed := accuses.1
    rw [hnil, runsOf, caseRuns_nil] at hblamed
    cases hblamed
  · rcases hran with rfl | ⟨c, hc, -⟩
    · exact ⟨_, (h.turn.environment _).mpr (if_pos hspawn)⟩
    · rw [hnil] at hc
      cases hc

/-- Where nothing failed for the environment, a harness that could not be started is not kept apart,
nor is a limit that the harness to repair first hit. -/
theorem keepsApart_iff_of_sound {result : RunResult} (h : round.Attributed r language (.ok result))
    (clean : result.succeeded = true)
    (sound : environmentFailure? (.ok result) round.checks = none) :
    round.KeepsApart language (.ok result) ↔
      (∀ c ∈ round.checks, ∀ result, c.answer = .ok result → result.status ≠ .spawnFailed)
        ∧ ∀ run, blamed? (runsOf language round.progress.current round.checks) = some run →
          run.result.status.isResourceViolation = false := by
  have hstatus := (RunResult.succeeded_iff.mp clean).1
  constructor
  · intro apart
    refine ⟨fun c hc other hanswer hspawn => ?_, fun run hblamed => ?_⟩
    · obtain ⟨message, hfailed⟩ := apart.environment other (.inr ⟨c, hc, hanswer⟩) hspawn
      cases sound.symm.trans ((h.turn.environment message).mp hfailed)
    · refine apart.harnesses run ⟨hblamed, ?_⟩
      rw [h.turn.diagnosis, diagnosisOf?, sound, if_pos clean, defect?, hblamed]
      rfl
  · rintro ⟨hstarted, hlimits⟩
    refine ⟨fun other heq violated => ?_, fun run accuses => hlimits run accuses.1,
      fun other hran hspawn => ?_⟩
    · cases heq
      rw [hstatus] at violated
      cases violated
    · rcases hran with heq | ⟨c, hc, hanswer⟩
      · cases heq
        cases hstatus.symm.trans hspawn
      · exact absurd hspawn (hstarted c hc other hanswer)

/-- Only the checks of a round can mix up a limit or a failed start with a defect: if none of them
has a fault, by a harness that could not be started, or one that hit a limit and is repaired
first. -/
theorem keepsApart_iff (h : round.Attributed r language answer) :
    round.KeepsApart language answer ↔
      (∃ c ∈ round.checks, c.fault?.isSome = true)
        ∨ (∀ c ∈ round.checks, ∀ result, c.answer = .ok result → result.status ≠ .spawnFailed)
          ∧ ∀ run, blamed? (runsOf language round.progress.current round.checks) = some run →
            run.result.status.isResourceViolation = false := by
  rcases h.turn.checked with ⟨result, rfl, clean⟩ | hnil
  · have henvironment : environmentFailure? (.ok result) round.checks
        = (round.checks.findSome? Call.fault?).map
          fun fault => (RepairFault.sandbox fault).message := by
      rw [environmentFailure?, (RunResult.succeeded_iff.mp clean).1]
      exact if_neg (by decide)
    cases hfault : round.checks.findSome? Call.fault? with
    | some fault =>
        rw [hfault] at henvironment
        obtain ⟨c, hc, hcall⟩ := List.exists_of_findSome?_eq_some hfault
        exact iff_of_true (h.keepsApart_of_failure henvironment)
          (.inl ⟨c, hc, Option.isSome_iff_exists.mpr ⟨fault, hcall⟩⟩)
    | none =>
        rw [hfault] at henvironment
        have hnone : ¬ ∃ c ∈ round.checks, c.fault?.isSome = true := by
          rintro ⟨c, hc, hsome⟩
          rw [List.findSome?_eq_none_iff.mp hfault c hc] at hsome
          cases hsome
        rw [or_iff_right hnone]
        exact h.keepsApart_iff_of_sound clean henvironment
  · refine iff_of_true (h.keepsApart_of_unchecked hnil) (.inr ⟨?_, ?_⟩)
    · rw [hnil]
      exact List.forall_mem_nil _
    · rw [hnil, runsOf, caseRuns_nil]
      exact nofun

end Round.Attributed

/-! ## The law of a repair -/

/-- Every round of a repair is attributed by the run of its text and its check. A limit that its own
run hit is diagnosed as such; and it keeps limits and failed starts apart from defects exactly if a
harness has a fault, or if none could not be started and that of the case to repair first hit no
limit. -/
theorem repair_attributes (r : Repairer) (label : String) (language : Language) (source : String)
    (s : Session) :
    (r.repair label language source s).1.iterations
        = (r.rounds label language source s).map (·.turn.record)
      ∧ ∀ round ∈ r.rounds label language source s, ∃ answer,
        round.Attributed r language answer
          ∧ (∀ result, answer = .ok result →
            (result.status = .timedOut →
                round.turn.record.diagnosis.bind (·.kind) = some .timedOut)
              ∧ (result.status = .memoryExceeded →
                round.turn.record.diagnosis.bind (·.kind) = some .memoryExceeded))
          ∧ (round.KeepsApart language answer ↔
            (∃ c ∈ round.checks, c.fault?.isSome = true)
              ∨ (∀ c ∈ round.checks, ∀ result, c.answer = .ok result →
                  result.status ≠ .spawnFailed)
                ∧ ∀ run, blamed? (runsOf language round.progress.current round.checks) = some run →
                  run.result.status.isResourceViolation = false) := by
  obtain ⟨verdict, last, t', hlinked, -, -, -, -, hrecords⟩ :=
    repair_runs (Prod.eta (r.repair label language source s)).symm
  refine ⟨hrecords, fun round hround => ?_⟩
  obtain ⟨answer, attributed⟩ := hlinked.attributed round hround
  refine ⟨answer, attributed, fun result hanswer => ?_, attributed.keepsApart_iff⟩
  subst hanswer
  exact attributed.turn.limit

/-- A program with one test case. -/
def cased : String := "// TEST: a\n// INPUT: x\n// EXPECTED: x\n"

/-- A repairer without generators, where the program with the case is clean and any other one ends in
the given way. -/
def interrupter (status : RunStatus) : Repairer where
  executor _ _ _ source :=
    .ok { language := .javaScript, status := if source = cased then .completed else status,
          exitCode := if source = cased then 0 else 124, stdout := "", stderr := "",
          command := ["node", "main.js"] }
  generators := ⟨[]⟩
  sink _ _ := .ok ()
  config := {}

/-- The kinds that were diagnosed, and the reason for the end. -/
def verdictOf (status : RunStatus) : List (Option ErrorKind) × Option FailureReason :=
  let outcome := ((interrupter status).repair "main.js" .javaScript cased {}).1
  (outcome.iterations.map fun record => record.diagnosis.bind (·.kind), outcome.reason)

/-- Whatever keeps the only harness from printing a result, the case is diagnosed as a defect. -/
theorem interrupted_case_diagnosed :
    [RunStatus.timedOut, .memoryExceeded, .spawnFailed].map verdictOf
      = List.replicate 3 ([some (.logical .boundaryError)],
        some (.noCandidates (some (.logical .boundaryError)))) := by
  decide +kernel

end Repairer

end Remedy
