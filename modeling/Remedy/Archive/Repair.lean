import Remedy.Archive.Diagnosis
import Remedy.Archive.Sandbox
import Remedy.Repair.Config
import Remedy.Repair.Outcome

/-!
# The archived form of candidates, outcomes and settings
-/

namespace Remedy

open Archive

/-! ## Candidates -/

def PatchKind.toJson : PatchKind → Json
  | .correctness => .str "correctness"
  | .efficiency => .str "efficiency"

def PatchKind.ofJson? (j : Json) : Option PatchKind := do
  match ← name? j with
  | "correctness" => pure .correctness
  | "efficiency" => pure .efficiency
  | _ => none

namespace Candidate

def fieldNames : List String :=
  ["id", "description", "patched_source", "diff", "kind", "primary"]

def toJson (c : Candidate) : Json :=
  .ofFields [("id", .str c.id), ("description", .str c.description),
    ("patched_source", .str c.patched), ("diff", .str c.diff), ("kind", c.kind.toJson),
    ("primary", .bool c.primary)]

def ofJson? (j : Json) : Option Candidate := do
  let fields ← record? fieldNames j
  pure
    { id := ← fields.get? "id" text?
      description := ← fields.get? "description" text?
      patched := ← fields.get? "patched_source" text?
      diff := ← fields.get? "diff" text?
      kind := ← fields.get? "kind" PatchKind.ofJson?
      primary := ← fields.get? "primary" bool? }

end Candidate

namespace ScoreBreakdown

def fieldNames : List String :=
  ["exit_bonus", "primary_bonus", "error_delta", "kind_transition", "diff_size", "output_bonus"]

def toJson (s : ScoreBreakdown) : Json :=
  .ofFields [("exit_bonus", .ofInt s.exitBonus), ("primary_bonus", .ofInt s.primaryBonus),
    ("error_delta", .ofInt s.errorDelta), ("kind_transition", .ofInt s.kindTransition),
    ("diff_size", .ofInt s.diffSize), ("output_bonus", .ofInt s.outputBonus)]

def ofJson? (j : Json) : Option ScoreBreakdown := do
  let fields ← record? fieldNames j
  pure
    { exitBonus := ← fields.get? "exit_bonus" int64?
      primaryBonus := ← fields.get? "primary_bonus" int64?
      errorDelta := ← fields.get? "error_delta" int64?
      kindTransition := ← fields.get? "kind_transition" int64?
      diffSize := ← fields.get? "diff_size" int64?
      outputBonus := ← fields.get? "output_bonus" int64? }

end ScoreBreakdown

namespace Scored

def fieldNames : List String := ["candidate", "score", "breakdown", "result"]

def toJson (s : Scored) : Json :=
  .ofFields [("candidate", s.candidate.toJson), ("score", .ofInt s.score),
    ("breakdown", s.breakdown.toJson), ("result", s.result.toJson)]

def ofJson? (j : Json) : Option Scored := do
  let fields ← record? fieldNames j
  pure
    { candidate := ← fields.get? "candidate" Candidate.ofJson?
      score := ← fields.get? "score" int64?
      breakdown := ← fields.get? "breakdown" ScoreBreakdown.ofJson?
      result := ← fields.get? "result" RunResult.ofJson? }

end Scored

namespace Selection

def toJson (s : Selection) : Json :=
  .ofFields [("best", s.best.toJson), ("ranked", .ofList Scored.toJson s.ranked),
    ("baseline", s.baseline.toJson)]

def ofJson? (j : Json) : Option Selection := do
  let fields ← record? ["best", "ranked", "baseline"] j
  pure
    { best := ← fields.get? "best" Scored.ofJson?
      ranked := ← fields.get? "ranked" (list? Scored.ofJson?)
      baseline := ← fields.get? "baseline" RunResult.ofJson? }

end Selection

def CandidateScore.toJson (s : CandidateScore) : Json :=
  .ofFields [("id", .str s.id), ("score", .ofInt s.score)]

def CandidateScore.ofJson? (j : Json) : Option CandidateScore := do
  let fields ← record? ["id", "score"] j
  pure ⟨← fields.get? "id" text?, ← fields.get? "score" int64?⟩

/-! ## Outcomes -/

namespace IterationStatus

def toJson : IterationStatus → Json
  | fixed => .str "fixed"
  | retrying => .str "retrying"
  | failed => .str "failed"

def ofJson? (j : Json) : Option IterationStatus := do
  match ← name? j with
  | "fixed" => pure fixed
  | "retrying" => pure retrying
  | "failed" => pure failed
  | _ => none

end IterationStatus

namespace AppliedPatch

def toJson (p : AppliedPatch) : Json :=
  .ofFields [("id", .str p.id), ("description", .str p.description), ("kind", p.kind.toJson),
    ("score", .ofInt p.score)]

def ofJson? (j : Json) : Option AppliedPatch := do
  let fields ← record? ["id", "description", "kind", "score"] j
  pure
    { id := ← fields.get? "id" text?
      description := ← fields.get? "description" text?
      kind := ← fields.get? "kind" PatchKind.ofJson?
      score := ← fields.get? "score" int64? }

end AppliedPatch

namespace IterationRecord

def fieldNames : List String := ["index", "diagnosis", "applied_patch", "status"]

def toJson (r : IterationRecord) : Json :=
  .ofFields [("index", .ofNat r.index), ("diagnosis", .ofOption ErrorRecord.toJson r.diagnosis),
    ("applied_patch", .ofOption AppliedPatch.toJson r.appliedPatch), ("status", r.status.toJson)]

def ofJson? (j : Json) : Option IterationRecord := do
  let fields ← record? fieldNames j
  pure
    { index := ← fields.get? "index" nat32?
      diagnosis := ← fields.getOption? "diagnosis" ErrorRecord.ofJson?
      appliedPatch := ← fields.getOption? "applied_patch" AppliedPatch.ofJson?
      status := ← fields.get? "status" IterationStatus.ofJson? }

end IterationRecord

namespace RepairStatus

def toJson : RepairStatus → Json
  | success => .str "success"
  | failed => .str "failed"
  | maxIterationsReached => .str "max_iterations_reached"

def ofJson? (j : Json) : Option RepairStatus := do
  match ← name? j with
  | "success" => pure success
  | "failed" => pure failed
  | "max_iterations_reached" => pure maxIterationsReached
  | _ => none

end RepairStatus

namespace FailureReason

def toJson : FailureReason → Json
  | environment message => .ofFields [("type", .str "environment"), ("message", .str message)]
  | undiagnosable exitCode =>
    .ofFields [("type", .str "undiagnosable"), ("exit_code", .ofInt exitCode)]
  | noCandidates kind =>
    .ofFields [("type", .str "no_candidates"), ("kind", .ofOption ErrorKind.toJson kind)]
  | noSuitablePatch scored =>
    .ofFields [("type", .str "no_suitable_patch"),
      ("scored", .ofList CandidateScore.toJson scored)]
  | budgetExhausted maxIterations =>
    .ofFields [("type", .str "budget_exhausted"), ("max_iterations", .ofNat maxIterations)]

def ofJson? (j : Json) : Option FailureReason := do
  match ← tagged? j with
  | ("environment", rest) => do
    let fields ← record? ["message"] rest
    pure (environment (← fields.get? "message" text?))
  | ("undiagnosable", rest) => do
    let fields ← record? ["exit_code"] rest
    pure (undiagnosable (← fields.get? "exit_code" int32?))
  | ("no_candidates", rest) => do
    let fields ← record? ["kind"] rest
    pure (noCandidates (← fields.getOption? "kind" ErrorKind.ofJson?))
  | ("no_suitable_patch", rest) => do
    let fields ← record? ["scored"] rest
    pure (noSuitablePatch (← fields.get? "scored" (list? CandidateScore.ofJson?)))
  | ("budget_exhausted", rest) => do
    let fields ← record? ["max_iterations"] rest
    pure (budgetExhausted (← fields.get? "max_iterations" nat32?))
  | _ => none

end FailureReason

namespace RepairOutcome

def fieldNames : List String := ["success", "final_source", "iterations", "status", "reason"]

def toJson (o : RepairOutcome) : Json :=
  .ofFields [("success", .bool o.success), ("final_source", .str o.finalSource),
    ("iterations", .ofList IterationRecord.toJson o.iterations), ("status", o.status.toJson),
    ("reason", .ofOption FailureReason.toJson o.reason)]

def ofJson? (j : Json) : Option RepairOutcome := do
  let fields ← record? fieldNames j
  pure
    { success := ← fields.get? "success" bool?
      finalSource := ← fields.get? "final_source" text?
      iterations := ← fields.get? "iterations" (list? IterationRecord.ofJson?)
      status := ← fields.get? "status" RepairStatus.ofJson?
      reason := ← fields.getOption? "reason" FailureReason.ofJson? }

end RepairOutcome

/-! ## Settings -/

namespace RuleFilter

def toJson (f : RuleFilter) : Json :=
  .ofFields [("allow", .ofList .str f.allow.toList), ("deny", .ofList .str f.deny.toList)]

/-- An archived filter; what it leaves out is empty. -/
def ofJson? (j : Json) : Option RuleFilter := do
  let fields ← settings? ["allow", "deny"] j
  pure (.ofLists (← fields.getD? "allow" [] (list? text?)) (← fields.getD? "deny" [] (list? text?)))

end RuleFilter

namespace RepairConfig

def fieldNames : List String :=
  ["max_iterations", "allow_efficiency_variants", "max_candidates", "max_parallel_evaluations",
    "enable_static_analysis", "enable_test_cases", "rules", "limits"]

def toJson (c : RepairConfig) : Json :=
  .ofFields [("max_iterations", .ofNat c.maxIterations),
    ("allow_efficiency_variants", .bool c.allowEfficiencyVariants),
    ("max_candidates", .ofNat c.maxCandidates),
    ("max_parallel_evaluations", .ofNat c.maxParallelEvaluations),
    ("enable_static_analysis", .bool c.enableStaticAnalysis),
    ("enable_test_cases", .bool c.enableTestCases),
    ("rules", c.rules.toJson), ("limits", c.limits.toJson)]

/-- Archived settings; what they leave out has its default. -/
def ofJson? (j : Json) : Option RepairConfig := do
  let fields ← settings? fieldNames j
  let usual : RepairConfig := {}
  pure
    { maxIterations := ← fields.getD? "max_iterations" usual.maxIterations nat32?
      allowEfficiencyVariants :=
        ← fields.getD? "allow_efficiency_variants" usual.allowEfficiencyVariants bool?
      maxCandidates := ← fields.getD? "max_candidates" usual.maxCandidates nat64?
      maxParallelEvaluations :=
        ← fields.getD? "max_parallel_evaluations" usual.maxParallelEvaluations nat64?
      enableStaticAnalysis :=
        ← fields.getD? "enable_static_analysis" usual.enableStaticAnalysis bool?
      enableTestCases := ← fields.getD? "enable_test_cases" usual.enableTestCases bool?
      rules := ← fields.getD? "rules" usual.rules RuleFilter.ofJson?
      limits := ← fields.getD? "limits" usual.limits Limits.ofJson? }

end RepairConfig

end Remedy
