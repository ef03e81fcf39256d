import Remedy.Candidate.Filter
import Remedy.Sandbox.Limits

/-!
# Settings of a repair
-/

namespace Remedy

structure RepairConfig where
  /-- How many iterations there may be; with none, nothing is run at all. -/
  maxIterations : Nat := 5
  /-- Whether generators may propose faster programs. -/
  allowEfficiencyVariants : Bool := false
  /-- How many candidates are run in an iteration. -/
  maxCandidates : Nat := 5
  /-- How many candidates may run at the same time. -/
  maxParallelEvaluations : Nat := 4
  /-- Whether programs that end well are searched for defects. -/
  enableStaticAnalysis : Bool := true
  /-- Whether annotated test cases are run. -/
  enableTestCases : Bool := true
  rules : RuleFilter := {}
  limits : Limits := {}
deriving Repr, DecidableEq, Inhabited

inductive RepairFault where
  | sandbox (fault : SandboxFault)
  | config (reason : String)
  | io (reason : String)
deriving Repr, DecidableEq

def RepairFault.message : RepairFault → String
  | .sandbox fault => "sandbox error: " ++ fault.message
  | .config reason => "invalid repair configuration: " ++ reason
  | .io reason => "io error: " ++ reason

namespace RepairConfig

def problems (c : RepairConfig) : List String :=
  (if c.maxCandidates = 0 then ["max_candidates must be greater than 0"] else [])
    ++ (if c.maxParallelEvaluations = 0 then
          ["max_parallel_evaluations must be greater than 0"] else [])
    ++ (match c.limits.validate with
        | .ok _ => []
        | .error fault => [fault.message])

/-- Settings with any problem are a fault that names all of them. -/
def validate (c : RepairConfig) : Except RepairFault Unit :=
  match c.problems with
  | [] => .ok ()
  | problems => .error (.config ("; ".intercalate problems))

end RepairConfig

end Remedy
