import Remedy.Candidate.Selection

/-!
# Outcomes of a repair

A repair keeps a record of each iteration and ends with a status and, unless it succeeded, a reason.
-/

namespace Remedy

/-- How an iteration ended. -/
inductive IterationStatus where
  /-- The program ended well, before or after a patch. -/
  | fixed
  /-- A patch was committed and more is to do. -/
  | retrying
  /-- The repair stopped here. -/
  | failed
deriving Repr, DecidableEq, Inhabited

structure AppliedPatch where
  id : String
  description : String
  kind : PatchKind
  score : Int
deriving Repr, DecidableEq, Inhabited

def AppliedPatch.of (s : Scored) : AppliedPatch :=
  ⟨s.candidate.id, s.candidate.description, s.candidate.kind, s.score⟩

/-- What happened in one iteration. -/
structure IterationRecord where
  /-- The number of the iteration, counted from one. -/
  index : Nat
  diagnosis : Option ErrorRecord
  appliedPatch : Option AppliedPatch
  status : IterationStatus
deriving Repr, DecidableEq, Inhabited

inductive RepairStatus where
  | success | failed | maxIterationsReached
deriving Repr, DecidableEq, Inhabited

/-- Why a repair did not succeed. -/
inductive FailureReason where
  /-- The sandbox could not run a program. -/
  | environment (message : String)
  /-- A run failed and its report says nothing that is known. -/
  | undiagnosable (exitCode : Int)
  /-- There was nothing to try. -/
  | noCandidates (kind : Option ErrorKind)
  /-- No candidate had a positive score. -/
  | noSuitablePatch (scored : List CandidateScore)
  /-- Every iteration was used up. -/
  | budgetExhausted (maxIterations : Nat)
deriving Repr, DecidableEq, Inhabited

def FailureReason.describe : FailureReason → String
  | .environment message => "environment failure: " ++ message
  | .undiagnosable exitCode =>
    "could not diagnose failure (exit code " ++ toString exitCode ++ ")"
  | .noCandidates _ => "no patches available"
  | .noSuitablePatch scored =>
    "no suitable patch among " ++ toString scored.length ++ " candidate(s)"
  | .budgetExhausted maxIterations =>
    "iteration budget of " ++ toString maxIterations ++ " exhausted"

structure RepairOutcome where
  success : Bool
  finalSource : String
  iterations : List IterationRecord
  status : RepairStatus
  reason : Option FailureReason
deriving Repr, DecidableEq, Inhabited

namespace RepairOutcome

def totalIterations (o : RepairOutcome) : Nat := o.iterations.length

def appliedPatches (o : RepairOutcome) : List AppliedPatch :=
  o.iterations.filterMap (·.appliedPatch)

end RepairOutcome

end Remedy
