import Remedy.Candidate.Basic
import Remedy.Report.Extract

/-!
# Scores

A candidate is scored by its run, compared with the run of the text it was made from: a sum of
terms, each kept for later inspection.
-/

namespace Remedy

open Remedy.Text

structure ScoreBreakdown where
  /-- For a run that ends with exit code zero. -/
  exitBonus : Int := 0
  /-- For a first choice. -/
  primaryBonus : Int := 0
  /-- For error lines that are gone or new. -/
  errorDelta : Int := 0
  /-- For a change of the kind of error. -/
  kindTransition : Int := 0
  /-- For the size of the diff. -/
  diffSize : Int := 0
  /-- For output where there was none. -/
  outputBonus : Int := 0
deriving Repr, DecidableEq, Inhabited

namespace ScoreBreakdown

def total (s : ScoreBreakdown) : Int :=
  s.exitBonus + s.primaryBonus + s.errorDelta + s.kindTransition + s.diffSize + s.outputBonus

end ScoreBreakdown

namespace Score

/-- Words that make a line of the error output count as an error. -/
def errorWords : List String := ["Error", "Exception", "Traceback", "Warning"]

def isErrorLine (line : List Char) : Bool := errorWords.any fun w => contains w.toList line

def errorLines (r : RunResult) : Nat := (lines r.stderr.toList).countP isErrorLine

/-- 100 for a clean end. -/
def exitBonus (r : RunResult) : Int := if r.succeeded then 100 else 0

/-- 30 for a first choice. -/
def primaryBonus (c : Candidate) : Int := if c.primary then 30 else 0

/-- 20 for each error line that is gone, less 50 for each new one. -/
def errorDelta (before after : Nat) : Int :=
  let gone : Int := before - after
  if 0 ≤ gone then 20 * gone else 50 * gone

/-- Less 50 for another kind of error than before, less 100 if that kind brings further errors. -/
def kindTransition (before after : Option ErrorKind) : Int :=
  match before, after with
  | some b, some a => if b = a then 0 else if a.isCascading then -100 else -50
  | _, _ => 0

/-- 10 for at most two changed lines, less 10 for each beyond three. -/
def diffSize (changed : Nat) : Int :=
  if 3 < changed then -10 * ((changed : Int) - 3) else if changed ≤ 2 then 10 else 0

/-- Whether a run printed anything but blanks. -/
def printsOutput (r : RunResult) : Bool := !isBlankText r.stdout.toList

/-- 15 for output where there was none. -/
def outputBonus (r baseline : RunResult) : Int :=
  if printsOutput r && !printsOutput baseline then 15 else 0

end Score

/-- The score of a candidate by its run and the run of the text it was made from. -/
def Candidate.score (c : Candidate) (r baseline : RunResult) : ScoreBreakdown :=
  { exitBonus := Score.exitBonus r
    primaryBonus := Score.primaryBonus c
    errorDelta := Score.errorDelta (Score.errorLines baseline) (Score.errorLines r)
    kindTransition :=
      Score.kindTransition (Report.kindOf? baseline.stderr) (Report.kindOf? r.stderr)
    diffSize := Score.diffSize c.changedLines
    outputBonus := Score.outputBonus r baseline }

end Remedy
