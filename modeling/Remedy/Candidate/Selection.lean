import Remedy.Candidate.Score

/-!
# Selection

Candidates with their runs, ranked by score; equal scores keep the order in which the candidates
were declared.
-/

namespace Remedy

structure Scored where
  candidate : Candidate
  score : Int
  breakdown : ScoreBreakdown
  result : RunResult
deriving Repr, DecidableEq, Inhabited

structure CandidateScore where
  id : String
  score : Int
deriving Repr, DecidableEq, Inhabited

/-- A ranking of candidates and the run that they are compared with. -/
structure Selection where
  best : Scored
  ranked : List Scored
  baseline : RunResult
deriving Repr, DecidableEq, Inhabited

namespace Scored

def of (baseline : RunResult) (candidate : Candidate) (result : RunResult) : Scored :=
  let breakdown := candidate.score result baseline
  { candidate, score := breakdown.total, breakdown, result }

def summary (s : Scored) : CandidateScore := ⟨s.candidate.id, s.score⟩

end Scored

namespace Selection

/-- Scored candidates, the best first. -/
def rank (scored : List Scored) : List Scored := scored.mergeSort fun a b => b.score ≤ a.score

/-- The selection among scored candidates; none if there are none. -/
def of? (baseline : RunResult) (scored : List Scored) : Option Selection :=
  match rank scored with
  | [] => none
  | best :: rest => some { best, ranked := best :: rest, baseline }

/-- The scores, the best first. -/
def scores (s : Selection) : List CandidateScore := s.ranked.map Scored.summary

end Selection

end Remedy
