import Remedy.Digest.Sha256
import Remedy.Edit.Unified

/-!
# Patch candidates

A candidate is a whole new text for a program, with the diff to the text it was made from. Two
candidates with the same fingerprint are the same patch.
-/

namespace Remedy

/-- What a candidate tries to improve. -/
inductive PatchKind where
  | correctness | efficiency
deriving Repr, DecidableEq, Inhabited

/-- A proposed text for a program. -/
structure Candidate where
  /-- The rule that proposed it. -/
  id : String
  description : String
  patched : String
  /-- The unified diff to the text that the candidate was made from. -/
  diff : String
  kind : PatchKind
  /-- Whether it is the first choice of the rule. -/
  primary : Bool
deriving Repr, DecidableEq, Inhabited

namespace Candidate

def diffLabel : String := "source"

def of (id description original patched : String) (kind : PatchKind) (primary : Bool) :
    Candidate :=
  { id, description, patched, diff := Edit.unified original patched diffLabel, kind, primary }

def changedLines (c : Candidate) : Nat := Edit.changedLines c.diff

/-- The digest of the patched text. -/
def fingerprint (c : Candidate) : String := Digest.fingerprint c.patched

end Candidate

end Remedy
