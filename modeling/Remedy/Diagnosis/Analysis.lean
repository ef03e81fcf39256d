import Remedy.Brace.Check
import Remedy.Python.Check

/-!
# Findings in a program text

Each language has its own checks; shell scripts have none.
-/

namespace Remedy

def analyzeSource (language : Language) (source : String) : List Finding :=
  match language with
  | .python => Python.analyze source
  | .shell => []
  | .c | .cpp | .java | .javaScript | .go => Brace.analyze language source

end Remedy
