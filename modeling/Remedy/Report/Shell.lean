import Remedy.Report.Basic

/-!
# Reports on shell scripts

One shell writes `main.sh: 3: message`, another `main.sh: line 3: message`.
-/

namespace Remedy.Report.Shell

open Remedy.Text

def errorLine : Pattern :=
  .all [.lineStart, .many (.char fun c => !isBlank c && c != ':'), .lit ".sh:", .blanks,
    .optional (.all [.lit "line", .someBlanks]), .group 1 .digits, .lit ":", .blanks,
    .group 2 (.some .inLine), .lineEnd]

def kindOfMessage (message : String) : ErrorKind :=
  let tells := fun (pieces : List String) => pieces.any fun p => occursFolded p message.toList
  if tells ["not found"] then .unresolvedReference
  else if tells ["syntax error", "unexpected"] then .parse
  else .runtime "ShellError"

def error? (stderr source : String) : Option ErrorRecord :=
  (errorLine.find? stderr.toList).map fun m =>
    let message := trimmed (m.group 2)
    recordAt (kindOfMessage message) message source (lineNumber? (m.group 1)) none

end Remedy.Report.Shell
