import Remedy.Text.Identifier
import Remedy.Json.Printer
import Remedy.Json.Parser
import Remedy.Diagnosis.Analysis
import Remedy.Diagnosis.Printed
import Remedy.Report.Extract
import Remedy.Repair.Loop
import Remedy.Archive.Settings
import Remedy.Repair.Backup
import Remedy.Sandbox.Engine
import Remedy.Text.Utf8
import Remedy.Shell.Expansion
import Remedy.Shell.Condition
import Remedy.Shell.Printf
import Remedy.Shell.Signal
import Remedy.Shell.Builtin
import Remedy.Shell.Run
import Remedy.Shell.Machine
import Remedy.Proofs.Repair.Success
import Remedy.Proofs.Repair.Selection
import Remedy.Proofs.Repair.Chain
import Remedy.Proofs.Flow.Completeness
import Remedy.Proofs.Flow.Heads
import Remedy.Proofs.Edit.Unified
import Remedy.Proofs.Edit.Count
import Remedy.Proofs.Report.Coherence
import Remedy.Proofs.Repair.Trial
import Remedy.Proofs.Repair.Return
import Remedy.Proofs.Report.Innermost
import Remedy.Proofs.Repair.Tally
import Remedy.Proofs.Repair.Narration
import Remedy.Proofs.Repair.Blame
import Remedy.Proofs.Archive.Repair
import Remedy.Proofs.Edit.Shortest
import Remedy.Proofs.Flow.Coverage
import Remedy.Proofs.Python.Pinned
import Remedy.Proofs.Candidate.Greedy
import Remedy.Proofs.Flow.WellFormed
import Remedy.Proofs.Flow.Endless
import Remedy.Proofs.Cases.Comments
import Remedy.Proofs.Cases.Literals
import Remedy.Proofs.Cases.Verdict
import Remedy.Proofs.Cases.Similarity
import Remedy.Proofs.Diagnosis.Priority
import Remedy.Proofs.Python.Scopes
import Remedy.Proofs.Sandbox.Contract
import Remedy.Proofs.Brace.Matching
import Remedy.Proofs.Brace.Comments
import Remedy.Proofs.Text.Pattern
import Remedy.Proofs.Diagnosis.Printed
