import Remedy.Archive.Record
import Remedy.Sandbox.Limits
import Remedy.Sandbox.Result
import Remedy.Sandbox.Toolchain

/-!
# The archived form of runs and toolchains
-/

namespace Remedy

open Archive

def Language.toJson (l : Language) : Json := .str l.name

def Language.ofJson? (j : Json) : Option Language := (name? j).bind Language.ofName?

namespace RunStatus

def all : List RunStatus := [completed, compileFailed, timedOut, memoryExceeded, spawnFailed]

def name : RunStatus → String
  | completed => "completed"
  | compileFailed => "compile_failed"
  | timedOut => "timed_out"
  | memoryExceeded => "memory_exceeded"
  | spawnFailed => "spawn_failed"

def toJson (s : RunStatus) : Json := .str s.name

def ofJson? (j : Json) : Option RunStatus := do
  let name ← name? j
  all.find? fun s => s.name = name

end RunStatus

namespace Timings

def toJson (t : Timings) : Json :=
  .ofFields [("compile_ms", .ofOption .ofNat t.compileMs), ("run_ms", .ofOption .ofNat t.runMs)]

def ofJson? (j : Json) : Option Timings := do
  let fields ← record? ["compile_ms", "run_ms"] j
  pure ⟨← fields.getOption? "compile_ms" nat64?, ← fields.getOption? "run_ms" nat64?⟩

end Timings

namespace RunResult

def fieldNames : List String :=
  ["language", "status", "exit_code", "stdout", "stderr", "executed_command", "timings"]

def toJson (r : RunResult) : Json :=
  .ofFields [("language", r.language.toJson), ("status", r.status.toJson),
    ("exit_code", .ofInt r.exitCode), ("stdout", .str r.stdout), ("stderr", .str r.stderr),
    ("executed_command", .ofList .str r.command), ("timings", r.timings.toJson)]

def ofJson? (j : Json) : Option RunResult := do
  let fields ← record? fieldNames j
  pure
    { language := ← fields.get? "language" Language.ofJson?
      status := ← fields.get? "status" RunStatus.ofJson?
      exitCode := ← fields.get? "exit_code" int32?
      stdout := ← fields.get? "stdout" text?
      stderr := ← fields.get? "stderr" text?
      command := ← fields.get? "executed_command" (list? text?)
      timings := ← fields.get? "timings" Timings.ofJson? }

end RunResult

namespace SourceNaming

def toJson : SourceNaming → Json
  | fixed stem => .ofFields [("type", .str "fixed"), ("stem", .str stem)]
  | publicClass fallback =>
    .ofFields [("type", .str "public_class"), ("fallback", .str fallback)]

def ofJson? (j : Json) : Option SourceNaming := do
  match ← tagged? j with
  | ("fixed", rest) => do
    let fields ← record? ["stem"] rest
    pure (fixed (← fields.get? "stem" text?))
  | ("public_class", rest) => do
    let fields ← record? ["fallback"] rest
    pure (publicClass (← fields.get? "fallback" text?))
  | _ => none

end SourceNaming

namespace Toolchain

def fieldNames : List String :=
  ["language", "file_extension", "source_naming", "compile_step", "run_command",
    "enforce_address_space"]

def toJson (t : Toolchain) : Json :=
  .ofFields [("language", t.language.toJson), ("file_extension", .str t.extension),
    ("source_naming", t.naming.toJson),
    ("compile_step", .ofOption (.ofList .str) t.compileStep),
    ("run_command", .ofList .str t.runCommand), ("enforce_address_space", .bool t.limitsMemory)]

def ofJson? (j : Json) : Option Toolchain := do
  let fields ← record? fieldNames j
  pure
    { language := ← fields.get? "language" Language.ofJson?
      extension := ← fields.get? "file_extension" text?
      naming := ← fields.get? "source_naming" SourceNaming.ofJson?
      compileStep := ← fields.getOption? "compile_step" (list? text?)
      runCommand := ← fields.get? "run_command" (list? text?)
      limitsMemory := ← fields.get? "enforce_address_space" bool? }

end Toolchain

namespace ToolchainTable

def toJson (table : ToolchainTable) : Json :=
  .ofFields [("toolchains", .ofFields (table.entries.map fun (l, t) => (l.name, t.toJson)))]

def ofFields? : List (String × Json) → Option ToolchainTable
  | [] => some empty
  | (name, j) :: rest => do
    let language ← Language.ofName? name
    let toolchain ← Toolchain.ofJson? j
    pure ((← ofFields? rest).insert language toolchain)

def ofJson? (j : Json) : Option ToolchainTable := do
  let fields ← record? ["toolchains"] j
  match ← fields "toolchains" with
  | .obj entries => ofFields? entries
  | _ => none

end ToolchainTable

namespace Limits

def fieldNames : List String := ["timeout_secs", "compile_timeout_secs", "memory_limit_mb"]

def toJson (l : Limits) : Json :=
  .ofFields [("timeout_secs", .ofNat l.timeoutSecs),
    ("compile_timeout_secs", .ofNat l.compileTimeoutSecs),
    ("memory_limit_mb", .ofNat l.memoryLimitMb)]

/-- Archived limits; what they leave out has its default. -/
def ofJson? (j : Json) : Option Limits := do
  let fields ← settings? fieldNames j
  let usual : Limits := {}
  pure
    { timeoutSecs := ← fields.getD? "timeout_secs" usual.timeoutSecs nat64?
      compileTimeoutSecs := ← fields.getD? "compile_timeout_secs" usual.compileTimeoutSecs nat64?
      memoryLimitMb := ← fields.getD? "memory_limit_mb" usual.memoryLimitMb nat64? }

end Limits

end Remedy
