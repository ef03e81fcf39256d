import Remedy.Archive.Record
import Remedy.Diagnosis.Record

/-!
# The archived form of findings and error records
-/

namespace Remedy

open Archive

namespace Severity

def all : List Severity := [low, medium, high, critical]

def name : Severity → String
  | low => "low"
  | medium => "medium"
  | high => "high"
  | critical => "critical"

def toJson (s : Severity) : Json := .str s.name

def ofJson? (j : Json) : Option Severity := do
  let name ← name? j
  all.find? fun s => s.name = name

end Severity

def FindingCategory.toJson (c : FindingCategory) : Json := .str c.name

def FindingCategory.ofJson? (j : Json) : Option FindingCategory :=
  (name? j).bind FindingCategory.ofName?

namespace ErrorKind

def toJson : ErrorKind → Json
  | logical category => .ofFields [("type", .str "logical"), ("category", category.toJson)]
  | runtime name => .ofFields [("type", .str "runtime"), ("name", .str name)]
  | kind => .ofFields [("type", .str kind.tag)]

def ofJson? (j : Json) : Option ErrorKind := do
  match ← tagged? j with
  | ("logical", rest) => do
    let fields ← record? ["category"] rest
    pure (logical (← fields.get? "category" FindingCategory.ofJson?))
  | ("runtime", rest) => do
    let fields ← record? ["name"] rest
    pure (runtime (← fields.get? "name" text?))
  | (tag, rest) => do
    let _ ← record? [] rest
    ofTag? tag

end ErrorKind

namespace ErrorRecord

def fieldNames : List String := ["kind", "line", "message", "snippet", "suggested_fix"]

def toJson (r : ErrorRecord) : Json :=
  .ofFields [("kind", .ofOption ErrorKind.toJson r.kind), ("line", .ofOption .ofNat r.line),
    ("message", .ofText? r.message), ("snippet", .ofText? r.snippet),
    ("suggested_fix", .ofText? r.fix)]

def ofJson? (j : Json) : Option ErrorRecord := do
  let fields ← record? fieldNames j
  pure
    { kind := ← fields.getOption? "kind" ErrorKind.ofJson?
      line := ← fields.getOption? "line" nat32?
      message := ← fields.getOption? "message" text?
      snippet := ← fields.getOption? "snippet" text?
      fix := ← fields.getOption? "suggested_fix" text? }

end ErrorRecord

end Remedy
