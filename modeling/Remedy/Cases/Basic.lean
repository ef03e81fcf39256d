import Remedy.Diagnosis.Finding
import Remedy.Json.Parser
import Remedy.Json.Printer
import Remedy.Sandbox.Language
import Remedy.Text.Blank
import Remedy.Text.Lines
import Remedy.Text.Search

/-!
# Annotated test cases

A program text may carry cases in comments: a name, an input and the output that is expected.

    # TEST: adds one
    # INPUT: 5
    # EXPECTED: 6

A case starts at its name; of several inputs or expectations the last one counts, and a case without
either is none.
-/

namespace Remedy.Cases

open Remedy.Text

structure TestCase where
  name : String
  input : Json
  expected : Json

structure CaseResult where
  case : TestCase
  /-- The output, if the run told one. -/
  actual : Option Json
  error : Option String
  passed : Bool

def supports (language : Language) : Bool :=
  language = .python || language = .javaScript

/-! ## Reading -/

inductive Annotation where
  | test (name : String)
  | input (value : Json)
  | expected (value : Json)

/-- The value of an annotation with some key on a trimmed line. -/
def annotated? (key : String) (line : List Char) : Option (List Char) := do
  let body ← (after? ['#'] line).or (after? ['/', '/'] line)
  let rest ← after? key.toList (trimStart body)
  let value ← after? [':'] rest
  some (trim value)

/-- The JSON value of a text; a text that is not JSON stands for itself. -/
def valueOf (text : List Char) : Json :=
  match Json.parse (String.ofList text) with
  | .ok value => value
  | .error _ => .str (String.ofList text)

def annotationOf? (line : List Char) : Option Annotation :=
  let l := trim line
  match annotated? "TEST" l with
  | some name => some (.test (String.ofList name))
  | none =>
    match annotated? "INPUT" l with
    | some raw => some (.input (valueOf raw))
    | none => (annotated? "EXPECTED" l).map fun raw => .expected (valueOf raw)

/-- A case that is being read. -/
structure Draft where
  name : Option String := none
  input : Option Json := none
  expected : Option Json := none

def Draft.case? (d : Draft) : Option TestCase := do
  some { name := ← d.name, input := ← d.input, expected := ← d.expected }

def collect : Draft → List Annotation → List TestCase
  | d, [] => d.case?.toList
  | d, .test name :: rest => d.case?.toList ++ collect { name := some name } rest
  | d, .input value :: rest => collect { d with input := some value } rest
  | d, .expected value :: rest => collect { d with expected := some value } rest

def annotations (source : String) : List Annotation :=
  (lines source.toList).filterMap annotationOf?

def read (source : String) : List TestCase := collect {} (annotations source)

/-! ## Comparing values -/

/-- Numbers closer to each other than this are equal. -/
def tolerance : Float := 0.000001

def isClose (a b : Json.Number) : Bool := (a.toFloat - b.toFloat).abs < tolerance

mutual

/-- Whether two values are equal when numbers that satisfy `close` are. -/
def matchesWith (close : Json.Number → Json.Number → Bool) : Json → Json → Bool
  | .null, .null => true
  | .bool a, .bool b => a == b
  | .num a, .num b => close a b
  | .str a, .str b => a == b
  | .arr as, .arr bs => matchItems close as bs
  | .obj as, .obj bs => as.length == bs.length && matchFields close as bs
  | _, _ => false

def matchItems (close : Json.Number → Json.Number → Bool) : List Json → List Json → Bool
  | [], [] => true
  | a :: as, b :: bs => matchesWith close a b && matchItems close as bs
  | _, _ => false

/-- Whether each field has an equal one of its key among others. -/
def matchFields (close : Json.Number → Json.Number → Bool) :
    List (String × Json) → List (String × Json) → Bool
  | [], _ => true
  | (key, a) :: as, others =>
    (match others.lookup key with
      | some b => matchesWith close a b
      | none => false)
      && matchFields close as others

end

def valuesMatch (expected actual : Json) : Bool := matchesWith isClose expected actual

/-! ## Findings -/

def number? : Json → Option Float
  | .num n => some n.toFloat
  | _ => none

/-- What kind of defect a wrong output suggests: one too many or too few, or twice or half. -/
def classify (expected actual : Json) : FindingCategory × Severity × Confidence :=
  let other := (.outputMismatch, .medium, .ofPercent 80)
  match actual with
  | .null => (.boundaryError, .medium, .ofPercent 80)
  | _ =>
    match number? expected, number? actual with
    | some e, some a =>
      if ((a - e).abs - 1).abs < tolerance then (.offByOne, .high, .ofPercent 90)
      else if e != 0 then
        let ratio := a / e
        if (ratio - 2).abs < tolerance || (ratio - 0.5).abs < tolerance then
          (.wrongOperator, .medium, .ofPercent 70)
        else other
      else other
    | _, _ => other

def findingOf (r : CaseResult) : Finding :=
  let actual := r.actual.getD .null
  let (category, severity, confidence) := classify r.case.expected actual
  let told := match r.error with
    | some e => " (" ++ e ++ ")"
    | none => ""
  { category, line := none, severity, confidence
    message := "Test '" ++ r.case.name ++ "' failed: expected " ++ r.case.expected.render
      ++ ", got " ++ actual.render ++ told
    fix := none }

def findings (results : List CaseResult) : List Finding :=
  (results.filter fun r => !r.passed).map findingOf

end Remedy.Cases
