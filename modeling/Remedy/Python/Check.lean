import Remedy.Diagnosis.Finding
import Remedy.Flow.Graph
import Remedy.Python.Binding
import Remedy.Python.Leaving
import Remedy.Python.Scope
import Remedy.Text.Lines
import Remedy.Text.Pattern
import Remedy.Python.Statement
import Remedy.Text.Search

/-!
# Checks of a Python program

Each check lists the defects that it finds in a statement, an expression, a function or a scope, in
the order it comes upon them. `Scope.findings` puts the checks of one scope together.
-/

namespace Remedy.Python

open Remedy.Text

namespace Check

/-! ## Statements -/

/-- A line that no path of control leads to. -/
def deadLine (line : Nat) : Finding :=
  { category := .unreachableCode, line := some line, severity := .high
    confidence := .ofPercent 90
    message := "Unreachable code: no control-flow path reaches this statement"
    fix := some "Remove the unreachable statements or fix the preceding control flow" }

/-- The dead lines of a body, by its own graph. -/
def unreachable (body : List Stmt) : List Finding :=
  (Flow.Graph.ofBody body).deadLines.map deadLine

/-- The names that a condition depends on, those of called functions left out, in order. -/
def conditionNames (test : Expr) : List String :=
  let parts := test.walk
  let callees := parts.filterMap fun e => e.callee?.bind Expr.name?
  ((parts.filterMap Expr.name?).filter fun n => !callees.contains n).eraseDups.mergeSort
    fun a b => !(b < a)

/-- A `while` loop that cannot end: its condition is a true literal, or compares names that the loop
leaves alone, and nothing leaves the loop. -/
def endlessLoop (line : Nat) (test : Expr) (body : List Stmt) : List Finding :=
  if Stmt.anyEscapes body then []
  else if test.literal?.any Literal.truthy then
    [{ category := .infiniteLoop, line := some line, severity := .high
       confidence := .ofPercent 95
       message := "Infinite loop: condition is always true and the loop has no break"
       fix := some "Add a break condition or change the loop condition" }]
  else if !test.isCompare then []
  else
    let watched := conditionNames test
    let modified := (Stmt.walkScope body).flatMap Stmt.modifies
    match watched with
    | [] => []
    | first :: _ =>
      if watched.any modified.contains then []
      else
        [{ category := .infiniteLoop, line := some line, severity := .high
           confidence := .ofPercent 85
           message := "Infinite loop: condition variables (" ++ ", ".intercalate watched
             ++ ") never change inside the loop"
           fix := some ("Update '" ++ first ++ "' inside the loop or add a break condition") }]

def emptyLoop (line : Nat) : List Stmt → List Finding
  | [.simple _ .pass] =>
    [{ category := .deadCode, line := some line, severity := .low
       confidence := .ofPercent 80
       message := "Empty loop: the body only contains 'pass'"
       fix := none }]
  | _ => []

/-- A loop over a range from one that adds something up. -/
def rangeFromOne (line : Nat) (iter : Expr) (body : List Stmt) : List Finding :=
  match iter with
  | .call _ (.name _ "range") [.const _ (.int 1), _] =>
    if (Stmt.walkScope body).any fun s => s.addsTo?.isSome then
      [{ category := .offByOne, line := some line, severity := .medium
         confidence := .ofPercent 70
         message :=
           "Possible off-by-one: range(1, n) skips the first element while accumulating"
         fix := some "Start the range at 0, or end it at n + 1 if 1..=n was intended" }]
    else []
  | _ => []

/-- A subscript that a statement returns, as the base's name and the text of the index. -/
def returnedSubscript? : Stmt → Option (String × String)
  | .simple _ (.ret (some (.subscript _ base index))) => do
    let container ← base.name?
    let key ← index.text?
    some (container, key)
  | _ => none

/-- A return of another element than the one whose key was looked for. -/
def membershipLookup (test : Expr) (body : List Stmt) : List Finding :=
  match test with
  | .compare _ left [.isIn] (right :: _) =>
    match left.text?, right.name? with
    | some key, some container =>
      (Stmt.walkScope body).filterMap fun s =>
        match returnedSubscript? s with
        | some (base, other) =>
          if base = container ∧ other ≠ key then
            some
              { category := .containerKeyMisuse, line := some s.line, severity := .high
                confidence := .ofPercent 95
                message := "Checked '" ++ key ++ " in " ++ container ++ "' but returned '"
                  ++ container ++ "[" ++ other ++ "]'"
                fix := some ("Change '" ++ container ++ "[" ++ other ++ "]' to '" ++ container
                  ++ "[" ++ key ++ "]'") }
          else none
        | none => none
    | _, _ => []
  | _ => []

/-! ## Expressions -/

/-- A comparison of literals, or of equality with a truth value. -/
def comparison : Expr → List Finding
  | .compare line left ops comparators =>
    let operands := left :: comparators
    if operands.all fun e => e.literal?.isSome then
      [{ category := .alwaysTrueFalse, line := some line, severity := .medium
         confidence := .ofPercent 95
         message := "Comparison between constants always has the same result"
         fix := some "Compare against a variable or remove the condition" }]
    else if (ops.any [Comparison.eq, .notEq, .same, .notSame].contains)
        && (operands.any fun e =>
          match e.literal? with
          | some (.bool _) => true
          | _ => false) then
      [{ category := .wrongComparison, line := some line, severity := .low
         confidence := .ofPercent 85
         message := "Comparison against a boolean literal"
         fix := some "Use the value directly as the condition (or 'not value')" }]
    else []
  | _ => []

/-- The first operand whose last name holds one of some words. -/
def operandNamed? (words : List String) (left right : Expr) : Option String :=
  ([left, right].filterMap Expr.lastName?).find? fun n =>
    words.any fun w => occursIn w (lowerAscii n)

/-- A product with a percentage that the line nowhere divides by a hundred, or a discount that is
added. -/
def arithmetic (lineText : Nat → List Char) : Expr → List Finding
  | .binary line left "*" right =>
    match operandNamed? ["percent", "pct"] left right with
    | none => []
    | some name =>
      if contains "/100".toList ((lineText line).filter fun c => !isBlank c) then []
      else
        [{ category := .missingPercentageConversion, line := some line, severity := .medium
           confidence := .ofPercent 70
           message := "'" ++ name ++ "' looks like a percentage but is used as a fraction"
           fix := some ("Divide '" ++ name ++ "' by 100 before multiplying") }]
  | .binary line left "+" right =>
    match operandNamed? ["discount"] left right with
    | none => []
    | some name =>
      [{ category := .wrongOperator, line := some line, severity := .medium
         confidence := .ofPercent 60
         message := "Adding '" ++ name ++ "' where a discount is usually subtracted"
         fix := some "Change '+' to '-'" }]
  | _ => []

def statement (lineText : Nat → List Char) (s : Stmt) : List Finding :=
  let own := match s with
    | .whileLoop line test body _ => endlessLoop line test body ++ emptyLoop line body
    | .forLoop line _ iter body _ => rangeFromOne line iter body ++ emptyLoop line body
    | .branch _ test body _ => membershipLookup test body
    | _ => []
  own ++ s.allExpressions.flatMap comparison ++ s.allExpressions.flatMap (arithmetic lineText)

/-! ## Functions -/

/-- The lines of the statements that return a value, and of those that return none. -/
def returnLines (stmts : List Stmt) : List Nat × List Nat :=
  (stmts.filterMap fun s => match s with
    | .simple line (.ret (some _)) => some line
    | _ => none,
   stmts.filterMap fun s => match s with
    | .simple line (.ret none) => some line
    | _ => none)

def callsItself (name : String) (stmts : List Stmt) : Bool :=
  stmts.any fun s => s.allExpressions.any fun e => (e.callee?.bind Expr.name?) == some name

/-- A recursion that never returns, or never under a condition. -/
def recursion (line : Nat) (name : String) (body : List Stmt) : List Finding :=
  let stmts := Stmt.walkScope body
  let (valued, bare) := returnLines stmts
  if !callsItself name stmts then []
  else if valued.isEmpty && bare.isEmpty then
    [{ category := .missingReturn, line := some line, severity := .critical
       confidence := .ofPercent 90
       message := "Recursive function '" ++ name ++ "' never returns"
       fix := some "Add a base case that returns a value" }]
  else if !Stmt.anyReturnsUnder false body then
    [{ category := .incorrectBaseCase, line := some line, severity := .high
       confidence := .ofPercent 80
       message := "Recursive function '" ++ name ++ "' has no conditional base case"
       fix := some "Return early under an 'if' that stops the recursion" }]
  else []

def mixedReturns (name : String) (stmts : List Stmt) : List Finding :=
  match returnLines stmts with
  | (_ :: _, first :: _) =>
    [{ category := .missingReturn, line := some first, severity := .medium
       confidence := .ofPercent 70
       message := "Function '" ++ name ++ "' mixes 'return' with and without a value"
       fix := some "Return a value on every path" }]
  | _ => []

/-- Words in the names of accumulators that are preferred in a suggestion. -/
def accumulatorWords : List String := ["total", "result", "sum", "count", "value"]

def accumulators (stmts : List Stmt) : List String :=
  stmts.filterMap fun s => s.addsTo?.bind Expr.name?

/-- The accumulator to suggest: the first with a telling name, else the first. -/
def preferredAccumulator? (stmts : List Stmt) : Option String :=
  let names := accumulators stmts
  (names.find? fun n => accumulatorWords.any fun w => occursIn w (lowerAscii n)).or names.head?

def hasCompare (stmts : List Stmt) : Bool :=
  stmts.any fun s => s.allExpressions.any Expr.isCompare

/-- A line that starts with `yield`, perhaps after a name and an equals sign. -/
def yieldLine : Pattern :=
  .all [.textStart, .blanks, .optional (.all [.word, .blanks, .lit "=", .blanks]), .lit "yield",
    .wordEdge]

/-- A function named like a search that has no result. -/
def searchWithoutResult (lineText : Nat → List Char) (line : Nat) (name : String)
    (stmts : List Stmt) : List Finding :=
  let lower := lowerAscii name
  if !(occursIn "search" lower || occursIn "find" lower) then []
  else if !(stmts.any Stmt.isLoop) || !hasCompare stmts then []
  else if stmts.any fun s => yieldLine.occurs (lineText s.line) then []
  else
    [{ category := .missingReturn, line := some line, severity := .high
       confidence := .ofPercent 70
       message := "Function '" ++ name ++ "' is named like a search but never returns a result"
       fix := some "Return the match when it is found, and a sentinel after the loop" }]

/-- A function without a value to return that adds something up, or else is named like a search. -/
def missingValue (lineText : Nat → List Char) (line : Nat) (name : String) (stmts : List Stmt) :
    List Finding :=
  let (valued, bare) := returnLines stmts
  if !valued.isEmpty then []
  else
    match preferredAccumulator? stmts with
    | some acc =>
      [{ category := .missingReturn, line := some line, severity := .medium
         confidence := .ofPercent 80
         message := "Function '" ++ name ++ "' accumulates into '" ++ acc
           ++ "' but never returns it"
         fix := some ("return " ++ acc) }]
    | none => if bare.isEmpty then searchWithoutResult lineText line name stmts else []

inductive Step where
  | visit | left | right
deriving DecidableEq

def Step.label : Step → String
  | .visit => "root"
  | .left => "left"
  | .right => "right"

def orderText (steps : List Step) : String := " -> ".intercalate (steps.map Step.label)

/-- Tree walks named after the order of their steps. -/
def walks : List (String × List Step) :=
  [("preorder", [.visit, .left, .right]),
   ("inorder", [.left, .visit, .right]),
   ("postorder", [.left, .right, .visit])]

/-- The step that an expression makes in a tree walk: a recursive call to one side, or an `append`
for the visit. -/
def step? (name : String) : Expr → Option Step
  | .call _ callee args =>
    let side : Option Step :=
      let texts := args.filterMap Expr.text?
      if texts.any (occursIn "left") then some .left
      else if texts.any (occursIn "right") then some .right
      else none
    match callee with
    | .member _ _ "append" => some .visit
    | .member _ _ field => if field = name then side else none
    | .name _ id => if id = name then side else none
    | _ => none
  | _ => none

/-- A tree walk whose steps come in another order than its name says. -/
def traversalOrder (line : Nat) (name : String) (stmts : List Stmt) : List Finding :=
  match walks.find? fun (kind, _) => occursIn kind (lowerAscii name) with
  | none => []
  | some (kind, expected) =>
    let steps := ((stmts.flatMap Stmt.allExpressions).filterMap (step? name)).eraseDups
    if steps.length ≠ expected.length ∨ steps = expected then []
    else
      [{ category := .traversalOrderMismatch, line := some line, severity := .high
         confidence := .ofPercent 85
         message := "Function '" ++ name ++ "' visits " ++ orderText steps ++ " but " ++ kind
           ++ " traversal is " ++ orderText expected
         fix := some ("Reorder the visit and the recursive calls in '" ++ name ++ "' to "
           ++ orderText expected) }]

/-- Methods that move an element into or out of a sequence. -/
def elementMoves : List String := ["append", "insert", "pop"]

/-- Whether a statement stores into a subscript or moves an element by a method. -/
def movesElement (s : Stmt) : Bool :=
  (s.assignedTargets.any Expr.hasSubscriptTarget) ||
    s.allExpressions.any fun e =>
      match e with
      | .call _ (.member _ _ field) _ => elementMoves.contains field
      | _ => false

/-- A function named like a sort that does not compare or does not move elements. -/
def sortWithoutMoves (line : Nat) (name : String) (stmts : List Stmt) : List Finding :=
  let lower := lowerAscii name
  if !(occursIn "sort" lower || occursIn "bubble" lower) || !(stmts.any Stmt.isLoop) then []
  else
    let missing? :=
      match hasCompare stmts, stmts.any movesElement with
      | true, true => none
      | false, false => some "compares or moves elements"
      | false, true => some "compares elements"
      | true, false => some "moves elements"
    match missing? with
    | none => []
    | some missing =>
      [{ category := .incompleteImplementation, line := some line, severity := .medium
         confidence := .ofPercent 60
         message := "Function '" ++ name ++ "' is named like a sort but never " ++ missing
         fix := some "Compare neighbouring elements and swap them when out of order" }]

/-- The least line that a list of names with lines gives for a name. -/
def firstLine? (name : String) (places : List (String × Nat)) : Option Nat :=
  ((places.filter (·.1 = name)).map (·.2)).min?

/-- Names that are read on an earlier line than any that binds them: the first such reading of each
name, by line. -/
def readBeforeAssigned (params : List String) (stmts : List Stmt) : List (String × Nat × Nat) :=
  let declared := params ++ stmts.flatMap Stmt.declares
  let stores := stmts.flatMap Stmt.stores
  let reads := (stmts.flatMap Stmt.reads).mergeSort fun a b => a.2 ≤ b.2
  let early := reads.filterMap fun (name, line) =>
    if declared.contains name then none
    else
      match firstLine? name stores with
      | some assigned => if line < assigned then some (name, line, assigned) else none
      | none => none
  distinctBy (·.1) [] early

/-- Reads of names that are bound only later. -/
def uninitialized (params : List String) (stmts : List Stmt) : List Finding :=
  (readBeforeAssigned params stmts).map fun (name, line, assigned) =>
    { category := .uninitializedVariable, line := some line, severity := .high
      confidence := .ofPercent 75
      message := "'" ++ name ++ "' is read before it is first assigned on line "
        ++ toString assigned
      fix := some ("Initialize '" ++ name ++ "' before line " ++ toString line) }

def function (lineText : Nat → List Char) (line : Nat) (name : String) (params : List String)
    (body : List Stmt) : List Finding :=
  let stmts := Stmt.walkScope body
  recursion line name body ++ mixedReturns name stmts ++ missingValue lineText line name stmts
    ++ traversalOrder line name stmts ++ sortWithoutMoves line name stmts
    ++ uninitialized params stmts

end Check

/-- The findings in a scope: those of the function it belongs to, then dead code, then statement by
statement. -/
def Scope.findings (lineText : Nat → List Char) (s : Scope) : List Finding :=
  let owner := match s.owner with
    | .function line name params => Check.function lineText line name params s.body
    | _ => []
  owner ++ Check.unreachable s.body ++ s.statements.flatMap (Check.statement lineText)

/-- The text of a line, counted from one; empty if there is none. -/
def lineTextOf (source : String) (line : Nat) : List Char :=
  ((lines source.toList)[line - 1]?).getD []

/-- The findings in a program, in checking order. -/
def Module.findings (m : Module) (lineText : Nat → List Char) : List Finding :=
  m.scopes.flatMap (Scope.findings lineText)

/-- The findings in a program text, in normal form; none if the text cannot be read. -/
def analyze (source : String) : List Finding :=
  match Module.parse? source with
  | none => []
  | some m => Finding.normalize (m.findings (lineTextOf source))

end Remedy.Python
