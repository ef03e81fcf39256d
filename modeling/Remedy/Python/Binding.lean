import Remedy.Python.Tree

/-!
# Names that a statement binds, reads and changes

A statement binds the names of its targets, reads the names in its expressions, and changes what it
binds, what its targets are parts of, and what it calls a method of.
-/

namespace Remedy.Python

namespace Expr

/-- The name that an expression is a part of: `a` for `a`, `a.b` and `a[i]`. -/
def root? : Expr → Option String
  | name _ id => some id
  | member _ value _ | subscript _ value _ => root? value
  | _ => none

/-- The identifier at the end of a name or of a chain of members. -/
def lastName? : Expr → Option String
  | name _ id => some id
  | member _ _ field => some field
  | _ => none

mutual

/-- What an assignment to the expression reads. -/
def targetReads : Expr → List Expr
  | name _ _ => []
  | sequence _ items => targetReadsAll items
  | subscript _ value index => [value, index]
  | member _ value _ => [value]
  | const l value => [const l value]
  | compare l left ops comparators => [compare l left ops comparators]
  | binary l left op right => [binary l left op right]
  | call l callee args => [call l callee args]
  | innerScope l => [innerScope l]
  | other l items => [other l items]

def targetReadsAll : List Expr → List Expr
  | [] => []
  | e :: es => targetReads e ++ targetReadsAll es

end

mutual

/-- Whether an assignment to the expression stores into a subscript. -/
def hasSubscriptTarget : Expr → Bool
  | subscript _ _ _ => true
  | sequence _ items => anySubscriptTarget items
  | _ => false

def anySubscriptTarget : List Expr → Bool
  | [] => false
  | e :: es => hasSubscriptTarget e || anySubscriptTarget es

end

/-- The text of a simple expression, by which two of them are compared. -/
def text? : Expr → Option String
  | name _ id => some id
  | const _ (.int v) => some (toString v)
  | const _ (.str s) => some ("'" ++ s ++ "'")
  | const _ (.bool b) => some (if b then "True" else "False")
  | const _ .nothing => some "None"
  | member _ value field => (text? value).map fun v => v ++ "." ++ field
  | subscript _ value index => do
    let v ← text? value
    let i ← text? index
    some (v ++ "[" ++ i ++ "]")
  | _ => none

def callee? : Expr → Option Expr
  | call _ callee _ => some callee
  | _ => none

def isCompare : Expr → Bool
  | compare _ _ _ _ => true
  | _ => false

end Expr

namespace Stmt

/-- The names that a statement binds, each with the line of the binding. -/
def stores : Stmt → List (String × Nat)
  | simple line what =>
    match what with
    | .assign targets _ => (targets.flatMap Expr.boundNames).map fun n => (n, line)
    | .update target _ _ => target.boundNames.map fun n => (n, line)
    | .imports names => names.map fun n => (n, line)
    | _ => []
  | forLoop line target _ _ _ => target.boundNames.map fun n => (n, line)
  | withBlock line _ targets _ => (targets.flatMap Expr.boundNames).map fun n => (n, line)
  | function line name _ _ | classDef line name _ => [(name, line)]
  | tryBlock _ _ handlers _ _ => handlers.filterMap fun h => h.name?.map fun n => (n, h.line)
  | branch _ _ _ _ | whileLoop _ _ _ _ => []

/-- The expressions that a statement reads; a target that is only bound is not among them. -/
def loads : Stmt → List Expr
  | simple _ (.assign targets value) => value.toList ++ targets.flatMap Expr.targetReads
  | forLoop _ target iter _ _ => iter :: target.targetReads
  | withBlock _ items targets _ => items ++ targets.flatMap Expr.targetReads
  | s => s.expressions

/-- Every expression that a statement evaluates itself, parts included. -/
def allExpressions (s : Stmt) : List Expr := s.expressions.flatMap Expr.walk

def reads (s : Stmt) : List (String × Nat) :=
  (s.loads.flatMap Expr.walk).filterMap fun e => e.name?.map fun n => (n, e.line)

def assignedTargets : Stmt → List Expr
  | simple _ (.assign targets _) => targets
  | simple _ (.update target _ _) => [target]
  | _ => []

/-- The names that a statement binds, assigns a part of, or calls a method of. -/
def modifies (s : Stmt) : List String :=
  s.stores.map (·.1) ++ s.assignedTargets.filterMap Expr.root? ++
    s.allExpressions.filterMap fun e =>
      match e with
      | .call _ (.member _ value _) _ => value.name?
      | _ => none

/-- The names that a statement declares to belong to an outer scope. -/
def declares : Stmt → List String
  | simple _ (.outer names) => names
  | _ => []

def addsTo? : Stmt → Option Expr
  | simple _ (.update target "+=" _) => some target
  | _ => none

def isLoop : Stmt → Bool
  | whileLoop _ _ _ _ | forLoop _ _ _ _ _ => true
  | _ => false

end Stmt

end Remedy.Python
