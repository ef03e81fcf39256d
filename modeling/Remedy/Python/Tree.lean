/-!
# Python syntax trees

Statements and expressions as far as the checks look at them, each with the line where it starts.
Names that live in a scope of their own (lambdas, comprehensions) are not part of the tree; what no
check tells apart is `other`, with the expressions it evaluates.

`Expr.walk` lists an expression and its parts, `Stmt.walkScope` the statements of one scope, both
outermost first.
-/

namespace Remedy.Python

/-- The value of a literal; a floating-point number by its bits. -/
inductive Literal where
  | int (value : Int)
  | float (bits : UInt64)
  | str (text : String)
  | bool (value : Bool)
  | nothing
deriving DecidableEq, Repr

def Literal.truthy : Literal → Bool
  | .int value => value != 0
  | .float bits => bits &&& 0x7FFFFFFFFFFFFFFF != 0
  | .str text => !text.isEmpty
  | .bool value => value
  | .nothing => false

inductive Comparison where
  | eq | notEq | lt | le | gt | ge | isIn | notIn | same | notSame
deriving DecidableEq, Repr

def Comparison.symbol : Comparison → String
  | .eq => "=="
  | .notEq => "!="
  | .lt => "<"
  | .le => "<="
  | .gt => ">"
  | .ge => ">="
  | .isIn => "in"
  | .notIn => "not in"
  | .same => "is"
  | .notSame => "is not"

inductive Expr where
  | name (line : Nat) (id : String)
  | const (line : Nat) (value : Literal)
  | compare (line : Nat) (left : Expr) (ops : List Comparison) (comparators : List Expr)
  | binary (line : Nat) (left : Expr) (op : String) (right : Expr)
  | call (line : Nat) (callee : Expr) (args : List Expr)
  | subscript (line : Nat) (value index : Expr)
  | member (line : Nat) (value : Expr) (field : String)
  /-- Tuples, lists and sets, also as targets of an assignment. -/
  | sequence (line : Nat) (items : List Expr)
  /-- Lambdas and comprehensions: their names live in a scope of their own. -/
  | innerScope (line : Nat)
  | other (line : Nat) (items : List Expr)
deriving Repr

namespace Expr

def line : Expr → Nat
  | name l _ | const l _ | compare l _ _ _ | binary l _ _ _ | call l _ _ | subscript l _ _
  | member l _ _ | sequence l _ | innerScope l | other l _ => l

/-- The name that an expression consists of. -/
def name? : Expr → Option String
  | name _ id => some id
  | _ => none

/-- The literal that an expression consists of. -/
def literal? : Expr → Option Literal
  | const _ value => some value
  | _ => none

mutual

/-- An expression and all its parts, outermost first and from the left. -/
def walk : Expr → List Expr
  | name l id => [name l id]
  | const l value => [const l value]
  | compare l left ops comparators =>
    compare l left ops comparators :: (walk left ++ walkAll comparators)
  | binary l left op right => binary l left op right :: (walk left ++ walk right)
  | call l callee args => call l callee args :: (walk callee ++ walkAll args)
  | subscript l value index => subscript l value index :: (walk value ++ walk index)
  | member l value field => member l value field :: walk value
  | sequence l items => sequence l items :: walkAll items
  | innerScope l => [innerScope l]
  | other l items => other l items :: walkAll items

def walkAll : List Expr → List Expr
  | [] => []
  | e :: es => walk e ++ walkAll es

end

mutual

/-- The names that an assignment to the expression binds. -/
def boundNames : Expr → List String
  | name _ id => [id]
  | sequence _ items => boundNamesAll items
  | _ => []

def boundNamesAll : List Expr → List String
  | [] => []
  | e :: es => boundNames e ++ boundNamesAll es

end

theorem walkAll_eq_flatMap (es : List Expr) : walkAll es = es.flatMap walk := by
  induction es with
  | nil => rfl
  | cons e es ih => rw [walkAll, List.flatMap_cons, ih]

theorem boundNamesAll_eq_flatMap (es : List Expr) : boundNamesAll es = es.flatMap boundNames := by
  induction es with
  | nil => rfl
  | cons e es ih => rw [boundNamesAll, List.flatMap_cons, ih]

theorem mem_walk_self (e : Expr) : e ∈ e.walk := by cases e <;> simp [walk]

end Expr

/-- A statement without a block. -/
inductive Simple where
  | expr (value : Expr)
  | assign (targets : List Expr) (value : Option Expr)
  /-- An assignment that also reads its target, such as `x += 1`. -/
  | update (target : Expr) (op : String) (value : Expr)
  | ret (value : Option Expr)
  | breakLoop
  | continueLoop
  | pass
  | raise (value : Option Expr)
  /-- An import and the names it binds. -/
  | imports (names : List String)
  /-- Names that belong to an outer scope. -/
  | outer (names : List String)
  /-- Anything else, with the expressions that it evaluates. -/
  | other (exprs : List Expr)
deriving Repr

mutual

inductive Stmt where
  | simple (line : Nat) (what : Simple)
  | branch (line : Nat) (test : Expr) (body orelse : List Stmt)
  | whileLoop (line : Nat) (test : Expr) (body orelse : List Stmt)
  | forLoop (line : Nat) (target iter : Expr) (body orelse : List Stmt)
  | function (line : Nat) (name : String) (params : List String) (body : List Stmt)
  | classDef (line : Nat) (name : String) (body : List Stmt)
  | tryBlock (line : Nat) (body : List Stmt) (handlers : List Handler)
      (orelse finalBody : List Stmt)
  | withBlock (line : Nat) (items targets : List Expr) (body : List Stmt)

/-- A handler of a `try` statement and the name that it gives to what it handles. -/
inductive Handler where
  | mk (line : Nat) (name : Option String) (body : List Stmt)

end

namespace Handler

def line : Handler → Nat
  | mk line _ _ => line

def name? : Handler → Option String
  | mk _ name _ => name

def body : Handler → List Stmt
  | mk _ _ body => body

end Handler

namespace Simple

/-- The expressions that a statement evaluates, in the order they are written. -/
def expressions : Simple → List Expr
  | expr value => [value]
  | assign targets value => targets ++ value.toList
  | update target _ value => [target, value]
  | ret value | raise value => value.toList
  | other exprs => exprs
  | breakLoop | continueLoop | pass | imports _ | outer _ => []

end Simple

namespace Stmt

def line : Stmt → Nat
  | simple l _ | branch l _ _ _ | whileLoop l _ _ _ | forLoop l _ _ _ _ | function l _ _ _
  | classDef l _ _ | tryBlock l _ _ _ _ | withBlock l _ _ _ => l

/-- The expressions that a statement evaluates itself, those of its blocks left out. -/
def expressions : Stmt → List Expr
  | simple _ what => what.expressions
  | branch _ test _ _ | whileLoop _ test _ _ => [test]
  | forLoop _ target iter _ _ => [target, iter]
  | withBlock _ items targets _ => items ++ targets
  | function _ _ _ _ | classDef _ _ _ | tryBlock _ _ _ _ _ => []

/-- The blocks of a statement in the order they are written, bodies of functions and classes
included. -/
def blocks : Stmt → List (List Stmt)
  | simple _ _ => []
  | branch _ _ body orelse | whileLoop _ _ body orelse | forLoop _ _ _ body orelse =>
    [body, orelse]
  | function _ _ _ body | classDef _ _ body | withBlock _ _ _ body => [body]
  | tryBlock _ body handlers orelse finalBody =>
    body :: handlers.map Handler.body ++ [orelse, finalBody]

/-- Whether the body of a statement is a scope of its own. -/
def isScope : Stmt → Bool
  | function _ _ _ _ | classDef _ _ _ => true
  | _ => false

mutual

/-- A statement and the statements of its blocks that belong to the same scope, outermost first. -/
def walkOne : Stmt → List Stmt
  | simple l what => [simple l what]
  | branch l test body orelse =>
    branch l test body orelse :: (walkScope body ++ walkScope orelse)
  | whileLoop l test body orelse =>
    whileLoop l test body orelse :: (walkScope body ++ walkScope orelse)
  | forLoop l target iter body orelse =>
    forLoop l target iter body orelse :: (walkScope body ++ walkScope orelse)
  | function l name params body => [function l name params body]
  | classDef l name body => [classDef l name body]
  | tryBlock l body handlers orelse finalBody =>
    tryBlock l body handlers orelse finalBody ::
      (walkScope body ++ walkHandlers handlers ++ walkScope orelse ++ walkScope finalBody)
  | withBlock l items targets body => withBlock l items targets body :: walkScope body

/-- The statements of a scope, bodies of functions and classes left out, outermost first. -/
def walkScope : List Stmt → List Stmt
  | [] => []
  | s :: body => walkOne s ++ walkScope body

def walkHandlers : List Handler → List Stmt
  | [] => []
  | .mk _ _ body :: handlers => walkScope body ++ walkHandlers handlers

end

theorem walkScope_eq_flatMap (body : List Stmt) : walkScope body = body.flatMap walkOne := by
  induction body with
  | nil => rfl
  | cons s body ih => rw [walkScope, List.flatMap_cons, ih]

theorem walkScope_append (a b : List Stmt) :
    walkScope (a ++ b) = walkScope a ++ walkScope b := by
  simp [walkScope_eq_flatMap]

theorem walkHandlers_eq_flatMap (handlers : List Handler) :
    walkHandlers handlers = handlers.flatMap fun h => walkScope h.body := by
  induction handlers with
  | nil => rfl
  | cons h handlers ih =>
    cases h
    rw [walkHandlers, List.flatMap_cons, ih]
    rfl

theorem mem_walkOne_self (s : Stmt) : s ∈ walkOne s := by cases s <;> simp [walkOne]

end Stmt

/-- A program text that could be read. -/
structure Module where
  body : List Stmt

end Remedy.Python
