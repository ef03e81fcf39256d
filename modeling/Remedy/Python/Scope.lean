import Remedy.Python.Tree

/-!
# Scopes of a Python program

The program itself, each function and each class is a scope. They are listed from the outside, each
before the scopes inside it.
-/

namespace Remedy.Python

/-- What a scope belongs to. -/
inductive Owner where
  | program
  | function (line : Nat) (name : String) (params : List String)
  | classDef (line : Nat) (name : String)

structure Scope where
  owner : Owner
  body : List Stmt

namespace Scope

mutual

def insideOne : Stmt → List Scope
  | .simple _ _ => []
  | .branch _ _ body orelse | .whileLoop _ _ body orelse | .forLoop _ _ _ body orelse =>
    inside body ++ inside orelse
  | .function line name params body => ⟨.function line name params, body⟩ :: inside body
  | .classDef line name body => ⟨.classDef line name, body⟩ :: inside body
  | .tryBlock _ body handlers orelse finalBody =>
    inside body ++ insideHandlers handlers ++ inside orelse ++ inside finalBody
  | .withBlock _ _ _ body => inside body

def inside : List Stmt → List Scope
  | [] => []
  | s :: body => insideOne s ++ inside body

def insideHandlers : List Handler → List Scope
  | [] => []
  | .mk _ _ body :: handlers => inside body ++ insideHandlers handlers

end

/-- The statements of a scope at any depth of blocks, outermost first. -/
def statements (s : Scope) : List Stmt := Stmt.walkScope s.body

end Scope

def Module.scopes (m : Module) : List Scope := ⟨.program, m.body⟩ :: Scope.inside m.body

end Remedy.Python
