import Remedy.Python.Tree

/-!
# Ways out of a block

Whether a loop body can leave its loop, and whether a function returns under a condition. Functions
and classes inside are no way out; a `break` in an inner loop leaves only that one.
-/

namespace Remedy.Python.Stmt

mutual

/-- Whether a statement can return or raise. -/
def leaves : Stmt → Bool
  | simple _ (.ret _) | simple _ (.raise _) => true
  | simple _ _ => false
  | function _ _ _ _ | classDef _ _ _ => false
  | branch _ _ body orelse | whileLoop _ _ body orelse | forLoop _ _ _ body orelse =>
    anyLeaves body || anyLeaves orelse
  | tryBlock _ body handlers orelse finalBody =>
    anyLeaves body || anyHandlerLeaves handlers || anyLeaves orelse || anyLeaves finalBody
  | withBlock _ _ _ body => anyLeaves body

def anyLeaves : List Stmt → Bool
  | [] => false
  | s :: body => leaves s || anyLeaves body

def anyHandlerLeaves : List Handler → Bool
  | [] => false
  | .mk _ _ body :: handlers => anyLeaves body || anyHandlerLeaves handlers

end

mutual

/-- Whether a statement can leave the loop around it. -/
def escapes : Stmt → Bool
  | simple _ .breakLoop | simple _ (.ret _) | simple _ (.raise _) => true
  | simple _ _ => false
  | function _ _ _ _ | classDef _ _ _ => false
  | whileLoop _ _ body orelse | forLoop _ _ _ body orelse => anyLeaves body || anyEscapes orelse
  | branch _ _ body orelse => anyEscapes body || anyEscapes orelse
  | tryBlock _ body handlers orelse finalBody =>
    anyEscapes body || anyHandlerEscapes handlers || anyEscapes orelse || anyEscapes finalBody
  | withBlock _ _ _ body => anyEscapes body

def anyEscapes : List Stmt → Bool
  | [] => false
  | s :: body => escapes s || anyEscapes body

def anyHandlerEscapes : List Handler → Bool
  | [] => false
  | .mk _ _ body :: handlers => anyEscapes body || anyHandlerEscapes handlers

end

mutual

/-- Whether a statement returns under a condition, or at all if it is under one already. -/
def returnsUnder (conditional : Bool) : Stmt → Bool
  | simple _ (.ret _) => conditional
  | simple _ _ => false
  | function _ _ _ _ | classDef _ _ _ => false
  | branch _ _ body orelse => anyReturnsUnder true body || anyReturnsUnder true orelse
  | whileLoop _ _ body orelse | forLoop _ _ _ body orelse =>
    anyReturnsUnder conditional body || anyReturnsUnder conditional orelse
  | tryBlock _ body handlers orelse finalBody =>
    anyReturnsUnder conditional body || anyHandlerReturnsUnder conditional handlers
      || anyReturnsUnder conditional orelse || anyReturnsUnder conditional finalBody
  | withBlock _ _ _ body => anyReturnsUnder conditional body

def anyReturnsUnder (conditional : Bool) : List Stmt → Bool
  | [] => false
  | s :: body => returnsUnder conditional s || anyReturnsUnder conditional body

def anyHandlerReturnsUnder (conditional : Bool) : List Handler → Bool
  | [] => false
  | .mk _ _ body :: handlers =>
    anyReturnsUnder conditional body || anyHandlerReturnsUnder conditional handlers

end

end Remedy.Python.Stmt
