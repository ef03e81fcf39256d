import Remedy.Python.Tree

/-!
# Executions of a scope

A reference semantics of the statements of one scope, as far as control goes: which statements an
execution reaches and how it ends, whatever the values are. `Runs code reached ending` says that
some execution of a piece of program reaches the statements at the places `reached` and ends in some
way. An execution may be looked at when it is still under way (`Ending.paused`), so that what is
reached before a loop that never ends is reached too.
-/

namespace Remedy.Flow

open Python

/-! ## Places -/

inductive Part where
  | body
  | orelse
  | handler (number : Nat)
  | final
deriving DecidableEq, Repr

/-- Where a statement stands: it is a statement of a block, or it stands in a block of one. -/
inductive Place where
  | here (number : Nat)
  | inside (number : Nat) (part : Part) (place : Place)
deriving DecidableEq, Repr

/-- A block of a statement, if it has one there that belongs to the same scope. -/
def Part.block? : Part → Stmt → Option (List Stmt)
  | .body, .branch _ _ block _ | .body, .whileLoop _ _ block _ | .body, .forLoop _ _ _ block _
  | .body, .tryBlock _ block _ _ _ | .body, .withBlock _ _ _ block => some block
  | .orelse, .branch _ _ _ block | .orelse, .whileLoop _ _ _ block
  | .orelse, .forLoop _ _ _ _ block | .orelse, .tryBlock _ _ _ block _ => some block
  | .handler k, .tryBlock _ _ handlers _ _ => handlers[k]?.map Handler.body
  | .final, .tryBlock _ _ _ _ block => some block
  | _, _ => none

/-- The statement at a place in a block. -/
def Place.find? : Place → List Stmt → Option Stmt
  | .here n, block => block[n]?
  | .inside n part place, block => (block[n]?.bind part.block?).bind place.find?

/-! ## Endings -/

/-- How an execution ended, or that it is still under way. -/
inductive Ending where
  | paused
  | normal
  | raised
  | returned
  | broke
  | continued
deriving DecidableEq, Repr

/-- How a simple statement ends if it raises no exception of its own. -/
def endingOf : Simple → Ending
  | .ret _ => .returned
  | .raise _ => .raised
  | .breakLoop => .broke
  | .continueLoop => .continued
  | _ => .normal

/-- The ending of a `try` statement: that of its `finally`, or what was pending if that is
normal. -/
def Ending.resume (pending : Ending) : (last : Ending) → Ending
  | .normal => pending
  | last => last

/-! ## Executions -/

/-- What is executed: a statement, by its number in its block; the statements of a block from some
number on; a loop from its head on, perhaps one that never runs out; or a `try` statement without
its `finally`. -/
inductive Code where
  | statement (number : Nat) (s : Stmt)
  | block (number : Nat) (body : List Stmt)
  | loop (number : Nat) (forever : Bool) (body orelse : List Stmt)
  | tried (number : Nat) (body : List Stmt) (handlers : List Handler) (orelse : List Stmt)

/-- The executions of a piece of program, each with the places of the statements that it reaches and
its ending. -/
inductive Runs : Code → List Place → Ending → Prop
  /-- Any execution is under way before it comes to anything. -/
  | paused {code : Code} : Runs code [] .paused
  -- simple statements, definitions among them
  | simple {n line : Nat} {what : Simple} :
      Runs (.statement n (.simple line what)) [.here n] (endingOf what)
  | simpleRaises {n line : Nat} {what : Simple} :
      Runs (.statement n (.simple line what)) [.here n] .raised
  | define {n : Nat} {s : Stmt} (scope : s.isScope = true) :
      Runs (.statement n s) [.here n] .normal
  | defineRaises {n : Nat} {s : Stmt} (scope : s.isScope = true) :
      Runs (.statement n s) [.here n] .raised
  -- branches, the one that matches if the test is a literal
  | branchBody {n line : Nat} {test : Expr} {body orelse : List Stmt} {reached : List Place}
      {ending : Ending} (maybe : test.literal?.map Literal.truthy ≠ some false)
      (run : Runs (.block 0 body) reached ending) :
      Runs (.statement n (.branch line test body orelse))
        (.here n :: reached.map (.inside n .body)) ending
  | branchElse {n line : Nat} {test : Expr} {body orelse : List Stmt} {reached : List Place}
      {ending : Ending} (maybe : test.literal?.map Literal.truthy ≠ some true)
      (run : Runs (.block 0 orelse) reached ending) :
      Runs (.statement n (.branch line test body orelse))
        (.here n :: reached.map (.inside n .orelse)) ending
  -- loops
  | whileLoop {n line : Nat} {test : Expr} {body orelse : List Stmt} {reached : List Place}
      {ending : Ending}
      (run : Runs (.loop n (test.literal?.any Literal.truthy) body orelse) reached ending) :
      Runs (.statement n (.whileLoop line test body orelse)) (.here n :: reached) ending
  | forLoop {n line : Nat} {target iter : Expr} {body orelse : List Stmt} {reached : List Place}
      {ending : Ending} (run : Runs (.loop n false body orelse) reached ending) :
      Runs (.statement n (.forLoop line target iter body orelse)) (.here n :: reached) ending
  | loopExhausted {n : Nat} {body orelse : List Stmt} {reached : List Place} {ending : Ending}
      (run : Runs (.block 0 orelse) reached ending) :
      Runs (.loop n false body orelse) (reached.map (.inside n .orelse)) ending
  | loopNext {n : Nat} {forever : Bool} {body orelse : List Stmt} {reached later : List Place}
      {ending last : Ending} (run : Runs (.block 0 body) reached ending)
      (again : ending = .normal ∨ ending = .continued)
      (rest : Runs (.loop n forever body orelse) later last) :
      Runs (.loop n forever body orelse) (reached.map (.inside n .body) ++ later) last
  | loopBroken {n : Nat} {forever : Bool} {body orelse : List Stmt} {reached : List Place}
      (run : Runs (.block 0 body) reached .broke) :
      Runs (.loop n forever body orelse) (reached.map (.inside n .body)) .normal
  | loopLeft {n : Nat} {forever : Bool} {body orelse : List Stmt} {reached : List Place}
      {ending : Ending} (run : Runs (.block 0 body) reached ending)
      (outward : ending = .paused ∨ ending = .raised ∨ ending = .returned) :
      Runs (.loop n forever body orelse) (reached.map (.inside n .body)) ending
  -- `try` statements up to their `finally`; an exception may come at any point of the body
  | triedNormal {n : Nat} {body orelse : List Stmt} {handlers : List Handler}
      {reached later : List Place} {ending : Ending} (run : Runs (.block 0 body) reached .normal)
      (rest : Runs (.block 0 orelse) later ending) :
      Runs (.tried n body handlers orelse)
        (reached.map (.inside n .body) ++ later.map (.inside n .orelse)) ending
  | triedAbrupt {n : Nat} {body orelse : List Stmt} {handlers : List Handler}
      {reached : List Place} {ending : Ending} (run : Runs (.block 0 body) reached ending)
      (abrupt : ending ≠ .normal) :
      Runs (.tried n body handlers orelse) (reached.map (.inside n .body)) ending
  | triedInterrupted {n : Nat} {body orelse : List Stmt} {handlers : List Handler}
      {reached : List Place} (run : Runs (.block 0 body) reached .paused) :
      Runs (.tried n body handlers orelse) (reached.map (.inside n .body)) .raised
  | triedCaught {n k : Nat} {body orelse : List Stmt} {handlers : List Handler}
      {handler : Handler} {reached later : List Place} {ending last : Ending}
      (run : Runs (.block 0 body) reached ending)
      (exception : ending = .raised ∨ ending = .paused) (handles : handlers[k]? = some handler)
      (rest : Runs (.block 0 handler.body) later last) :
      Runs (.tried n body handlers orelse)
        (reached.map (.inside n .body) ++ later.map (.inside n (.handler k))) last
  -- `finally` runs last, unless the execution is still under way
  | tryPaused {n line : Nat} {body orelse finalBody : List Stmt} {handlers : List Handler}
      {reached : List Place} (run : Runs (.tried n body handlers orelse) reached .paused) :
      Runs (.statement n (.tryBlock line body handlers orelse finalBody)) (.here n :: reached)
        .paused
  | tryFinally {n line : Nat} {body orelse finalBody : List Stmt} {handlers : List Handler}
      {reached later : List Place} {pending last : Ending}
      (run : Runs (.tried n body handlers orelse) reached pending) (ended : pending ≠ .paused)
      (rest : Runs (.block 0 finalBody) later last) :
      Runs (.statement n (.tryBlock line body handlers orelse finalBody))
        (.here n :: (reached ++ later.map (.inside n .final))) (pending.resume last)
  | withBlock {n line : Nat} {items targets : List Expr} {body : List Stmt}
      {reached : List Place} {ending : Ending} (run : Runs (.block 0 body) reached ending) :
      Runs (.statement n (.withBlock line items targets body))
        (.here n :: reached.map (.inside n .body)) ending
  -- blocks
  | blockDone {n : Nat} : Runs (.block n []) [] .normal
  | blockNext {n : Nat} {s : Stmt} {body : List Stmt} {reached later : List Place}
      {ending : Ending} (first : Runs (.statement n s) reached .normal)
      (rest : Runs (.block (n + 1) body) later ending) :
      Runs (.block n (s :: body)) (reached ++ later) ending
  | blockLeft {n : Nat} {s : Stmt} {body : List Stmt} {reached : List Place} {ending : Ending}
      (first : Runs (.statement n s) reached ending) (abrupt : ending ≠ .normal) :
      Runs (.block n (s :: body)) reached ending

/-- Some execution of a scope reaches the statement at a place. -/
def Reached (body : List Stmt) (place : Place) : Prop :=
  ∃ reached ending, Runs (.block 0 body) reached ending ∧ place ∈ reached

end Remedy.Flow
