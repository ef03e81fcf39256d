/-!
# Edit scripts

A script tells how one list becomes another: what is kept, deleted and inserted, in order. What both
lists start and end with is kept; in between, a longest common subsequence is kept, and between two
kept elements the deletions come before the insertions.
-/

namespace Remedy.Edit

inductive Op (α : Type) where
  | keep (a : α)
  | delete (a : α)
  | insert (a : α)
deriving Repr, DecidableEq

namespace Op

variable {α : Type}

/-- The element of the old list that an edit takes up. -/
def old? : Op α → Option α
  | keep a | delete a => some a
  | insert _ => none

/-- The element of the new list that an edit yields. -/
def new? : Op α → Option α
  | keep a | insert a => some a
  | delete _ => none

def isKeep : Op α → Bool
  | keep _ => true
  | _ => false

end Op

variable {α : Type}

def before (script : List (Op α)) : List α := script.filterMap Op.old?

def after (script : List (Op α)) : List α := script.filterMap Op.new?

def changes (script : List (Op α)) : List (Op α) := script.filter fun e => !e.isKeep

section Align

variable [DecidableEq α]

/-- How many elements two lists have in common at their start. -/
def commonStart : List α → List α → Nat
  | a :: as, b :: bs => if a = b then commonStart as bs + 1 else 0
  | _, _ => 0

/-- The lengths of the longest common subsequences of `a :: as` and each end of a list, the whole of
it first, given those of `as`. -/
def extendRow (a : α) : List α → List Nat → List Nat
  | b :: bs, below :: diagonal :: row =>
    let right := extendRow a bs (diagonal :: row)
    (if a = b then diagonal + 1 else max below (right.headD 0)) :: right
  | _, _ => [0]

/-- For each end of `as`, the whole of it first, the lengths of the longest common subsequences with
each end of `bs`. -/
def table (as bs : List α) : List (List Nat) :=
  match as with
  | [] => [List.replicate (bs.length + 1) 0]
  | a :: as =>
    let below := table as bs
    extendRow a bs (below.headD []) :: below

/-- A script that keeps a longest common subsequence. `rows` is the table of the two lists; of two
equally good ways the one that deletes first is taken. -/
def align : List α → List α → (rows : List (List Nat)) → List (Op α)
  | [], bs, _ => bs.map .insert
  | as, [], _ => as.map .delete
  | a :: as, b :: bs, rows =>
    if a = b then .keep a :: align as bs (rows.tail.map List.tail)
    else if (rows.headD []).tail.headD 0 ≤ (rows.tail.headD []).headD 0 then
      .delete a :: align as (b :: bs) rows.tail
    else .insert b :: align (a :: as) bs (rows.map List.tail)
termination_by as bs => as.length + bs.length

/-- The same script with the deletions before the insertions wherever nothing is kept between them;
`pending` are insertions that wait. -/
def deletionsFirst : (pending : List α) → List (Op α) → List (Op α)
  | pending, [] => pending.map .insert
  | pending, .keep a :: script => pending.map .insert ++ .keep a :: deletionsFirst [] script
  | pending, .delete a :: script => .delete a :: deletionsFirst pending script
  | pending, .insert a :: script => deletionsFirst (pending ++ [a]) script

def script (old new : List α) : List (Op α) :=
  let start := commonStart old new
  let oldRest := old.drop start
  let newRest := new.drop start
  let stop := commonStart oldRest.reverse newRest.reverse
  let oldMiddle := oldRest.take (oldRest.length - stop)
  let newMiddle := newRest.take (newRest.length - stop)
  (old.take start).map .keep
    ++ deletionsFirst [] (align oldMiddle newMiddle (table oldMiddle newMiddle))
    ++ (oldRest.drop (oldRest.length - stop)).map .keep

end Align

/-! ## Steps by position -/

/-- One edit by the positions of its elements, counted from zero. -/
inductive Step where
  | keep (old new : Nat)
  | delete (old : Nat)
  | insert (new : Nat)
deriving Repr, DecidableEq

/-- The edits of a script by position, when `old` and `new` elements come before it. -/
def stepsFrom : (old new : Nat) → List (Op α) → List Step
  | _, _, [] => []
  | old, new, .keep _ :: script => .keep old new :: stepsFrom (old + 1) (new + 1) script
  | old, new, .delete _ :: script => .delete old :: stepsFrom (old + 1) new script
  | old, new, .insert _ :: script => .insert new :: stepsFrom old (new + 1) script

def steps [DecidableEq α] (old new : List α) : List Step := stepsFrom 0 0 (script old new)

end Remedy.Edit
