import Remedy.Python.Binding
import Remedy.Python.Scope

/-!
# What a syntax tree is made of

A statement is within a block if it stands there or in a block of one of its statements, at any
depth (`Stmt.Within`). The statements of a scope, and those of the scopes inside it, are within its
body (`within_of_mem_scopes`); and a statement reads each name on the line of an expression that it
evaluates (`exists_of_mem_reads`).
-/

namespace Remedy.Python

/-! ## Parts of expressions -/

namespace Expr

section Parts

variable {e f g : Expr} {parts others : List Expr}

theorem mem_cons_imp (h : f ∈ e :: parts) (hself : f = e → g ∈ e :: parts)
    (hparts : f ∈ parts → g ∈ parts) : g ∈ e :: parts :=
  (List.mem_cons.mp h).elim hself fun h => List.mem_cons_of_mem _ (hparts h)

theorem mem_append_imp (hparts : f ∈ parts → g ∈ parts) (hothers : f ∈ others → g ∈ others)
    (h : f ∈ parts ++ others) : g ∈ parts ++ others :=
  List.mem_append.mpr ((List.mem_append.mp h).imp hparts hothers)

end Parts

mutual

/-- A part of a part of an expression is a part of it. -/
theorem mem_walk_trans {f g : Expr} (hg : g ∈ walk f) : (e : Expr) → f ∈ walk e → g ∈ walk e
  | name l id, h | const l value, h | innerScope l, h => List.mem_singleton.mp h ▸ hg
  | compare l left ops comparators, h =>
      mem_cons_imp h (by rintro rfl; exact hg)
        (mem_append_imp (mem_walk_trans hg left) (mem_walkAll_trans hg comparators))
  | binary l left op right, h =>
      mem_cons_imp h (by rintro rfl; exact hg)
        (mem_append_imp (mem_walk_trans hg left) (mem_walk_trans hg right))
  | call l callee args, h =>
      mem_cons_imp h (by rintro rfl; exact hg)
        (mem_append_imp (mem_walk_trans hg callee) (mem_walkAll_trans hg args))
  | subscript l value index, h =>
      mem_cons_imp h (by rintro rfl; exact hg)
        (mem_append_imp (mem_walk_trans hg value) (mem_walk_trans hg index))
  | member l value field, h =>
      mem_cons_imp h (by rintro rfl; exact hg) (mem_walk_trans hg value)
  | sequence l items, h =>
      mem_cons_imp h (by rintro rfl; exact hg) (mem_walkAll_trans hg items)
  | other l items, h =>
      mem_cons_imp h (by rintro rfl; exact hg) (mem_walkAll_trans hg items)

theorem mem_walkAll_trans {f g : Expr} (hg : g ∈ walk f) :
    (es : List Expr) → f ∈ walkAll es → g ∈ walkAll es
  | e :: es, h => mem_append_imp (mem_walk_trans hg e) (mem_walkAll_trans hg es) h

end

mutual

/-- What an assignment to an expression reads is part of the expression. -/
theorem mem_walk_of_mem_targetReads {r : Expr} : (e : Expr) → r ∈ targetReads e → r ∈ walk e
  | sequence l items, h => List.mem_cons_of_mem _ (mem_walkAll_of_mem_targetReadsAll items h)
  | subscript l value index, h => by
      refine List.mem_cons_of_mem _ (List.mem_append.mpr ?_)
      rcases List.mem_cons.mp h with rfl | h
      · exact .inl (mem_walk_self r)
      · exact .inr (List.mem_singleton.mp h ▸ mem_walk_self r)
  | member l value field, h =>
      List.mem_cons_of_mem _ (List.mem_singleton.mp h ▸ mem_walk_self value)
  | const l value, h | compare l left ops comparators, h | binary l left op right, h
  | call l callee args, h | innerScope l, h | other l items, h =>
      List.mem_singleton.mp h ▸ mem_walk_self _

theorem mem_walkAll_of_mem_targetReadsAll {r : Expr} :
    (es : List Expr) → r ∈ targetReadsAll es → r ∈ walkAll es
  | e :: es, h => by
      refine List.mem_append.mpr ((List.mem_append.mp h).imp ?_ ?_)
      · exact mem_walk_of_mem_targetReads e
      · exact mem_walkAll_of_mem_targetReadsAll es

end

end Expr

/-! ## Blocks of statements -/

namespace Stmt

section Induction

variable {p : List Stmt → Prop}

mutual

theorem forall_blocks (step : ∀ body, (∀ s ∈ body, ∀ block ∈ s.blocks, p block) → p body) :
    (s : Stmt) → ∀ block ∈ s.blocks, p block
  | simple _ _ => List.forall_mem_nil _
  | branch _ _ body orelse | whileLoop _ _ body orelse | forLoop _ _ _ body orelse =>
      List.forall_mem_cons.mpr ⟨step body (forall_blocksOf step body),
        List.forall_mem_singleton.mpr (step orelse (forall_blocksOf step orelse))⟩
  | function _ _ _ body | classDef _ _ body | withBlock _ _ _ body =>
      List.forall_mem_singleton.mpr (step body (forall_blocksOf step body))
  | tryBlock _ body handlers orelse finalBody =>
      List.forall_mem_cons.mpr ⟨step body (forall_blocksOf step body),
        List.forall_mem_append.mpr ⟨forall_handlerBodies step handlers,
          List.forall_mem_cons.mpr ⟨step orelse (forall_blocksOf step orelse),
            List.forall_mem_singleton.mpr (step finalBody (forall_blocksOf step finalBody))⟩⟩⟩

theorem forall_blocksOf (step : ∀ body, (∀ s ∈ body, ∀ block ∈ s.blocks, p block) → p body) :
    (body : List Stmt) → ∀ s ∈ body, ∀ block ∈ s.blocks, p block
  | [] => List.forall_mem_nil _
  | s :: body => List.forall_mem_cons.mpr ⟨forall_blocks step s, forall_blocksOf step body⟩

theorem forall_handlerBodies
    (step : ∀ body, (∀ s ∈ body, ∀ block ∈ s.blocks, p block) → p body) :
    (handlers : List Handler) → ∀ block ∈ handlers.map Handler.body, p block
  | [] => List.forall_mem_nil _
  | .mk _ _ body :: handlers =>
      List.forall_mem_cons.mpr
        ⟨step body (forall_blocksOf step body), forall_handlerBodies step handlers⟩

end

/-- What holds of a block if it holds of the blocks of its statements holds of every block. -/
theorem block_induction (step : ∀ body, (∀ s ∈ body, ∀ block ∈ s.blocks, p block) → p body)
    (body : List Stmt) : p body :=
  step body (forall_blocksOf step body)

end Induction

/-- The statements of a scope are its own and, unless they are scopes, those of their blocks. -/
theorem walkOne_eq (s : Stmt) :
    walkOne s = s :: if s.isScope then [] else s.blocks.flatMap walkScope := by
  cases s <;>
    simp [walkOne, isScope, blocks, walkHandlers_eq_flatMap, List.flatMap_map]

/-- A statement stands in a block, or in a block of a statement within that block. -/
inductive Within (s : Stmt) : List Stmt → Prop
  | here {body : List Stmt} (h : s ∈ body) : Within s body
  | deeper {body block : List Stmt} {t : Stmt} (ht : t ∈ body) (hblock : block ∈ t.blocks)
      (h : Within s block) : Within s body

variable {s t : Stmt} {body block : List Stmt}

/-- A statement is within a block that the one around it is within. -/
theorem Within.of_block (ht : t.Within body) (hblock : block ∈ t.blocks) (h : s.Within block) :
    s.Within body := by
  induction ht with
  | here ht => exact .deeper ht hblock h
  | deeper hu hinner _ ih => exact .deeper hu hinner ih

/-- The statements of a scope are within its body. -/
theorem within_of_mem_walkScope (body : List Stmt) : ∀ t ∈ walkScope body, t.Within body := by
  induction body using block_induction with
  | step body ih =>
      intro t ht
      rw [walkScope_eq_flatMap] at ht
      obtain ⟨s, hs, ht⟩ := List.mem_flatMap.mp ht
      rw [walkOne_eq] at ht
      rcases List.mem_cons.mp ht with rfl | ht
      · exact .here hs
      · split at ht
        · cases ht
        · obtain ⟨block, hblock, ht⟩ := List.mem_flatMap.mp ht
          exact .deeper hs hblock (ih s hs block hblock t ht)

theorem mem_allExpressions {e r : Expr} (he : e ∈ s.expressions) (hr : r ∈ e.walk) :
    r ∈ s.allExpressions :=
  List.mem_flatMap.mpr ⟨e, he, hr⟩

/-- The expressions that a statement reads are parts of those that it evaluates. -/
theorem mem_allExpressions_of_mem_loads {r : Expr} (h : r ∈ s.loads) : r ∈ s.allExpressions := by
  have hread {e : Expr} (he : e ∈ s.expressions) (hr : r ∈ e.targetReads) :
      r ∈ s.allExpressions :=
    mem_allExpressions he (Expr.mem_walk_of_mem_targetReads e hr)
  have hown (he : r ∈ s.expressions) : r ∈ s.allExpressions :=
    mem_allExpressions he (Expr.mem_walk_self r)
  cases s with
  | simple line what =>
      cases what with
      | assign targets value =>
          rcases List.mem_append.mp h with h | h
          · exact hown (List.mem_append_right _ h)
          · obtain ⟨target, htarget, h⟩ := List.mem_flatMap.mp h
            exact hread (List.mem_append_left _ htarget) h
      | _ => exact hown h
  | forLoop line target iter body orelse =>
      rcases List.mem_cons.mp h with rfl | h
      · exact hown (List.mem_cons_of_mem _ (List.mem_singleton_self _))
      · exact hread List.mem_cons_self h
  | withBlock line items targets body =>
      rcases List.mem_append.mp h with h | h
      · exact hown (List.mem_append_left _ h)
      · obtain ⟨target, htarget, h⟩ := List.mem_flatMap.mp h
        exact hread (List.mem_append_right _ htarget) h
  | _ => exact hown h

/-- A name is read on the line of an expression that the statement evaluates. -/
theorem exists_of_mem_reads {name : String} {line : Nat} (h : (name, line) ∈ s.reads) :
    ∃ e ∈ s.allExpressions, e.line = line := by
  obtain ⟨e, he, hname⟩ := List.mem_filterMap.mp h
  obtain ⟨r, hr, he⟩ := List.mem_flatMap.mp he
  obtain ⟨x, hx, hr⟩ := List.mem_flatMap.mp (mem_allExpressions_of_mem_loads hr)
  obtain ⟨_, -, heq⟩ := Option.map_eq_some_iff.mp hname
  exact ⟨e, mem_allExpressions hx (Expr.mem_walk_trans he x hr), congrArg Prod.snd heq⟩

end Stmt

/-! ## Scopes -/

namespace Scope

/-- The scope that a statement makes. -/
def ofDefinition? : Stmt → Option Scope
  | .function line name params body => some ⟨.function line name params, body⟩
  | .classDef line name body => some ⟨.classDef line name, body⟩
  | _ => none

theorem insideHandlers_eq_flatMap (handlers : List Handler) :
    insideHandlers handlers = handlers.flatMap fun h => inside h.body := by
  induction handlers with
  | nil => rfl
  | cons h handlers ih =>
      cases h
      rw [insideHandlers, List.flatMap_cons, ih]
      rfl

theorem inside_eq_flatMap (body : List Stmt) : inside body = body.flatMap insideOne := by
  induction body with
  | nil => rfl
  | cons s body ih => rw [inside, List.flatMap_cons, ih]

/-- The scopes inside a statement are the one that it makes and those in its blocks. -/
theorem insideOne_eq (s : Stmt) :
    insideOne s = (ofDefinition? s).toList ++ s.blocks.flatMap inside := by
  cases s <;>
    simp [insideOne, ofDefinition?, Stmt.blocks, insideHandlers_eq_flatMap, List.flatMap_map]

/-- A statement makes a scope if it is a definition, and then its only block is the scope's body. -/
theorem isScope_of_ofDefinition? {s : Stmt} {sc : Scope} (h : ofDefinition? s = some sc) :
    s.isScope = true ∧ s.blocks = [sc.body] := by
  cases s <;> cases h <;> exact ⟨rfl, rfl⟩

theorem exists_of_isScope {s : Stmt} (h : s.isScope = true) : ∃ sc, ofDefinition? s = some sc := by
  cases s with
  | function | classDef => exact ⟨_, rfl⟩
  | _ => cases h

theorem body_mem_blocks {s : Stmt} {sc : Scope} (h : ofDefinition? s = some sc) :
    sc.body ∈ s.blocks := by
  rw [(isScope_of_ofDefinition? h).2]
  exact List.mem_singleton_self _

theorem line_of_ofDefinition? {s : Stmt} {sc : Scope} {line : Nat} {name : String}
    {params : List String} (h : ofDefinition? s = some sc)
    (howner : sc.owner = .function line name params) : s.line = line := by
  cases s with
  | function =>
      obtain rfl := Option.some.inj h
      injection howner
  | classDef =>
      obtain rfl := Option.some.inj h
      cases howner
  | _ => cases h

/-- A scope inside a block is made by a statement within the block. -/
theorem exists_of_mem_inside (body : List Stmt) :
    ∀ sc ∈ inside body, ∃ s : Stmt, ofDefinition? s = some sc ∧ s.Within body := by
  induction body using Stmt.block_induction with
  | step body ih =>
      -- the bodies of functions and classes are among the blocks, so this comes to every depth
      intro sc hsc
      rw [inside_eq_flatMap] at hsc
      obtain ⟨t, ht, hsc⟩ := List.mem_flatMap.mp hsc
      rw [insideOne_eq] at hsc
      rcases List.mem_append.mp hsc with hsc | hsc
      · exact ⟨t, Option.mem_toList.mp hsc, .here ht⟩
      · obtain ⟨block, hblock, hsc⟩ := List.mem_flatMap.mp hsc
        obtain ⟨s, hs, hwithin⟩ := ih t ht block hblock sc hsc
        exact ⟨s, hs, .deeper ht hblock hwithin⟩

end Scope

/-- The statements of the scopes of a program are within the program. -/
theorem within_of_mem_scopes {m : Module} {sc : Scope} {t : Stmt} (hsc : sc ∈ m.scopes)
    (ht : t ∈ sc.statements) : t.Within m.body := by
  have hwalk := Stmt.within_of_mem_walkScope sc.body t ht
  rcases List.mem_cons.mp hsc with rfl | hsc
  · exact hwalk
  · obtain ⟨s, hs, hwithin⟩ := Scope.exists_of_mem_inside m.body sc hsc
    exact hwithin.of_block (Scope.body_mem_blocks hs) hwalk

end Remedy.Python
