import Remedy.Proofs.Diagnosis.NormalForm
import Remedy.Proofs.Flow.Census
import Remedy.Proofs.Python.Locals
import Remedy.Proofs.Python.Within

/-!
# Findings are pinned to the program

Every check pins what it finds to a line: that of the statement, expression or function it looks at,
or of a statement in one of the blocks. So every finding in a program has a line on which a
statement of the program, at any depth, or one of its expressions starts (`pinned_findings`); and
what is kept of them is in normal form (`analyze_normalForm`).
-/

namespace Remedy.Python

/-- Whether every finding has a line, and one that fits. -/
def Pinned (fits : Nat → Prop) (fs : List Finding) : Prop :=
  ∀ f ∈ fs, ∃ line, f.line = some line ∧ fits line

namespace Pinned

variable {α : Type} {fits : Nat → Prop} {f : Finding} {fs gs : List Finding} {line : Nat}

theorem nil : Pinned fits [] := List.forall_mem_nil _

theorem single (hf : f.line = some line) (h : fits line) : Pinned fits [f] :=
  List.forall_mem_singleton.mpr ⟨line, hf, h⟩

theorem append (hfs : Pinned fits fs) (hgs : Pinned fits gs) : Pinned fits (fs ++ gs) :=
  List.forall_mem_append.mpr ⟨hfs, hgs⟩

theorem flatMap {as : List α} {check : α → List Finding}
    (h : ∀ a ∈ as, Pinned fits (check a)) : Pinned fits (as.flatMap check) := by
  intro f hf
  obtain ⟨a, ha, hf⟩ := List.mem_flatMap.mp hf
  exact h a ha f hf

theorem ite {c : Prop} [Decidable c] (hfs : Pinned fits fs) (hgs : Pinned fits gs) :
    Pinned fits (if c then fs else gs) := by
  split
  · exact hfs
  · exact hgs

end Pinned

/-- Whether a statement within a block, or an expression that it evaluates, starts on a line. -/
def HasLine (body : List Stmt) (line : Nat) : Prop :=
  ∃ s : Stmt, s.Within body ∧ (s.line = line ∨ ∃ e ∈ s.allExpressions, e.line = line)

theorem Stmt.Within.hasLine {s : Stmt} {body : List Stmt} (h : s.Within body) :
    HasLine body s.line :=
  ⟨s, h, .inl rfl⟩

theorem Stmt.Within.hasLine_expression {s : Stmt} {body : List Stmt} {e : Expr}
    (h : s.Within body) (he : e ∈ s.allExpressions) : HasLine body e.line :=
  ⟨s, h, .inr ⟨e, he, rfl⟩⟩

namespace Check

variable {fits : Nat → Prop} {line : Nat} {name : String} {stmts body : List Stmt}
  {lineText : Nat → List Char}

/-! ## Statements -/

theorem pinned_endlessLoop {test : Expr} (h : fits line) :
    Pinned fits (endlessLoop line test body) := by
  unfold endlessLoop
  refine .ite .nil (.ite (.single rfl h) (.ite .nil ?_))
  dsimp only
  split
  · exact .nil
  · exact .ite .nil (.single rfl h)

theorem pinned_emptyLoop (h : fits line) : Pinned fits (emptyLoop line body) := by
  unfold emptyLoop
  split
  · exact .single rfl h
  · exact .nil

theorem pinned_rangeFromOne {iter : Expr} (h : fits line) :
    Pinned fits (rangeFromOne line iter body) := by
  unfold rangeFromOne
  split
  · exact .ite (.single rfl h) .nil
  · exact .nil

theorem pinned_membershipLookup {test : Expr} (h : ∀ s ∈ Stmt.walkScope body, fits s.line) :
    Pinned fits (membershipLookup test body) := by
  unfold membershipLookup
  split
  · split
    · intro f hf
      obtain ⟨s, hs, hf⟩ := List.mem_filterMap.mp hf
      split at hf
      · split at hf
        · exact ⟨s.line, by rw [← Option.some.inj hf], h s hs⟩
        · cases hf
      · cases hf
    · exact .nil
  · exact .nil

/-! ## Expressions -/

theorem pinned_comparison {e : Expr} (h : fits e.line) : Pinned fits (comparison e) := by
  unfold comparison
  split
  · exact .ite (.single rfl h) (.ite (.single rfl h) .nil)
  · exact .nil

theorem pinned_arithmetic {e : Expr} (h : fits e.line) : Pinned fits (arithmetic lineText e) := by
  unfold arithmetic
  split
  · split
    · exact .nil
    · exact .ite .nil (.single rfl h)
  · split
    · exact .nil
    · exact .single rfl h
  · exact .nil

/-- The checks of a statement pin to it, to its expressions, or to a statement in its blocks. -/
theorem pinned_statement {s : Stmt} (h : s.Within body) :
    Pinned (HasLine body) (statement lineText s) := by
  have hline := h.hasLine
  unfold statement
  refine .append (.append ?_ ?_) ?_
  · cases s with
    | whileLoop line test inner orelse =>
        exact .append (pinned_endlessLoop hline) (pinned_emptyLoop hline)
    | forLoop line target iter inner orelse =>
        exact .append (pinned_rangeFromOne hline) (pinned_emptyLoop hline)
    | branch line test inner orelse =>
        refine pinned_membershipLookup fun t ht => ?_
        exact (h.of_block List.mem_cons_self (Stmt.within_of_mem_walkScope inner t ht)).hasLine
    | _ => exact .nil
  · exact .flatMap fun e he => pinned_comparison (h.hasLine_expression he)
  · exact .flatMap fun e he => pinned_arithmetic (h.hasLine_expression he)

/-! ## Functions -/

theorem pinned_recursion (h : fits line) : Pinned fits (recursion line name body) := by
  unfold recursion
  exact .ite .nil (.ite (.single rfl h) (.ite (.single rfl h) .nil))

theorem pinned_mixedReturns (h : ∀ s ∈ stmts, fits s.line) :
    Pinned fits (mixedReturns name stmts) := by
  unfold mixedReturns
  split
  · next first _ hlines =>
      have hmem : first ∈ (returnLines stmts).2 := by
        rw [hlines]
        exact List.mem_cons_self
      obtain ⟨s, hs, hbare⟩ := List.mem_filterMap.mp hmem
      split at hbare
      · obtain rfl := Option.some.inj hbare
        exact .single rfl (h _ hs)
      · cases hbare
  · exact .nil

theorem pinned_searchWithoutResult (h : fits line) :
    Pinned fits (searchWithoutResult lineText line name stmts) := by
  unfold searchWithoutResult
  exact .ite .nil (.ite .nil (.ite .nil (.single rfl h)))

theorem pinned_missingValue (h : fits line) :
    Pinned fits (missingValue lineText line name stmts) := by
  unfold missingValue
  refine .ite .nil ?_
  split
  · exact .single rfl h
  · exact .ite (pinned_searchWithoutResult h) .nil

theorem pinned_traversalOrder (h : fits line) :
    Pinned fits (traversalOrder line name stmts) := by
  unfold traversalOrder
  split
  · exact .nil
  · exact .ite .nil (.single rfl h)

theorem pinned_sortWithoutMoves (h : fits line) :
    Pinned fits (sortWithoutMoves line name stmts) := by
  unfold sortWithoutMoves
  refine .ite .nil ?_
  dsimp only
  split
  · exact .nil
  · exact .single rfl h

theorem mem_reads_of_mem_readBeforeAssigned {params : List String} {assigned : Nat}
    (h : (name, line, assigned) ∈ readBeforeAssigned params stmts) :
    ∃ s ∈ stmts, (name, line) ∈ s.reads := by
  obtain ⟨s, hs, hread⟩ := (mem_readBeforeAssigned.mp h).firstRead.1
  exact ⟨s, hs, Stmt.mem_reads.mpr hread⟩

theorem pinned_uninitialized {params : List String}
    (h : ∀ s ∈ stmts, ∀ read ∈ s.reads, fits read.2) :
    Pinned fits (uninitialized params stmts) := by
  intro f hf
  obtain ⟨⟨name, line, assigned⟩, hearly, rfl⟩ := List.mem_map.mp hf
  obtain ⟨s, hs, hread⟩ := mem_reads_of_mem_readBeforeAssigned hearly
  exact ⟨line, rfl, h s hs _ hread⟩

theorem pinned_unreachable (h : ∀ s ∈ Stmt.walkScope body, fits s.line) :
    Pinned fits (unreachable body) := by
  intro f hf
  obtain ⟨line, hline, rfl⟩ := List.mem_map.mp hf
  obtain ⟨v, -, s, hs, rfl⟩ := Flow.exists_dead_of_mem_deadLines hline
  exact ⟨s.line, rfl, h s (Flow.mem_walkScope_of_node hs)⟩

/-- The checks of a function pin to it, to its statements, or to what they read. -/
theorem pinned_function {params : List String} {outer : List Stmt} (hline : HasLine outer line)
    (hbody : ∀ s ∈ Stmt.walkScope body, s.Within outer) :
    Pinned (HasLine outer) (function lineText line name params body) := by
  have hlines (s : Stmt) (hs : s ∈ Stmt.walkScope body) : HasLine outer s.line :=
    (hbody s hs).hasLine
  have hreads (s : Stmt) (hs : s ∈ Stmt.walkScope body) (read : String × Nat)
      (hread : read ∈ s.reads) : HasLine outer read.2 := by
    obtain ⟨e, he, heq⟩ := Stmt.exists_of_mem_reads hread
    exact heq ▸ (hbody s hs).hasLine_expression he
  unfold function
  exact .append (.append (.append (.append (.append (pinned_recursion hline)
    (pinned_mixedReturns hlines)) (pinned_missingValue hline)) (pinned_traversalOrder hline))
    (pinned_sortWithoutMoves hline)) (pinned_uninitialized hreads)

end Check

/-! ## Programs -/

section Program

variable {m : Module} {sc : Scope} {lineText : Nat → List Char}

theorem hasLine_of_mem_scopes {line : Nat} {name : String} {params : List String}
    (hsc : sc ∈ m.scopes) (howner : sc.owner = .function line name params) :
    HasLine m.body line := by
  rcases List.mem_cons.mp hsc with rfl | hsc
  · cases howner
  · obtain ⟨s, hs, hwithin⟩ := Scope.exists_of_mem_inside m.body sc hsc
    exact Scope.line_of_ofDefinition? hs howner ▸ hwithin.hasLine

theorem pinned_scope (hsc : sc ∈ m.scopes) : Pinned (HasLine m.body) (sc.findings lineText) := by
  have hwithin (s : Stmt) (hs : s ∈ sc.statements) : s.Within m.body :=
    within_of_mem_scopes hsc hs
  unfold Scope.findings
  refine .append (.append ?_ ?_) ?_
  · split
    · next howner => exact Check.pinned_function (hasLine_of_mem_scopes hsc howner) hwithin
    · exact .nil
  · exact Check.pinned_unreachable fun s hs => (hwithin s hs).hasLine
  · exact .flatMap fun s hs => Check.pinned_statement (hwithin s hs)

/-- Every finding in a program has a line on which a statement or an expression of the program
starts. -/
theorem pinned_findings (m : Module) (lineText : Nat → List Char) :
    Pinned (HasLine m.body) (m.findings lineText) :=
  .flatMap fun _ hsc => pinned_scope hsc

theorem pinned_normalize (m : Module) (lineText : Nat → List Char) :
    Pinned (HasLine m.body) (Finding.normalize (m.findings lineText)) :=
  fun f hf => pinned_findings m lineText f (Finding.mem_of_mem_normalize hf)

end Program

/-- What is kept of the findings in a program is in normal form and pinned to lines of the program;
and that is the answer for a program text that can be read. -/
theorem analyze_normalForm (source : String) :
    (∀ m : Module,
      let found := m.findings (lineTextOf source)
      Finding.NormalForm found (Finding.normalize found)
        ∧ Pinned (HasLine m.body) (Finding.normalize found))
      ∧ match Module.parse? source with
        | none => analyze source = []
        | some m =>
          Finding.NormalForm (m.findings (lineTextOf source)) (analyze source)
            ∧ Pinned (HasLine m.body) (analyze source) := by
  have hall (m : Module) :
      Finding.NormalForm (m.findings (lineTextOf source))
          (Finding.normalize (m.findings (lineTextOf source)))
        ∧ Pinned (HasLine m.body) (Finding.normalize (m.findings (lineTextOf source))) :=
    ⟨Finding.normalForm_normalize _, pinned_normalize m _⟩
  refine ⟨hall, ?_⟩
  unfold analyze
  cases Module.parse? source with
  | none => rfl
  | some m => exact hall m

end Remedy.Python
