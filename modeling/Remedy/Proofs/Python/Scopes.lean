import Mathlib.Logic.ExistsUnique
import Remedy.Proofs.Order.Listing
import Remedy.Proofs.Python.Locals
import Remedy.Proofs.Python.Within

/-!
# Scopes divide a program

A program and the definitions in it, at any depth, are its scopes, each once. A statement belongs to
the scope of the innermost definition around it (`Site.home?`), and the statements that are gone
over in a scope are those that belong to it, each once. A line is found unreachable exactly if the
graph of a scope, its own one, has it as a dead line (`scopes_divide`).
-/

namespace Remedy.Python

/-! ## Sites -/

/-- Where a statement stands in a program: it is a statement of a block, or it stands in a block of
one, the bodies of functions and classes included. -/
inductive Site where
  | here (number : Nat)
  | inside (number block : Nat) (site : Site)
deriving DecidableEq

namespace Site

/-- The statement at a site in a block. -/
def find? : Site → List Stmt → Option Stmt
  | here n, body => body[n]?
  | inside n k site, body => body[n]?.bind fun s => s.blocks[k]?.bind site.find?

/-- The innermost definition that a site in a block is inside of. -/
def home? : Site → List Stmt → Option Site
  | here _, _ => none
  | inside n k site, body =>
    body[n]?.bind fun s => s.blocks[k]?.bind fun block =>
      ((site.home? block).map (inside n k)).or (if s.isScope then some (here n) else none)

/-- The statement at a site, if the innermost definition around it is a given one. -/
def findIn? (home : Option Site) (body : List Stmt) (site : Site) : Option Stmt :=
  if site.home? body = home then site.find? body else none

/-- A site in a block of the statement at another one. -/
def enter (k : Nat) (site : Site) : (outer : Site) → Site
  | here n => inside n k site
  | inside n j outer => inside n j (enter k site outer)

variable {k : Nat} {site outer : Site} {body block : List Stmt} {s : Stmt}

theorem enter_injective (k : Nat) (outer : Site) :
    Function.Injective fun site => enter k site outer := by
  intro p q h
  induction outer with
  | here n => exact (inside.inj h).2.2
  | inside n j outer ih => exact ih (inside.inj h).2.2

theorem find?_enter (hs : outer.find? body = some s) (hblock : s.blocks[k]? = some block) :
    (enter k site outer).find? body = site.find? block := by
  induction outer generalizing body with
  | here n =>
      rw [find?] at hs
      simp only [enter, find?, hs, hblock, Option.bind_some]
  | inside n j outer ih =>
      obtain ⟨t, ht, hs⟩ := Option.bind_eq_some_iff.mp hs
      obtain ⟨inner, hinner, hs⟩ := Option.bind_eq_some_iff.mp hs
      simp only [enter, find?, ht, hinner, Option.bind_some]
      exact ih hs

/-- What is directly in the body of a definition has its home there. -/
theorem home?_enter (hs : outer.find? body = some s) (hscope : s.isScope = true)
    (hblock : s.blocks[k]? = some block) (hsite : site.home? block = none) :
    (enter k site outer).home? body = some outer := by
  induction outer generalizing body with
  | here n =>
      rw [find?] at hs
      simp only [enter, home?, hs, hblock, hsite, hscope, Option.bind_some, Option.map_none,
        Option.none_or, if_true]
  | inside n j outer ih =>
      obtain ⟨t, ht, hs⟩ := Option.bind_eq_some_iff.mp hs
      obtain ⟨inner, hinner, hs⟩ := Option.bind_eq_some_iff.mp hs
      simp only [enter, home?, ht, hinner, ih hs, Option.bind_some, Option.map_some,
        Option.some_or]

theorem eq_enter_of_home? (h : site.home? body = some outer) :
    ∃ k inner s block, site = enter k inner outer ∧ outer.find? body = some s
      ∧ s.isScope = true ∧ s.blocks[k]? = some block ∧ inner.home? block = none := by
  induction site generalizing body outer with
  | here n => cases h
  | inside n j site ih =>
      obtain ⟨t, ht, h⟩ := Option.bind_eq_some_iff.mp h
      obtain ⟨block, hblock, h⟩ := Option.bind_eq_some_iff.mp h
      cases hhome : site.home? block with
      | some home =>
          rw [hhome] at h
          obtain rfl := Option.some.inj h
          obtain ⟨k, inner, s, room, rfl, hs, hscope, hroom, hinner⟩ := ih hhome
          refine ⟨k, inner, s, room, rfl, ?_, hscope, hroom, hinner⟩
          simp only [find?, ht, hblock, Option.bind_some, hs]
      | none =>
          rw [hhome, Option.map_none, Option.none_or] at h
          split at h
          · rename_i hscope
            obtain rfl := Option.some.inj h
            exact ⟨j, site, t, block, rfl, ht, hscope, hblock, hhome⟩
          · cases h

end Site

/-! ## Going over blocks -/

/-- A list that goes over a block, each statement with what it gives itself before what its blocks
give, has what stands at the sites of the block, each once. -/
theorem listsOnce_of_blocks {α : Type} (own? : Stmt → Option α) (rooms : Stmt → List (List Stmt))
    (at? : List Stmt → Site → Option α) {listing : List Stmt → List α}
    (hlisting : ∀ body, listing body
      = body.flatMap fun s => (own? s).toList ++ (rooms s).flatMap listing)
    (hhere : ∀ body n, at? body (.here n) = body[n]?.bind own?)
    (hinside : ∀ body n k site, at? body (.inside n k site)
      = body[n]?.bind fun s => (rooms s)[k]?.bind fun block => at? block site)
    (hrooms : ∀ s, rooms s ⊆ s.blocks) (body : List Stmt) :
    ListsOnce (at? body) (listing body) := by
  induction body using Stmt.block_induction with
  | step body ih =>
      have hall := ListsOnce.flatMap fun s hs =>
        (ListsOnce.flatMap fun block hblock => ih s hs block (hrooms s hblock)).option (own? s)
      rw [hlisting]
      refine hall.image (fun i => i.2.elim (.here i.1) fun p => .inside i.1 p.1 p.2) ?_ ?_ ?_
      · rintro ⟨n, _ | ⟨k, site⟩⟩ a ha
        · exact (hhere body n).trans ha
        · exact (hinside body n k site).trans ha
      · rintro ⟨n, _ | ⟨k, p⟩⟩ ⟨m, _ | ⟨j, q⟩⟩ - - - - heq <;> cases heq <;> rfl
      · rintro (n | ⟨n, k, site⟩) a ha
        · exact ⟨(n, none), (hhere body n).symm.trans ha, rfl⟩
        · exact ⟨(n, some (k, site)), (hinside body n k site).symm.trans ha, rfl⟩

/-- The statements that are gone over in a block are those that are not inside a definition. -/
theorem listsOnce_walkScope (body : List Stmt) :
    ListsOnce (Site.findIn? none body) (Stmt.walkScope body) := by
  refine listsOnce_of_blocks some (fun s => if s.isScope then [] else s.blocks) (Site.findIn? none)
    (fun body => ?_) (fun body n => ?_) (fun body n k site => ?_) (fun s => ?_) body
  · rw [Stmt.walkScope_eq_flatMap]
    refine congrArg (body.flatMap ·) (funext fun s => ?_)
    rw [Stmt.walkOne_eq]
    split <;> rfl
  · rw [Site.findIn?, Site.home?, if_pos rfl, Site.find?, Option.bind_fun_some]
  · rw [Site.findIn?, Site.home?, Site.find?]
    cases body[n]? with
    | none => rfl
    | some s =>
        cases hblock : s.blocks[k]? with
        | none => cases hscope : s.isScope <;> simp [hblock, hscope]
        | some block => cases hscope : s.isScope <;> simp [hblock, hscope, Site.findIn?]
  · split
    · exact List.nil_subset _
    · exact List.Subset.refl _

/-- The scopes inside a block are those of the definitions in it. -/
theorem listsOnce_inside (body : List Stmt) :
    ListsOnce (fun site : Site => (site.find? body).bind Scope.ofDefinition?)
      (Scope.inside body) := by
  refine listsOnce_of_blocks Scope.ofDefinition? Stmt.blocks
    (fun body site => (site.find? body).bind Scope.ofDefinition?) (fun body => ?_) (fun _ _ => rfl)
    (fun body n k site => ?_) (fun s => List.Subset.refl _) body
  · rw [Scope.inside_eq_flatMap]
    exact congrArg (body.flatMap ·) (funext Scope.insideOne_eq)
  · simp only [Site.find?, Option.bind_assoc]

/-! ## The scopes of a program -/

/-- The scopes inside a block are those of the definitions that are gone over in it, each before the
scopes inside it. -/
theorem Scope.inside_eq_walkScope (body : List Stmt) :
    inside body = (Stmt.walkScope body).flatMap fun s =>
      (ofDefinition? s).toList.flatMap fun sc => sc :: inside sc.body := by
  induction body using Stmt.block_induction with
  | step body ih =>
      rw [inside_eq_flatMap, Stmt.walkScope_eq_flatMap, List.flatMap_assoc]
      refine List.flatMap_congr fun s hs => ?_
      rw [insideOne_eq, Stmt.walkOne_eq, List.flatMap_cons]
      cases hdef : ofDefinition? s with
      | some sc =>
          -- going over the block stops at a definition, and its body is gone over as a scope
          obtain ⟨hscope, hblocks⟩ := isScope_of_ofDefinition? hdef
          simp [hscope, hblocks]
      | none =>
          have hscope : s.isScope = false := by
            rw [Bool.eq_false_iff]
            intro hscope
            obtain ⟨sc, hsc⟩ := exists_of_isScope hscope
            cases hdef.symm.trans hsc
          simp only [hscope, Option.toList_none, List.flatMap_nil, List.nil_append,
            Bool.false_eq_true, if_false, List.flatMap_assoc]
          exact List.flatMap_congr fun block hblock => ih s hs block hblock

/-- The scope of the definition at a site, or else that of the program. -/
def Module.scopeAt? (m : Module) : (home : Option Site) → Option Scope
  | none => some ⟨.program, m.body⟩
  | some site => (site.find? m.body).bind Scope.ofDefinition?

section Program

variable {m : Module} {home : Option Site} {site : Site} {sc : Scope} {s : Stmt}

theorem listsOnce_scopes (m : Module) : ListsOnce m.scopeAt? m.scopes := by
  have h := (listsOnce_inside m.body).option (some ⟨.program, m.body⟩)
  refine h.image id (fun i a ha => ?_) (fun _ _ _ _ _ _ heq => heq) fun i a ha => ⟨i, ?_, rfl⟩
  · cases i <;> exact ha
  · cases i <;> exact ha

/-- Each statement belongs to a scope. -/
theorem exists_scopeAt?_home (m : Module) (site : Site) :
    ∃ sc, m.scopeAt? (site.home? m.body) = some sc := by
  cases hhome : site.home? m.body with
  | none => exact ⟨_, rfl⟩
  | some outer =>
      obtain ⟨-, -, s, -, -, hs, hscope, -⟩ := Site.eq_enter_of_home? hhome
      obtain ⟨sc, hsc⟩ := Scope.exists_of_isScope hscope
      exact ⟨sc, by rw [Module.scopeAt?, hs, Option.bind_some, hsc]⟩

/-- The statements of a scope are those that belong to it. -/
theorem listsOnce_statements (h : m.scopeAt? home = some sc) :
    ListsOnce (Site.findIn? home m.body) sc.statements := by
  cases home with
  | none =>
      obtain rfl := Option.some.inj h
      exact listsOnce_walkScope m.body
  | some outer =>
      obtain ⟨s, hs, hsc⟩ := Option.bind_eq_some_iff.mp h
      obtain ⟨hscope, hblocks⟩ := Scope.isScope_of_ofDefinition? hsc
      have hbody : s.blocks[0]? = some sc.body := by rw [hblocks]; rfl
      refine (listsOnce_walkScope sc.body).image (Site.enter 0 · outer) (fun site t ht => ?_)
        (fun _ _ _ _ _ _ heq => Site.enter_injective 0 outer heq) fun site t ht => ?_
      · rw [Site.findIn?] at ht ⊢
        split at ht
        · rename_i hsite
          rw [if_pos (Site.home?_enter hs hscope hbody hsite), Site.find?_enter hs hbody, ht]
        · cases ht
      · rw [Site.findIn?] at ht
        split at ht
        · rename_i hhome
          obtain ⟨k, inner, u, block, rfl, hu, -, hblock, hinner⟩ := Site.eq_enter_of_home? hhome
          obtain rfl : s = u := Option.some.inj (hs.symm.trans hu)
          rw [hblocks] at hblock
          cases k with
          | zero =>
              obtain rfl := Option.some.inj hblock
              refine ⟨inner, ?_, rfl⟩
              rw [Site.findIn?, if_pos hinner, ← Site.find?_enter hs hbody, ht]
          | succ k => cases hblock
        · cases ht

/-- Every statement of a program is gone over in one of its scopes, once. -/
theorem listsOnce_all (m : Module) :
    ListsOnce (Site.find? · m.body) (m.scopes.flatMap Scope.statements) :=
  (listsOnce_scopes m).parts (fun _ _ => listsOnce_statements)
    fun site _ _ => exists_scopeAt?_home m site

/-- The scopes of a program divide it. -/
structure Module.Divided (m : Module) : Prop where
  /-- The program and each definition in it are one scope. -/
  scopes : ListsOnce m.scopeAt? m.scopes
  /-- The scopes inside a scope are those of the definitions that are gone over in it, each before
  the scopes inside it. -/
  nested : ∀ sc ∈ m.scopes, Scope.inside sc.body = sc.statements.flatMap fun s =>
    (Scope.ofDefinition? s).toList.flatMap fun inner => inner :: Scope.inside inner.body
  /-- Each statement belongs to one scope. -/
  belongs : ∀ site s, site.find? m.body = some s →
    ∃! home, (m.scopeAt? home).isSome ∧ Site.findIn? home m.body site = some s
  /-- The statements that belong to a scope are gone over in it once, and no others. -/
  statements : ∀ home sc, m.scopeAt? home = some sc →
    ListsOnce (Site.findIn? home m.body) sc.statements
  /-- All statements are gone over once. -/
  all : ListsOnce (Site.find? · m.body) (m.scopes.flatMap Scope.statements)

theorem Module.divided (m : Module) : m.Divided where
  scopes := listsOnce_scopes m
  nested sc _ := Scope.inside_eq_walkScope sc.body
  belongs site s hs := by
    refine ⟨site.home? m.body, ⟨?_, (if_pos rfl).trans hs⟩, fun home ⟨_, h⟩ => ?_⟩
    · exact Option.isSome_iff_exists.mpr (exists_scopeAt?_home m site)
    · rw [Site.findIn?] at h
      split at h
      · rename_i hhome
        exact hhome.symm
      · cases h
  statements _ _ := listsOnce_statements
  all := listsOnce_all m

end Program

/-! ## Unreachable lines -/

namespace Check

variable {f : Finding} {line : Nat} {name : String} {params : List String} {s : Stmt}
  {body : List Stmt} {lineText : Nat → List Char} {test iter : Expr} {e : Expr}

theorem category_of_mem_endlessLoop (h : f ∈ endlessLoop line test body) :
    f.category = .infiniteLoop := by
  grind [endlessLoop]

theorem category_of_mem_emptyLoop (h : f ∈ emptyLoop line body) : f.category = .deadCode := by
  unfold emptyLoop at h
  split at h
  · obtain rfl := List.mem_singleton.mp h
    rfl
  · cases h

theorem category_of_mem_rangeFromOne (h : f ∈ rangeFromOne line iter body) :
    f.category = .offByOne := by
  unfold rangeFromOne at h
  split at h
  · split at h
    · obtain rfl := List.mem_singleton.mp h
      rfl
    · cases h
  · cases h

theorem category_of_mem_membershipLookup (h : f ∈ membershipLookup test body) :
    f.category = .containerKeyMisuse := by
  unfold membershipLookup at h
  split at h
  · grind
  · cases h

theorem category_of_mem_comparison (h : f ∈ comparison e) :
    f.category = .alwaysTrueFalse ∨ f.category = .wrongComparison := by
  unfold comparison at h
  split at h
  · grind
  · cases h

theorem category_of_mem_arithmetic (h : f ∈ arithmetic lineText e) :
    f.category = .missingPercentageConversion ∨ f.category = .wrongOperator := by
  unfold arithmetic at h
  split at h
  · grind
  · grind
  · cases h

/-- The checks of a statement leave unreachable lines to the graph. -/
theorem category_ne_of_mem_statement (h : f ∈ statement lineText s) :
    f.category ≠ .unreachableCode := by
  intro heq
  rcases List.mem_append.mp h with h | h
  · rcases List.mem_append.mp h with h | h
    · cases s with
      | whileLoop line test inner orelse =>
          rcases List.mem_append.mp h with h | h
          · cases heq.symm.trans (category_of_mem_endlessLoop h)
          · cases heq.symm.trans (category_of_mem_emptyLoop h)
      | forLoop line target iter inner orelse =>
          rcases List.mem_append.mp h with h | h
          · cases heq.symm.trans (category_of_mem_rangeFromOne h)
          · cases heq.symm.trans (category_of_mem_emptyLoop h)
      | branch line test inner orelse =>
          cases heq.symm.trans (category_of_mem_membershipLookup h)
      | _ => cases h
    · obtain ⟨e, -, h⟩ := List.mem_flatMap.mp h
      rcases category_of_mem_comparison h with h | h <;> cases heq.symm.trans h
  · obtain ⟨e, -, h⟩ := List.mem_flatMap.mp h
    rcases category_of_mem_arithmetic h with h | h <;> cases heq.symm.trans h

/-- The checks of a function leave unreachable lines to the graph. -/
theorem category_ne_of_mem_function (h : f ∈ function lineText line name params body) :
    f.category ≠ .unreachableCode := by
  intro heq
  simp only [function, List.mem_append] at h
  rcases h with ((((h | h) | h) | h) | h) | h
  · rcases mem_recursion h with h | ⟨h, -⟩ <;> cases heq.symm.trans h
  · cases heq.symm.trans (mem_mixedReturns h).1
  · cases heq.symm.trans (category_of_mem_missingValue h)
  · cases heq.symm.trans (category_of_mem_traversalOrder h)
  · cases heq.symm.trans (category_of_mem_sortWithoutMoves h)
  · cases heq.symm.trans (category_of_mem_uninitialized h)

theorem filter_eq_nil {fs : List Finding} (h : ∀ f ∈ fs, f.category ≠ .unreachableCode) :
    fs.filter (·.category = .unreachableCode) = [] := by
  simpa using h

theorem filter_unreachable :
    (unreachable body).filter (·.category = .unreachableCode) = unreachable body := by
  refine List.filter_eq_self.mpr fun f hf => ?_
  obtain ⟨line, -, rfl⟩ := List.mem_map.mp hf
  exact decide_eq_true rfl

end Check

/-- In a scope, unreachable lines are the dead lines of its graph. -/
theorem Scope.filter_findings (sc : Scope) (lineText : Nat → List Char) :
    (sc.findings lineText).filter (·.category = .unreachableCode) = Check.unreachable sc.body := by
  have hstatements :
      (sc.statements.flatMap (Check.statement lineText)).filter (·.category = .unreachableCode)
        = [] := by
    refine Check.filter_eq_nil fun f hf => ?_
    obtain ⟨s, -, hf⟩ := List.mem_flatMap.mp hf
    exact Check.category_ne_of_mem_statement hf
  rw [Scope.findings, List.filter_append, List.filter_append, Check.filter_unreachable,
    hstatements, List.append_nil]
  split
  · rw [Check.filter_eq_nil fun f hf => Check.category_ne_of_mem_function hf, List.nil_append]
  · rfl

/-- The lines that are found unreachable in a program are the dead lines of the graphs of its scopes,
scope by scope. -/
theorem Module.lines_unreachable (m : Module) (lineText : Nat → List Char) :
    ((m.findings lineText).filter (·.category = .unreachableCode)).map (·.line)
      = m.scopes.flatMap fun sc => (Flow.Graph.ofBody sc.body).deadLines.map some := by
  rw [Module.findings, List.filter_flatMap, List.map_flatMap]
  refine List.flatMap_congr fun sc _ => ?_
  rw [Scope.filter_findings, Check.unreachable, List.map_map]
  rfl

/-- The scopes of a program divide it, and each is checked once: as a function if it is one, for
dead lines by a graph of its own, and statement by statement. What is found unreachable in the
program are the dead lines of these graphs. -/
theorem scopes_divide (m : Module) (lineText : Nat → List Char) :
    m.Divided
      ∧ (m.findings lineText = m.scopes.flatMap fun sc =>
        (match sc.owner with
          | .function line name params => Check.function lineText line name params sc.body
          | _ => [])
          ++ (Flow.Graph.ofBody sc.body).deadLines.map Check.deadLine
          ++ sc.statements.flatMap (Check.statement lineText))
      ∧ ((m.findings lineText).filter (·.category = .unreachableCode)).map (·.line)
        = m.scopes.flatMap fun sc => (Flow.Graph.ofBody sc.body).deadLines.map some :=
  ⟨m.divided, rfl, m.lines_unreachable lineText⟩

end Remedy.Python
