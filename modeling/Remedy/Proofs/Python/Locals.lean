import Mathlib.Data.List.Sort
import Mathlib.Order.Bounds.Basic
import Remedy.Proofs.Diagnosis.NormalForm
import Remedy.Proofs.Order.Stable
import Remedy.Python.Check

/-!
# What is said of the names of a function

The checks of a function report each name that is read on a line before all those that bind it, once
and at the first such line (`uninitialized_exact`). They also suggest a name to return that the
function adds to; that name may belong to an outer scope, as declarations are not looked at
(`accumulator_local_iff`).
-/

namespace Remedy.Python

/-! ## Names in a scope -/

def ReadAt (stmts : List Stmt) (name : String) (line : Nat) : Prop :=
  ∃ s ∈ stmts, ∃ e ∈ s.loads, .name line name ∈ e.walk

def BoundAt (stmts : List Stmt) (name : String) (line : Nat) : Prop :=
  ∃ s ∈ stmts, (name, line) ∈ s.stores

/-- A name is declared to belong to an outer scope. -/
def DeclaredOuter (stmts : List Stmt) (name : String) : Prop :=
  ∃ s ∈ stmts, name ∈ s.declares

def AddedTo (stmts : List Stmt) (name : String) : Prop :=
  ∃ s ∈ stmts, ∃ line, s.addsTo? = some (.name line name)

def ReturnsValue (stmts : List Stmt) : Prop :=
  ∃ line value, .simple line (.ret (some value)) ∈ stmts

section Names

variable {stmts : List Stmt} {name : String} {line : Nat}

theorem Expr.name?_eq_some {e : Expr} : e.name? = some name ↔ e = .name e.line name := by
  cases e <;> simp [Expr.name?, Expr.line]

theorem Stmt.mem_reads {s : Stmt} :
    (name, line) ∈ s.reads ↔ ∃ e ∈ s.loads, .name line name ∈ e.walk := by
  rw [reads, List.mem_filterMap]
  constructor
  · rintro ⟨r, hr, hname⟩
    obtain ⟨id, hid, heq⟩ := Option.map_eq_some_iff.mp hname
    obtain ⟨rfl, rfl⟩ := Prod.mk.inj heq
    rw [Expr.name?_eq_some.mp hid] at hr
    exact List.mem_flatMap.mp hr
  · intro h
    exact ⟨.name line name, List.mem_flatMap.mpr h, rfl⟩

theorem mem_flatMap_reads : (name, line) ∈ stmts.flatMap Stmt.reads ↔ ReadAt stmts name line := by
  simp only [List.mem_flatMap, Stmt.mem_reads, ReadAt]

theorem mem_flatMap_stores :
    (name, line) ∈ stmts.flatMap Stmt.stores ↔ BoundAt stmts name line := List.mem_flatMap

theorem contains_declared {params : List String} :
    (params ++ stmts.flatMap Stmt.declares).contains name = true
      ↔ name ∈ params ∨ DeclaredOuter stmts name := by
  rw [List.contains_iff_mem, List.mem_append, List.mem_flatMap, DeclaredOuter]

end Names

namespace Check

variable {lineText : Nat → List Char} {line : Nat} {name acc : String} {params : List String}
  {body stmts : List Stmt} {f : Finding}

/-! ## Reads before the first binding -/

/-- A name of a function is read early: it is no parameter and belongs to no outer scope, and the
first line where it is read comes before the first where it is bound. -/
structure ReadEarly (params : List String) (stmts : List Stmt) (name : String) (read bound : Nat) :
    Prop where
  notParam : name ∉ params
  notOuter : ¬ DeclaredOuter stmts name
  firstRead : IsLeast {line | ReadAt stmts name line} read
  firstBinding : IsLeast {line | BoundAt stmts name line} bound
  early : read < bound

/-- The finding that a name is read before the line where it is first bound. -/
def earlyRead (name : String) (read bound : Nat) : Finding :=
  { category := .uninitializedVariable, line := some read, severity := .high
    confidence := .ofPercent 75
    message := "'" ++ name ++ "' is read before it is first assigned on line " ++ toString bound
    fix := some ("Initialize '" ++ name ++ "' before line " ++ toString read) }

theorem firstLine?_eq_some_iff {places : List (String × Nat)} {first : Nat} :
    firstLine? name places = some first ↔ IsLeast {line | (name, line) ∈ places} first := by
  have hmem (line : Nat) :
      line ∈ (places.filter (·.1 = name)).map (·.2) ↔ (name, line) ∈ places := by
    simp only [List.mem_map, List.mem_filter, decide_eq_true_eq, Prod.exists]
    constructor
    · rintro ⟨_, _, ⟨hplace, rfl⟩, rfl⟩
      exact hplace
    · intro hplace
      exact ⟨name, line, ⟨hplace, rfl⟩, rfl⟩
  rw [firstLine?, List.min?_eq_some_iff]
  simp only [hmem]
  rfl

theorem firstLine?_stores {first : Nat} :
    firstLine? name (stmts.flatMap Stmt.stores) = some first
      ↔ IsLeast {line | BoundAt stmts name line} first := by
  rw [firstLine?_eq_some_iff]
  simp only [mem_flatMap_stores]

/-- A reading as an early one, with the line of the first binding. -/
def early? (params : List String) (stmts : List Stmt) :
    String × Nat → Option (String × Nat × Nat)
  | (name, line) =>
    if (params ++ stmts.flatMap Stmt.declares).contains name then none
    else
      match firstLine? name (stmts.flatMap Stmt.stores) with
      | some assigned => if line < assigned then some (name, line, assigned) else none
      | none => none

/-- The early reads in the order of their lines, all of each name. -/
def earlyReads (params : List String) (stmts : List Stmt) : List (String × Nat × Nat) :=
  ((stmts.flatMap Stmt.reads).mergeSort fun a b => a.2 ≤ b.2).filterMap (early? params stmts)

theorem readBeforeAssigned_eq (params : List String) (stmts : List Stmt) :
    readBeforeAssigned params stmts = distinctBy (·.1) [] (earlyReads params stmts) := rfl

theorem early?_eq_some_iff {place : String × Nat} {read bound : Nat} :
    early? params stmts place = some (name, read, bound) ↔
      place = (name, read) ∧ (name ∉ params ∧ ¬ DeclaredOuter stmts name)
        ∧ IsLeast {line | BoundAt stmts name line} bound ∧ read < bound := by
  obtain ⟨id, line⟩ := place
  rw [early?, ← not_or, ← contains_declared, ← firstLine?_stores]
  constructor
  · intro h
    split at h
    · cases h
    · rename_i hdeclared
      split at h
      · rename_i assigned hassigned
        split at h
        · rename_i hlt
          cases h
          exact ⟨rfl, hdeclared, hassigned, hlt⟩
        · cases h
      · cases h
  · rintro ⟨heq, hdeclared, hbound, hlt⟩
    obtain ⟨rfl, rfl⟩ := Prod.mk.inj heq
    rw [if_neg hdeclared, hbound]
    exact if_pos hlt

theorem mem_earlyReads {read bound : Nat} :
    (name, read, bound) ∈ earlyReads params stmts ↔
      ReadAt stmts name read ∧ (name ∉ params ∧ ¬ DeclaredOuter stmts name)
        ∧ IsLeast {line | BoundAt stmts name line} bound ∧ read < bound := by
  simp only [earlyReads, List.mem_filterMap, List.mem_mergeSort, early?_eq_some_iff,
    ← mem_flatMap_reads]
  constructor
  · rintro ⟨_, hread, rfl, h⟩
    exact ⟨hread, h⟩
  · rintro ⟨hread, h⟩
    exact ⟨_, hread, rfl, h⟩

theorem pairwise_earlyReads (params : List String) (stmts : List Stmt) :
    (earlyReads params stmts).Pairwise fun a b => a.2.1 ≤ b.2.1 := by
  have hsorted := List.pairwise_mergeSort' (fun a b : String × Nat => a.2 ≤ b.2)
    (stmts.flatMap Stmt.reads)
  refine List.pairwise_filterMap.mpr (hsorted.imp fun hle a ha b hb => ?_)
  rw [early?_eq_some_iff.mp ha |>.1, early?_eq_some_iff.mp hb |>.1] at hle
  exact hle

theorem mem_readBeforeAssigned {read bound : Nat} :
    (name, read, bound) ∈ readBeforeAssigned params stmts ↔
      ReadEarly params stmts name read bound := by
  have hleast {early : String × Nat × Nat} {line assigned : Nat}
      (hfirst : (earlyReads params stmts).find? (fun r => r.1 = name) = some early)
      (h : (name, line, assigned) ∈ earlyReads params stmts) : early.2.1 ≤ line :=
    key_le_of_find? (fun r : String × Nat × Nat => r.2.1) (pairwise_earlyReads params stmts)
      hfirst h (decide_eq_true rfl)
  rw [readBeforeAssigned_eq, mem_distinctBy]
  simp only [List.not_mem_nil, not_false_eq_true, true_and]
  constructor
  · intro hfirst
    obtain ⟨hread, ⟨hparam, houter⟩, hbound, hlt⟩ :=
      mem_earlyReads.mp (List.mem_of_find?_eq_some hfirst)
    refine ⟨hparam, houter, ⟨hread, fun line hline => ?_⟩, hbound, hlt⟩
    -- a reading that is not early comes after the binding, so after this one
    rcases Nat.lt_or_ge line bound with hearly | hlate
    · exact hleast hfirst (mem_earlyReads.mpr ⟨hline, ⟨hparam, houter⟩, hbound, hearly⟩)
    · exact Nat.le_trans (Nat.le_of_lt hlt) hlate
  · intro h
    have hmem : (name, read, bound) ∈ earlyReads params stmts :=
      mem_earlyReads.mpr ⟨h.firstRead.1, ⟨h.notParam, h.notOuter⟩, h.firstBinding, h.early⟩
    cases hfirst : (earlyReads params stmts).find? fun r => r.1 = name with
    | none => exact absurd (decide_eq_true rfl) (List.find?_eq_none.mp hfirst _ hmem)
    | some early =>
        obtain ⟨id, line, assigned⟩ := early
        obtain rfl : id = name := key_of_find? hfirst
        obtain ⟨hread, -, hbound, -⟩ := mem_earlyReads.mp (List.mem_of_find?_eq_some hfirst)
        obtain rfl : assigned = bound := hbound.unique h.firstBinding
        obtain rfl : line = read := Nat.le_antisymm (hleast hfirst hmem) (h.firstRead.2 hread)
        rfl

/-! ## Which check a finding comes from -/

theorem mem_recursion (h : f ∈ recursion line name body) :
    f.category = .incorrectBaseCase ∨ f.category = .missingReturn
      ∧ f.message = "Recursive function '" ++ name ++ "' never returns" := by
  unfold recursion at h
  dsimp only at h
  split at h
  · cases h
  · split at h
    · obtain rfl := List.mem_singleton.mp h
      exact .inr ⟨rfl, rfl⟩
    · split at h
      · obtain rfl := List.mem_singleton.mp h
        exact .inl rfl
      · cases h

theorem mem_mixedReturns (h : f ∈ mixedReturns name stmts) :
    f.category = .missingReturn
      ∧ f.message = "Function '" ++ name ++ "' mixes 'return' with and without a value" := by
  unfold mixedReturns at h
  split at h
  · obtain rfl := List.mem_singleton.mp h
    exact ⟨rfl, rfl⟩
  · cases h

theorem mem_searchWithoutResult (h : f ∈ searchWithoutResult lineText line name stmts) :
    f.category = .missingReturn ∧ f.message =
      "Function '" ++ name ++ "' is named like a search but never returns a result" := by
  unfold searchWithoutResult at h
  dsimp only at h
  split at h
  · cases h
  · split at h
    · cases h
    · split at h
      · cases h
      · obtain rfl := List.mem_singleton.mp h
        exact ⟨rfl, rfl⟩

theorem category_of_mem_traversalOrder (h : f ∈ traversalOrder line name stmts) :
    f.category = .traversalOrderMismatch := by
  unfold traversalOrder at h
  split at h
  · cases h
  · dsimp only at h
    split at h
    · cases h
    · obtain rfl := List.mem_singleton.mp h
      rfl

theorem category_of_mem_sortWithoutMoves (h : f ∈ sortWithoutMoves line name stmts) :
    f.category = .incompleteImplementation := by
  unfold sortWithoutMoves at h
  dsimp only at h
  split at h
  · cases h
  · split at h
    · cases h
    · obtain rfl := List.mem_singleton.mp h
      rfl

theorem category_of_mem_uninitialized (h : f ∈ uninitialized params stmts) :
    f.category = .uninitializedVariable := by
  obtain ⟨_, -, rfl⟩ := List.mem_map.mp h
  rfl

/-! ## Accumulators -/

/-- What the finding says that a function does not return what it adds to. -/
def accumulatesInto (name acc : String) : String :=
  "Function '" ++ name ++ "' accumulates into '" ++ acc ++ "' but never returns it"

/-- The finding that a function does not return what it adds to. -/
def unreturned (line : Nat) (name acc : String) : Finding :=
  { category := .missingReturn, line := some line, severity := .medium
    confidence := .ofPercent 80
    message := accumulatesInto name acc
    fix := some ("return " ++ acc) }

theorem accumulatesInto_eq_append_iff {rest : String} :
    accumulatesInto name acc = "Function '" ++ name ++ rest
      ↔ "' accumulates into '" ++ acc ++ "' but never returns it" = rest := by
  simp only [accumulatesInto, String.append_assoc, String.append_right_inj]

theorem accumulatesInto_inj {acc' : String} :
    accumulatesInto name acc = accumulatesInto name acc' ↔ acc = acc' := by
  simp [accumulatesInto]

/-- Nothing else that is said of a missing return reads like this. -/
theorem accumulatesInto_ne :
    accumulatesInto name acc ≠ "Recursive function '" ++ name ++ "' never returns"
      ∧ accumulatesInto name acc ≠
        "Function '" ++ name ++ "' mixes 'return' with and without a value"
      ∧ accumulatesInto name acc ≠
        "Function '" ++ name ++ "' is named like a search but never returns a result" := by
  refine ⟨fun h => ?_, fun h => ?_, fun h => ?_⟩
  · have hhead := congrArg (fun s : String => s.toList.head?) h
    simp [accumulatesInto] at hhead
  all_goals
    have hthird := congrArg (fun s : String => s.toList[2]?) (accumulatesInto_eq_append_iff.mp h)
    simp at hthird

theorem returnLines_fst_eq_nil : (returnLines stmts).1 = [] ↔ ¬ ReturnsValue stmts := by
  rw [returnLines, List.filterMap_eq_nil_iff]
  constructor
  · rintro h ⟨line, value, hmem⟩
    cases h _ hmem
  · intro h s hs
    split
    · rename_i line value
      exact absurd ⟨line, value, hs⟩ h
    · rfl

theorem mem_missingValue :
    f ∈ missingValue lineText line name stmts ↔ ¬ ReturnsValue stmts ∧
      ((∃ acc, preferredAccumulator? stmts = some acc ∧ f = unreturned line name acc)
        ∨ preferredAccumulator? stmts = none ∧ (returnLines stmts).2 = []
          ∧ f ∈ searchWithoutResult lineText line name stmts) := by
  rw [← returnLines_fst_eq_nil, ← List.isEmpty_iff, ← List.isEmpty_iff]
  unfold missingValue
  dsimp only
  cases (returnLines stmts).1.isEmpty with
  | false => simp
  | true =>
      cases preferredAccumulator? stmts with
      | some acc => simp [unreturned, accumulatesInto]
      | none => cases (returnLines stmts).2.isEmpty <;> simp

theorem category_of_mem_missingValue (h : f ∈ missingValue lineText line name stmts) :
    f.category = .missingReturn := by
  obtain ⟨-, ⟨acc, -, rfl⟩ | ⟨-, -, h⟩⟩ := mem_missingValue.mp h
  · rfl
  · exact (mem_searchWithoutResult h).1

/-- The checks of a function say that it does not return what it adds to only of the accumulator
that is preferred, and only if no value is returned. -/
theorem mem_function_accumulates :
    (f ∈ function lineText line name params body ∧ f.category = .missingReturn
        ∧ f.message = accumulatesInto name acc) ↔
      ¬ ReturnsValue (Stmt.walkScope body)
        ∧ preferredAccumulator? (Stmt.walkScope body) = some acc
        ∧ f = unreturned line name acc := by
  constructor
  · rintro ⟨hf, hcategory, hmessage⟩
    simp only [function, List.mem_append] at hf
    rcases hf with ((((hf | hf) | hf) | hf) | hf) | hf
    · rcases mem_recursion hf with h | ⟨-, h⟩
      · rw [h] at hcategory
        cases hcategory
      · exact absurd (hmessage.symm.trans h) accumulatesInto_ne.1
    · exact absurd (hmessage.symm.trans (mem_mixedReturns hf).2) accumulatesInto_ne.2.1
    · obtain ⟨hvalue, ⟨acc', hacc, rfl⟩ | ⟨-, -, hf⟩⟩ := mem_missingValue.mp hf
      · obtain rfl := accumulatesInto_inj.mp hmessage
        exact ⟨hvalue, hacc, rfl⟩
      · exact absurd (hmessage.symm.trans (mem_searchWithoutResult hf).2) accumulatesInto_ne.2.2
    · rw [category_of_mem_traversalOrder hf] at hcategory
      cases hcategory
    · rw [category_of_mem_sortWithoutMoves hf] at hcategory
      cases hcategory
    · rw [category_of_mem_uninitialized hf] at hcategory
      cases hcategory
  · rintro ⟨hvalue, hacc, rfl⟩
    refine ⟨?_, rfl, rfl⟩
    simp only [function, List.mem_append]
    exact .inl (.inl (.inl (.inr (mem_missingValue.mpr ⟨hvalue, .inl ⟨acc, hacc, rfl⟩⟩))))

theorem addedTo_of_preferred (h : preferredAccumulator? stmts = some acc) : AddedTo stmts acc := by
  have hmem : acc ∈ accumulators stmts := by
    rcases Option.or_eq_some_iff.mp h with h | ⟨-, h⟩
    · exact List.mem_of_find?_eq_some h
    · exact List.mem_of_mem_head? h
  obtain ⟨s, hs, h⟩ := List.mem_filterMap.mp hmem
  obtain ⟨target, htarget, hname⟩ := Option.bind_eq_some_iff.mp h
  exact ⟨s, hs, target.line, by rw [htarget, ← Expr.name?_eq_some.mp hname]⟩

end Check

/-- Findings say of a function that it adds to a name that it never returns. -/
def SaysUnreturned (fs : List Finding) (name acc : String) : Prop :=
  ∃ f ∈ fs, f.category = .missingReturn ∧ f.message = Check.accumulatesInto name acc

section Function

variable (lineText : Nat → List Char) (line : Nat) (name : String) (params : List String)
  (body : List Stmt)

open Check

theorem filter_uninitialized :
    (function lineText line name params body).filter (·.category = .uninitializedVariable)
      = uninitialized params (Stmt.walkScope body) := by
  have hothers : ∀ f ∈ recursion line name body ++ mixedReturns name (Stmt.walkScope body)
      ++ missingValue lineText line name (Stmt.walkScope body)
      ++ traversalOrder line name (Stmt.walkScope body)
      ++ sortWithoutMoves line name (Stmt.walkScope body),
      ¬ f.category = .uninitializedVariable := by
    intro f hf heq
    simp only [List.mem_append] at hf
    rcases hf with (((hf | hf) | hf) | hf) | hf
    · rcases mem_recursion hf with h | ⟨h, -⟩ <;> cases heq.symm.trans h
    · cases heq.symm.trans (mem_mixedReturns hf).1
    · cases heq.symm.trans (category_of_mem_missingValue hf)
    · cases heq.symm.trans (category_of_mem_traversalOrder hf)
    · cases heq.symm.trans (category_of_mem_sortWithoutMoves hf)
  rw [function, List.filter_append, List.filter_eq_nil_iff.mpr (by simpa using hothers),
    List.nil_append, List.filter_eq_self.mpr]
  intro f hf
  exact decide_eq_true (category_of_mem_uninitialized hf)

/-- Of a function, exactly the names that are read early are reported, each once, pinned to the
first line where it is read and with the first where it is bound. -/
theorem uninitialized_exact :
    ∃ early : List (String × Nat × Nat), (early.map (·.1)).Nodup
      ∧ (∀ n read bound, (n, read, bound) ∈ early ↔
        ReadEarly params (Stmt.walkScope body) n read bound)
      ∧ (function lineText line name params body).filter (·.category = .uninitializedVariable)
        = early.map fun (n, read, bound) => earlyRead n read bound :=
  ⟨readBeforeAssigned params (Stmt.walkScope body), nodup_map_distinctBy _ _ _,
    fun _ _ _ => mem_readBeforeAssigned, filter_uninitialized lineText line name params body⟩

theorem saysUnreturned_iff {acc : String} :
    SaysUnreturned (function lineText line name params body) name acc ↔
      ¬ ReturnsValue (Stmt.walkScope body)
        ∧ preferredAccumulator? (Stmt.walkScope body) = some acc := by
  simp only [SaysUnreturned, mem_function_accumulates]
  constructor
  · rintro ⟨-, hvalue, hacc, -⟩
    exact ⟨hvalue, hacc⟩
  · rintro ⟨hvalue, hacc⟩
    exact ⟨_, hvalue, hacc, rfl⟩

/-- What a function is said to add to and not to return is the target of an adding assignment in its
own scope. It is local exactly if the preferred one of these targets is not declared to belong to an
outer scope; where a value is returned nothing is said. -/
theorem accumulator_local_iff :
    (∀ acc, SaysUnreturned (function lineText line name params body) name acc →
        AddedTo (Stmt.walkScope body) acc)
      ∧ ((∀ acc, SaysUnreturned (function lineText line name params body) name acc →
          AddedTo (Stmt.walkScope body) acc ∧ ¬ DeclaredOuter (Stmt.walkScope body) acc) ↔
        ReturnsValue (Stmt.walkScope body)
          ∨ ∀ acc, preferredAccumulator? (Stmt.walkScope body) = some acc →
            ¬ DeclaredOuter (Stmt.walkScope body) acc) := by
  simp only [saysUnreturned_iff]
  refine ⟨fun acc h => addedTo_of_preferred h.2, fun h => ?_, fun h acc hsays => ?_⟩
  · exact Classical.or_iff_not_imp_left.mpr fun hvalue acc hacc => (h acc ⟨hvalue, hacc⟩).2
  · exact ⟨addedTo_of_preferred hsays.2, h.resolve_left hsays.1 acc hsays.2⟩

end Function

/-- The body of a function that adds to a variable of the program. -/
def addsToGlobal : List Stmt :=
  [.simple 3 (.outer ["total"]), .simple 4 (.update (.name 4 "total") "+=" (.name 4 "x"))]

/-- Such a function is said not to return the variable, though it is no local. -/
theorem outer_accumulator_reported :
    SaysUnreturned (Check.function (fun _ => []) 2 "add" ["x"] addsToGlobal) "add" "total"
      ∧ DeclaredOuter (Stmt.walkScope addsToGlobal) "total" := by
  refine ⟨(saysUnreturned_iff ..).mpr ⟨?_, by decide⟩, ⟨_, List.mem_cons_self, by decide⟩⟩
  rintro ⟨line, value, h⟩
  simp [addsToGlobal, Stmt.walkScope, Stmt.walkOne] at h

end Remedy.Python
