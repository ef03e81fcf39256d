/-!
# Findings

A finding is a defect of a program that does not crash. Findings are put into normal form by keeping
the first one of each category and line and sorting by line; the one to repair first is the one of
the best rank, the earliest of those.
-/

namespace Remedy

/-- How bad a defect is. -/
inductive Severity where
  | low | medium | high | critical
deriving Repr, DecidableEq, Inhabited

def Severity.weight : Severity → Float32
  | .low => 0.5
  | .medium => 1.0
  | .high => 1.5
  | .critical => 2.0

inductive FindingCategory where
  | offByOne
  | infiniteLoop
  | unreachableCode
  | missingReturn
  | wrongComparison
  | incorrectBaseCase
  | uninitializedVariable
  | alwaysTrueFalse
  | wrongOperator
  | containerKeyMisuse
  | missingPercentageConversion
  | outputMismatch
  | suspiciousNoneOutput
  | deadCode
  | boundaryError
  | traversalOrderMismatch
  | incompleteImplementation
deriving Repr, DecidableEq, Inhabited

namespace FindingCategory

def all : List FindingCategory :=
  [offByOne, infiniteLoop, unreachableCode, missingReturn, wrongComparison, incorrectBaseCase,
    uninitializedVariable, alwaysTrueFalse, wrongOperator, containerKeyMisuse,
    missingPercentageConversion, outputMismatch, suspiciousNoneOutput, deadCode, boundaryError,
    traversalOrderMismatch, incompleteImplementation]

/-- The place of a category in the order of repair, the lowest first; categories without a place
come after all others. -/
def rank? : FindingCategory → Option Nat
  | wrongComparison => some 0
  | wrongOperator | containerKeyMisuse => some 1
  | missingPercentageConversion => some 2
  | outputMismatch => some 3
  | offByOne => some 4
  | missingReturn => some 5
  | suspiciousNoneOutput => some 6
  | infiniteLoop | unreachableCode | incorrectBaseCase | uninitializedVariable | alwaysTrueFalse
  | deadCode | boundaryError | traversalOrderMismatch | incompleteImplementation => none

def name : FindingCategory → String
  | offByOne => "off_by_one"
  | infiniteLoop => "infinite_loop"
  | unreachableCode => "unreachable_code"
  | missingReturn => "missing_return"
  | wrongComparison => "wrong_comparison"
  | incorrectBaseCase => "incorrect_base_case"
  | uninitializedVariable => "uninitialized_variable"
  | alwaysTrueFalse => "always_true_false"
  | wrongOperator => "wrong_operator"
  | containerKeyMisuse => "container_key_misuse"
  | missingPercentageConversion => "missing_percentage_conversion"
  | outputMismatch => "output_mismatch"
  | suspiciousNoneOutput => "suspicious_none_output"
  | deadCode => "dead_code"
  | boundaryError => "boundary_error"
  | traversalOrderMismatch => "traversal_order_mismatch"
  | incompleteImplementation => "incomplete_implementation"

def ofName? (s : String) : Option FindingCategory := all.find? fun c => c.name = s

/-- The rank as a number; a category without a place has the greatest. -/
def rank (c : FindingCategory) : Nat := c.rank?.getD 255

end FindingCategory

/-- A confidence between zero and one, as the bits of a single-precision number. -/
structure Confidence where
  bits : UInt32
deriving Repr, DecidableEq, Inhabited

namespace Confidence

def value (c : Confidence) : Float32 := Float32.ofBits c.bits

/-- A number cut to the range from zero to one. -/
def ofFloat32 (x : Float32) : Confidence :=
  ⟨(if x < 0 then (0 : Float32) else if 1 < x then 1 else x).toBits⟩

def ofPercent (n : Nat) : Confidence := ofFloat32 (Float32.ofNat n / 100)

end Confidence

/-- A defect of a program that does not crash. -/
structure Finding where
  category : FindingCategory
  /-- The line, counted from one, if the defect can be pinned to one. -/
  line : Option Nat
  severity : Severity
  confidence : Confidence
  message : String
  fix : Option String
deriving Repr, DecidableEq, Inhabited

def firstLeast? {α : Type} (key : α → Nat) : List α → Option α
  | [] => none
  | a :: as =>
    match firstLeast? key as with
    | none => some a
    | some b => if key a ≤ key b then some a else some b

/-- The elements whose key is neither in `seen` nor the key of an earlier element. -/
def distinctBy {α κ : Type} [DecidableEq κ] (key : α → κ) : (seen : List κ) → List α → List α
  | _, [] => []
  | seen, a :: as =>
    if key a ∈ seen then distinctBy key seen as else a :: distinctBy key (key a :: seen) as

namespace Finding

/-- The pair that tells findings apart. -/
def place (f : Finding) : FindingCategory × Option Nat := (f.category, f.line)

/-- The line as a number; a finding without a line comes last. -/
def lineKey (f : Finding) : Nat := f.line.getD 0xffffffff

/-- The first finding of each category and line, sorted by line. -/
def normalize (fs : List Finding) : List Finding :=
  (distinctBy place [] fs).mergeSort fun a b => a.lineKey ≤ b.lineKey

/-- The finding to repair first: the earliest of the best rank. -/
def topPriority? (fs : List Finding) : Option Finding := firstLeast? (·.category.rank) fs

def topIndex? (fs : List Finding) : Option Nat :=
  (firstLeast? (fun p => p.1.category.rank) fs.zipIdx).map (·.2)

/-- The mean confidence, weighted by severity; zero without findings. -/
def weightedConfidence (fs : List Finding) : Float32 :=
  let total := fs.foldl (fun sum f => sum + f.severity.weight) 0
  if total == 0 then 0
  else fs.foldl (fun sum f => sum + f.confidence.value * f.severity.weight) 0 / total

end Finding

/-! ## Small laws -/

theorem firstLeast?_eq_none_iff {α : Type} {key : α → Nat} {as : List α} :
    firstLeast? key as = none ↔ as = [] := by
  cases as with
  | nil => simp [firstLeast?]
  | cons a as =>
    simp only [firstLeast?, reduceCtorEq, iff_false]
    split
    · simp
    · split <;> simp

theorem mem_of_firstLeast? {α : Type} {key : α → Nat} {as : List α} {a : α}
    (h : firstLeast? key as = some a) : a ∈ as := by
  induction as generalizing a with
  | nil => simp [firstLeast?] at h
  | cons b bs ih =>
    simp only [firstLeast?] at h
    split at h
    · simp_all
    · next c hc => split at h <;> simp_all

theorem key_le_of_firstLeast? {α : Type} {key : α → Nat} {as : List α} {a b : α}
    (h : firstLeast? key as = some a) (hb : b ∈ as) : key a ≤ key b := by
  induction as generalizing a with
  | nil => simp at hb
  | cons c cs ih =>
    simp only [firstLeast?] at h
    split at h
    · next hc =>
      rw [firstLeast?_eq_none_iff] at hc
      simp_all
    · next d hd =>
      rcases List.mem_cons.1 hb with rfl | hb
      · split at h <;> simp_all
        omega
      · have := ih hd hb
        split at h <;> simp_all
        omega

theorem firstLeast?_map {α β : Type} (f : α → β) (key : β → Nat) (as : List α) :
    firstLeast? key (as.map f) = (firstLeast? (fun a => key (f a)) as).map f := by
  induction as with
  | nil => rfl
  | cons a as ih =>
      rw [List.map_cons, firstLeast?, firstLeast?, ih]
      cases firstLeast? (fun a => key (f a)) as with
      | none => rfl
      | some b =>
          dsimp only [Option.map_some]
          split <;> rfl

theorem distinctBy_sublist {α κ : Type} [DecidableEq κ] (key : α → κ) (seen : List κ)
    (as : List α) : (distinctBy key seen as).Sublist as := by
  induction as generalizing seen with
  | nil => simp [distinctBy]
  | cons a as ih =>
    simp only [distinctBy]
    split
    · exact (ih seen).cons a
    · exact (ih _).cons_cons a

end Remedy
