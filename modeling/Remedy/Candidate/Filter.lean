import Remedy.Candidate.Basic

/-!
# Which candidates are worth a run

A filter allows and denies rules. Of what it leaves, candidates that change nothing, that were tried
before, or that repeat an earlier one are dropped, and only the first few of the rest are kept.
-/

namespace Remedy

/-- A set of rules in order, each once. -/
structure RuleSet where
  toList : List String
  sorted : toList.Pairwise (· < ·)
deriving Repr, DecidableEq

namespace RuleSet

def empty : RuleSet := ⟨[], .nil⟩

instance : Inhabited RuleSet := ⟨empty⟩

/-- A rule in its place in a sorted list, if it is not there already. -/
def insertSorted (rule : String) : List String → List String
  | [] => [rule]
  | r :: rules =>
    if rule = r then r :: rules
    else if rule < r then rule :: r :: rules
    else r :: insertSorted rule rules

theorem mem_insertSorted {rule r : String} {rules : List String} :
    r ∈ insertSorted rule rules ↔ r = rule ∨ r ∈ rules := by
  induction rules with
  | nil => simp [insertSorted]
  | cons a rules ih =>
    simp only [insertSorted]
    split
    · simp_all
    · split <;> simp_all [or_left_comm]

theorem pairwise_insertSorted {rule : String} {rules : List String}
    (h : rules.Pairwise (· < ·)) : (insertSorted rule rules).Pairwise (· < ·) := by
  induction rules with
  | nil => simp [insertSorted]
  | cons a rules ih =>
    obtain ⟨ha, hr⟩ := List.pairwise_cons.1 h
    simp only [insertSorted]
    split
    · exact h
    · next hne =>
      split
      · next hlt =>
        exact List.pairwise_cons.2 ⟨by
          intro b hb
          rcases List.mem_cons.1 hb with rfl | hb
          · exact hlt
          · exact String.lt_trans hlt (ha b hb), h⟩
      · next hge =>
        refine List.pairwise_cons.2 ⟨fun b hb => ?_, ih hr⟩
        rcases mem_insertSorted.1 hb with rfl | hb
        · exact Std.lt_of_le_of_ne (String.not_lt.1 hge) (Ne.symm hne)
        · exact ha b hb

def insert (set : RuleSet) (rule : String) : RuleSet :=
  ⟨insertSorted rule set.toList, pairwise_insertSorted set.sorted⟩

def ofList (rules : List String) : RuleSet := rules.foldl insert empty

@[simp] theorem mem_toList_insert {set : RuleSet} {rule r : String} :
    r ∈ (set.insert rule).toList ↔ r = rule ∨ r ∈ set.toList := mem_insertSorted

end RuleSet

structure RuleFilter where
  allow : RuleSet := .empty
  deny : RuleSet := .empty
deriving Repr, DecidableEq, Inhabited

namespace RuleFilter

/-- Whether a rule may be used: it is not denied, and some rule is allowed only if it is. -/
def allows (filter : RuleFilter) (rule : String) : Bool :=
  !filter.deny.toList.contains rule
    && (filter.allow.toList.isEmpty || filter.allow.toList.contains rule)

def apply (filter : RuleFilter) (candidates : List Candidate) : List Candidate :=
  candidates.filter fun c => filter.allows c.id

def ofLists (allow deny : List String) : RuleFilter := ⟨.ofList allow, .ofList deny⟩

end RuleFilter

namespace Candidate

/-- The candidates whose fingerprint is neither in `known` nor that of an earlier candidate. -/
def fresh : (known : List String) → List Candidate → List Candidate
  | _, [] => []
  | known, c :: rest =>
    if c.fingerprint ∈ known then fresh known rest
    else c :: fresh (c.fingerprint :: known) rest

/-- The candidates to run: at most `limit` of those that the filter allows and that are new. -/
def usable (filter : RuleFilter) (current : String) (tried : List String) (limit : Nat)
    (generated : List Candidate) : List Candidate :=
  (fresh (Digest.fingerprint current :: tried) (filter.apply generated)).take limit

end Candidate

end Remedy
