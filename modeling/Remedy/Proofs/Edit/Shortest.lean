import Mathlib.Data.List.Infix
import Remedy.Proofs.Edit.Count

/-!
# The script is as short as possible

The table holds the lengths of the longest common subsequences of all ends of the two lists
(`table_eq`), so that the walk along it keeps a longest one. Trimming what both lists start and end
with loses nothing, as the longest common subsequences of the whole are longer by just that much
(`lcsLength_append_left`, `lcsLength_append_right`). What any other steps keep is a common
subsequence too, so none of them change fewer lines (`steps_shortest`).
-/

namespace Remedy.Edit

open List (Sublist)

variable {α : Type}

/-! ## Longest common subsequences -/

/-- Both lists have `l` as a subsequence. -/
def Common (l as bs : List α) : Prop := Sublist l as ∧ Sublist l bs

/-- A common subsequence that no other one is longer than. -/
structure LongestCommon (l as bs : List α) : Prop where
  common : Common l as bs
  longest : ∀ other, Common other as bs → other.length ≤ l.length

theorem Common.tail {l as bs : List α} {a b : α} (h : Common l (a :: as) (b :: bs)) :
    Common l.tail as bs :=
  ⟨h.1.tail, h.2.tail⟩

/-- A common subsequence of lists with different heads leaves out one of the heads. -/
theorem Common.of_ne {l as bs : List α} {a b : α} (h : Common l (a :: as) (b :: bs))
    (hab : a ≠ b) : Common l as (b :: bs) ∨ Common l (a :: as) bs := by
  rcases List.sublist_cons_iff.mp h.1 with ha | ⟨r, rfl, -⟩
  · exact .inl ⟨ha, h.2⟩
  · rcases List.sublist_cons_iff.mp h.2 with hb | ⟨r', heq, -⟩
    · exact .inr ⟨h.1, hb⟩
    · exact absurd (List.cons.inj heq).1 hab

theorem Common.reverse {l as bs : List α} (h : Common l as bs) :
    Common l.reverse as.reverse bs.reverse :=
  ⟨h.1.reverse, h.2.reverse⟩

/-! ## What a script keeps -/

def kept? : Op α → Option α
  | .keep a => some a
  | _ => none

def kept (script : List (Op α)) : List α := script.filterMap kept?

/-- What is left of a selection when some of it is left out is a subsequence of it. -/
theorem sublist_filterMap {β γ : Type} {f g : β → Option γ} {xs : List β}
    (h : ∀ x ∈ xs, f x = none ∨ f x = g x) : Sublist (xs.filterMap f) (xs.filterMap g) := by
  induction xs with
  | nil => exact .refl _
  | cons x xs ih =>
      rw [List.forall_mem_cons] at h
      rcases h.1 with hx | hx
      · rw [List.filterMap_cons_none hx]
        refine (ih h.2).trans ?_
        rw [List.filterMap_cons]
        split
        · exact .refl _
        · exact List.sublist_cons_self ..
      · rw [List.filterMap_cons, List.filterMap_cons, hx]
        split
        · exact ih h.2
        · exact (ih h.2).cons_cons _

theorem common_kept (script : List (Op α)) : Common (kept script) (before script) (after script) :=
  ⟨sublist_filterMap fun e _ => by cases e <;> simp [kept?, Op.old?],
    sublist_filterMap fun e _ => by cases e <;> simp [kept?, Op.new?]⟩

theorem kept_append (a b : List (Op α)) : kept (a ++ b) = kept a ++ kept b :=
  List.filterMap_append ..

theorem kept_map_keep (as : List α) : kept (as.map .keep) = as := by
  induction as with
  | nil => rfl
  | cons a as ih => exact congrArg (List.cons a) ih

theorem kept_map_insert (as : List α) : kept (as.map .insert) = [] := by
  induction as with
  | nil => rfl
  | cons a as ih => exact ih

theorem kept_deletionsFirst (pending : List α) (script : List (Op α)) :
    kept (deletionsFirst pending script) = kept script := by
  induction script generalizing pending with
  | nil => exact kept_map_insert pending
  | cons e script ih =>
      cases e with
      | keep a =>
          rw [deletionsFirst, kept_append, kept_map_insert]
          exact congrArg (List.cons a) (ih [])
      | delete a => exact ih pending
      | insert a => exact ih (pending ++ [a])

/-! ## The table -/

section Table

variable [DecidableEq α]

/-- The length of the longest common subsequences of two lists. -/
def lcsLength : List α → List α → Nat
  | a :: as, b :: bs =>
    if a = b then lcsLength as bs + 1 else max (lcsLength as (b :: bs)) (lcsLength (a :: as) bs)
  | [], _ | _ :: _, [] => 0
termination_by as bs => as.length + bs.length

theorem lcsLength_nil_left (bs : List α) : lcsLength [] bs = 0 := by
  rw [lcsLength]

theorem lcsLength_nil_right (as : List α) : lcsLength as [] = 0 := by
  cases as <;> rw [lcsLength]

/-- No common subsequence is longer. -/
theorem Common.length_le {l as bs : List α} (h : Common l as bs) : l.length ≤ lcsLength as bs := by
  induction as, bs using lcsLength.induct generalizing l with
  | case1 a as bs ih =>
      have htail := ih h.tail
      rw [lcsLength, if_pos rfl]
      rw [List.length_tail] at htail
      omega
  | case2 a as b bs hab ih ih' =>
      rw [lcsLength, if_neg hab]
      rcases h.of_ne hab with h | h
      · exact Nat.le_trans (ih h) (Nat.le_max_left ..)
      · exact Nat.le_trans (ih' h) (Nat.le_max_right ..)
  | case3 bs =>
      rw [List.sublist_nil.mp h.1]
      exact Nat.zero_le _
  | case4 a as =>
      rw [List.sublist_nil.mp h.2]
      exact Nat.zero_le _

/-- The lengths for every two ends of the lists, the whole ones first. -/
def lengths (as bs : List α) : List (List Nat) :=
  as.tails.map fun as => bs.tails.map (lcsLength as)

theorem extendRow_eq (a : α) (as bs : List α) :
    extendRow a bs (bs.tails.map (lcsLength as)) = bs.tails.map (lcsLength (a :: as)) := by
  induction bs with
  | nil => simp [extendRow, lcsLength_nil_right]
  | cons b bs ih =>
      -- the row of the end has a first entry to extend, as an end has itself for an end
      have htails : bs.tails.map (lcsLength as) = lcsLength as bs :: (bs.tails.map (lcsLength as)).tail
        := by cases bs <;> rfl
      have hhead : (bs.tails.map (lcsLength (a :: as))).headD 0 = lcsLength (a :: as) bs := by
        cases bs <;> rfl
      rw [List.tails, List.map_cons, List.map_cons, htails, extendRow, ← htails, ih, hhead,
        lcsLength.eq_def (a :: as) (b :: bs)]

theorem table_eq (as bs : List α) : table as bs = lengths as bs := by
  induction as with
  | nil =>
      have hzero : bs.tails.map (lcsLength []) = List.replicate (bs.length + 1) 0 := by
        rw [List.eq_replicate_iff]
        simp [lcsLength_nil_left, List.length_tails]
      rw [table, lengths, List.tails, List.map_singleton, hzero]
  | cons a as ih =>
      have hhead : (lengths as bs).headD [] = bs.tails.map (lcsLength as) := by
        cases as <;> rfl
      rw [table, ih, hhead, extendRow_eq]
      rfl

/-- The walk along the table keeps a longest common subsequence. -/
theorem length_kept_align (as bs : List α) :
    (kept (align as bs (lengths as bs))).length = lcsLength as bs := by
  -- a step shortens the old list or leaves it and shortens the new one
  induction as generalizing bs with
  | nil => rw [align, kept_map_insert, lcsLength_nil_left, List.length_nil]
  | cons a as ih =>
      induction bs with
      | nil =>
          rw [align, lcsLength_nil_right, List.length_eq_zero_iff]
          · simp [kept, kept?]
          · exact List.cons_ne_nil a as
      | cons b bs ih' =>
          have hrows : (lengths (a :: as) (b :: bs)).tail.map List.tail = lengths as bs := by
            simp [lengths]
          have hbelow : (lengths (a :: as) (b :: bs)).tail = lengths as (b :: bs) := by
            simp [lengths]
          have hright : (lengths (a :: as) (b :: bs)).map List.tail = lengths (a :: as) bs := by
            simp [lengths]
          have hbelow_first : ((lengths as (b :: bs)).headD []).headD 0
              = lcsLength as (b :: bs) := by
            cases as <;> simp [lengths]
          have hright_first : ((lengths (a :: as) (b :: bs)).headD []).tail.headD 0
              = lcsLength (a :: as) bs := by
            cases bs <;> simp [lengths]
          rw [align, hrows, hbelow, hright, hbelow_first, hright_first, lcsLength]
          split
          · exact congrArg (· + 1) (ih bs)
          · split
            · rename_i hle
              rw [Nat.max_eq_left hle]
              exact ih (b :: bs)
            · rename_i hle
              rw [Nat.max_eq_right (Nat.le_of_not_le hle)]
              exact ih'

/-- Two lists have a common subsequence of that length. -/
theorem exists_common (as bs : List α) : ∃ l, Common l as bs ∧ l.length = lcsLength as bs := by
  have h := common_kept (align as bs (lengths as bs))
  rw [before_align, after_align] at h
  exact ⟨_, h, length_kept_align as bs⟩

/-! ## Common parts -/

theorem lcsLength_reverse_le (as bs : List α) :
    lcsLength as bs ≤ lcsLength as.reverse bs.reverse := by
  obtain ⟨l, hl, hlength⟩ := exists_common as bs
  rw [← hlength, ← List.length_reverse]
  exact hl.reverse.length_le

theorem lcsLength_reverse (as bs : List α) :
    lcsLength as.reverse bs.reverse = lcsLength as bs := by
  have h := lcsLength_reverse_le as.reverse bs.reverse
  rw [List.reverse_reverse, List.reverse_reverse] at h
  exact Nat.le_antisymm h (lcsLength_reverse_le as bs)

theorem lcsLength_append_left (front as bs : List α) :
    lcsLength (front ++ as) (front ++ bs) = front.length + lcsLength as bs := by
  induction front with
  | nil => exact (Nat.zero_add _).symm
  | cons a front ih =>
      rw [List.cons_append, List.cons_append, lcsLength, if_pos rfl, ih, List.length_cons]
      omega

theorem lcsLength_append_right (as bs rear : List α) :
    lcsLength (as ++ rear) (bs ++ rear) = lcsLength as bs + rear.length := by
  rw [← lcsLength_reverse, List.reverse_append, List.reverse_append, lcsLength_append_left,
    lcsLength_reverse, List.length_reverse, Nat.add_comm]

/-- A script keeps a longest common subsequence of its lists. -/
theorem length_kept_script (old new : List α) :
    (kept (script old new)).length = lcsLength old new := by
  let start := commonStart old new
  let stop := commonStart (old.drop start).reverse (new.drop start).reverse
  have hrear : (old.drop start).drop ((old.drop start).length - stop)
      = (new.drop start).drop ((new.drop start).length - stop) := drop_commonStop ..
  have hmiddle (rest : List α) :
      rest.take (rest.length - stop) ++ rest.drop (rest.length - stop) = rest :=
    List.take_append_drop ..
  calc (kept (script old new)).length
      = (old.take start).length + lcsLength ((old.drop start).take ((old.drop start).length - stop))
          ((new.drop start).take ((new.drop start).length - stop))
        + ((old.drop start).drop ((old.drop start).length - stop)).length := by
        simp only [script, kept_append, kept_map_keep, kept_deletionsFirst, table_eq,
          List.length_append, length_kept_align, start, stop]
    _ = (old.take start).length + lcsLength (old.drop start) (new.drop start) := by
        rw [Nat.add_assoc, ← lcsLength_append_right, hmiddle, hrear, hmiddle]
    _ = lcsLength old new := by
        rw [← lcsLength_append_left, List.take_append_drop, take_commonStart,
          List.take_append_drop]

end Table

/-! ## Steps -/

namespace Step

/-- The position in the old list that a step takes up. -/
def old? : Step → Option Nat
  | keep i _ | delete i => some i
  | insert _ => none

/-- The position in the new list that a step fills. -/
def new? : Step → Option Nat
  | keep _ j | insert j => some j
  | delete _ => none

def isKeep : Step → Bool
  | keep _ _ => true
  | _ => false

end Step

/-- Steps that make one list into another: they take up the old list and fill the new one, in order
and without gaps, and keep only what is the same in both. -/
structure Leads (old new : List α) (steps : List Step) : Prop where
  taken : steps.filterMap Step.old? = List.range old.length
  filled : steps.filterMap Step.new? = List.range new.length
  same : ∀ i j, Step.keep i j ∈ steps → ∃ a, old[i]? = some a ∧ new[j]? = some a

theorem filterMap_old_stepsFrom (i j : Nat) (script : List (Op α)) :
    (stepsFrom i j script).filterMap Step.old? = List.range' i (before script).length := by
  induction script generalizing i j with
  | nil => rfl
  | cons e script ih =>
      cases e with
      | keep a => exact congrArg (List.cons i) (ih (i + 1) (j + 1))
      | delete a => exact congrArg (List.cons i) (ih (i + 1) j)
      | insert a => exact ih i (j + 1)

theorem filterMap_new_stepsFrom (i j : Nat) (script : List (Op α)) :
    (stepsFrom i j script).filterMap Step.new? = List.range' j (after script).length := by
  induction script generalizing i j with
  | nil => rfl
  | cons e script ih =>
      cases e with
      | keep a => exact congrArg (List.cons j) (ih (i + 1) (j + 1))
      | delete a => exact ih (i + 1) j
      | insert a => exact congrArg (List.cons j) (ih i (j + 1))

theorem same_of_keep_mem {old new : List α} {i j u v : Nat} {script : List (Op α)}
    (hold : old.drop i = before script) (hnew : new.drop j = after script)
    (h : Step.keep u v ∈ stepsFrom i j script) : ∃ a, old[u]? = some a ∧ new[v]? = some a := by
  induction script generalizing i j with
  | nil => cases h
  | cons e script ih =>
      cases e with
      | keep a =>
          obtain ⟨hi, hold⟩ := getElem?_of_drop_eq_cons hold
          obtain ⟨hj, hnew⟩ := getElem?_of_drop_eq_cons hnew
          rcases List.mem_cons.mp h with heq | h
          · cases heq
            exact ⟨a, hi, hj⟩
          · exact ih hold hnew h
      | delete a =>
          obtain ⟨-, hold⟩ := getElem?_of_drop_eq_cons hold
          exact ih hold hnew ((List.mem_cons.mp h).resolve_left nofun)
      | insert a =>
          obtain ⟨-, hnew⟩ := getElem?_of_drop_eq_cons hnew
          exact ih hold hnew ((List.mem_cons.mp h).resolve_left nofun)

def keepCount (steps : List Step) : Nat := steps.countP Step.isKeep

theorem keepCount_cons (step : Step) (steps : List Step) :
    keepCount (step :: steps) = keepCount steps + if step.isKeep then 1 else 0 :=
  List.countP_cons ..

theorem keepCount_stepsFrom (i j : Nat) (script : List (Op α)) :
    keepCount (stepsFrom i j script) = (kept script).length := by
  induction script generalizing i j with
  | nil => rfl
  | cons e script ih => cases e <;> exact (keepCount_cons ..).trans (congrArg (· + _) (ih ..))

/-- A step that keeps something counts on both sides, and one that changes something on one. -/
theorem length_filterMap_add (steps : List Step) :
    (steps.filterMap Step.old?).length + (steps.filterMap Step.new?).length
      = steps.countP Step.isChange + 2 * keepCount steps := by
  induction steps with
  | nil => rfl
  | cons step steps ih =>
      rw [keepCount_cons, List.countP_cons]
      cases step <;>
        simp [List.filterMap_cons, Step.old?, Step.new?, Step.isChange, Step.isKeep] <;> omega

/-- The element at a position that a step keeps. -/
def keptAt? (old : List α) : Step → Option α
  | .keep i _ => old[i]?
  | _ => none

theorem length_filterMap_keptAt {old : List α} {steps : List Step}
    (h : ∀ i j, Step.keep i j ∈ steps → (old[i]?).isSome) :
    (steps.filterMap (keptAt? old)).length = keepCount steps := by
  unfold keepCount
  rw [List.length_filterMap_eq_countP]
  refine List.countP_congr fun step hstep => ?_
  cases step with
  | keep i j => simp [keptAt?, Step.isKeep, h i j hstep]
  | delete i => simp [keptAt?, Step.isKeep]
  | insert j => simp [keptAt?, Step.isKeep]

theorem filterMap_getElem?_range' {as rest : List α} {i : Nat} (h : as.drop i = rest) :
    (List.range' i rest.length).filterMap (as[·]?) = rest := by
  induction rest generalizing i with
  | nil => rfl
  | cons a rest ih =>
      obtain ⟨ha, hrest⟩ := getElem?_of_drop_eq_cons h
      rw [List.length_cons, List.range'_succ, List.filterMap_cons_some ha, ih hrest]

theorem filterMap_getElem?_range (as : List α) :
    (List.range as.length).filterMap (as[·]?) = as := by
  rw [List.range_eq_range']
  exact filterMap_getElem?_range' List.drop_zero

section Leads

variable {old new : List α} {steps : List Step}

theorem Leads.length_add_length (h : Leads old new steps) :
    old.length + new.length = steps.countP Step.isChange + 2 * keepCount steps := by
  rw [← length_filterMap_add, h.taken, h.filled, List.length_range, List.length_range]

/-- What steps keep is a common subsequence. -/
theorem Leads.exists_common (h : Leads old new steps) :
    ∃ l, Common l old new ∧ l.length = keepCount steps := by
  have hold : steps.filterMap (fun step => step.old?.bind (old[·]?)) = old := by
    rw [← List.filterMap_filterMap, h.taken, filterMap_getElem?_range]
  have hnew : steps.filterMap (fun step => step.new?.bind (new[·]?)) = new := by
    rw [← List.filterMap_filterMap, h.filled, filterMap_getElem?_range]
  have hfirst : Sublist (steps.filterMap (keptAt? old)) old := by
    conv_rhs => rw [← hold]
    exact sublist_filterMap fun step _ => by cases step <;> simp [keptAt?, Step.old?]
  have hsecond : Sublist (steps.filterMap (keptAt? old)) new := by
    conv_rhs => rw [← hnew]
    refine sublist_filterMap fun step hstep => ?_
    cases step with
    | keep i j =>
        obtain ⟨a, hi, hj⟩ := h.same i j hstep
        exact .inr (hi.trans hj.symm)
    | delete i => exact .inl rfl
    | insert j => exact .inl rfl
  refine ⟨_, ⟨hfirst, hsecond⟩, length_filterMap_keptAt fun i j hstep => ?_⟩
  obtain ⟨a, hi, -⟩ := h.same i j hstep
  exact hi ▸ rfl

end Leads

variable [DecidableEq α]

theorem leads_steps (old new : List α) : Leads old new (steps old new) where
  taken := by rw [steps, filterMap_old_stepsFrom, before_script, List.range_eq_range']
  filled := by rw [steps, filterMap_new_stepsFrom, after_script, List.range_eq_range']
  same _ _ h := same_of_keep_mem (List.drop_zero.trans (before_script old new).symm)
    (List.drop_zero.trans (after_script old new).symm) h

/-- The steps from one list to another take up the old one and fill the new one, keep a longest
common subsequence, and change no more than any other steps between the two. -/
theorem steps_shortest (old new : List α) :
    Leads old new (steps old new)
      ∧ (∃ l, LongestCommon l old new ∧ keepCount (steps old new) = l.length)
      ∧ ∀ others, Leads old new others →
        (steps old new).countP Step.isChange ≤ others.countP Step.isChange := by
  have hkept : keepCount (steps old new) = lcsLength old new :=
    (keepCount_stepsFrom 0 0 _).trans (length_kept_script old new)
  refine ⟨leads_steps old new, ?_, fun others hothers => ?_⟩
  · obtain ⟨l, hl, hlength⟩ := exists_common old new
    refine ⟨l, ⟨hl, fun other hother => ?_⟩, hkept.trans hlength.symm⟩
    exact hlength ▸ hother.length_le
  · obtain ⟨l, hl, hlength⟩ := hothers.exists_common
    have hcount := (leads_steps old new).length_add_length
    have hcount' := hothers.length_add_length
    have hle := hl.length_le
    omega

end Remedy.Edit
